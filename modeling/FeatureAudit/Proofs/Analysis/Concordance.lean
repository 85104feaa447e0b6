import FeatureAudit.Concordance
import FeatureAudit.Proofs.Tag.Tally
import FeatureAudit.Proofs.Text.Order

/-!
# What a concordance holds

A concordance has one entry for every tag (`oneEntryEach_ofFeatures`), shows the tag as it is first
mentioned (`get?_ofFeatures`) and counts the tag lists that mention it (`count_ofFeatures`). The
counts add up to the distinct tags of all lists, and those of two corpora add up to those of both
together (`ofFeatures_counts`). Its views are the first mentions of a corpus in some order
(`tags_perm`, `byFrequency_perm`, `withCount_perm`), so each of them lists a tag once if the tag
belongs there, and not at all otherwise (`countP_tags`, `countP_byFrequency`, `countP_withCount`).
-/

set_option autoImplicit false

namespace FeatureAudit

namespace Feature

/-- The number of tag lists of a corpus that mention a tag. -/
def listsWith (features : List Feature) (t : Tag) : Nat :=
  (features.flatMap tagLists).countP t.mentioned

/-- The first mention of a tag in a corpus, as it is spelled there. -/
def firstMention? (features : List Feature) (t : Tag) : Option Tag :=
  (features.flatMap tagLists).flatten.find? t.same

/-- A tag list stands on a feature or on a scenario. -/
theorem listsWith_eq (features : List Feature) (t : Tag) : listsWith features t =
    (features.countP fun f => t.mentioned f.tags) +
      (features.flatMap scenarios).countP fun s => t.mentioned s.tags := by
  induction features with
  | nil => rfl
  | cons f features ih =>
    rw [listsWith] at ih ⊢
    rw [List.flatMap_cons, List.countP_append, ih, tagLists, List.countP_cons, List.countP_map,
      List.countP_cons, List.flatMap_cons, List.countP_append]
    simp only [Function.comp_def]
    omega

/-- A feature carries a tag exactly if one of its tag lists mentions it. -/
theorem any_tagLists (f : Feature) (t : Tag) : f.tagLists.any t.mentioned = f.carries t := by
  rw [tagLists, List.any_cons, List.any_map]
  rfl

/-- A feature carries a tag exactly if its set has it. -/
theorem mentioned_tagSet (f : Feature) (t : Tag) : t.mentioned f.tagSet = f.carries t := by
  rw [tagSet, Tag.mentioned_distinct, ← any_tagLists, Tag.mentioned, List.any_flatten]
  rfl

/-- Some tag list of a corpus mentions a tag exactly if a feature carries it. -/
theorem listsWith_pos_iff {features : List Feature} {t : Tag} :
    0 < listsWith features t ↔ ∃ f ∈ features, f.carries t = true := by
  simp only [listsWith, List.countP_pos_iff, List.mem_flatMap, ← any_tagLists, List.any_eq_true]
  exact ⟨fun ⟨ts, ⟨f, hf, hts⟩, ht⟩ => ⟨f, hf, ts, hts, ht⟩,
    fun ⟨f, hf, ts, hts, ht⟩ => ⟨ts, ⟨f, hf, hts⟩, ht⟩⟩

theorem listsWith_append (xs ys : List Feature) (t : Tag) :
    listsWith (xs ++ ys) t = listsWith xs t + listsWith ys t := by
  rw [listsWith, List.flatMap_append, List.countP_append]
  rfl

end Feature

namespace Concordance

/-- Whether every tag has one entry. -/
def OneEntryEach (c : Concordance) : Prop := (c.counts.map fun e => e.1.folded).Nodup

theorem oneEntryEach_ofFeatures (taxonomy : Taxonomy) (features : List Feature) :
    (ofFeatures taxonomy features).OneEntryEach :=
  Tag.Tally.nodup_folded_ofTags (mentions features)

theorem oneEntryEach_ofCounts (taxonomy : Taxonomy) (counts : List (Tag × Int)) :
    (ofCounts taxonomy counts).OneEntryEach := by
  rw [OneEntryEach, ofCounts]
  induction counts using List.reverseRecOn with
  | nil => exact List.nodup_nil
  | append_singleton counts e ih =>
    rw [List.foldl_append]
    exact Tag.Tally.nodup_folded_add ih e.1 e.2

theorem OneEntryEach.ofCategory {c : Concordance} (h : c.OneEntryEach) (category : Tag.Category) :
    (c.ofCategory category).OneEntryEach :=
  h.sublist (List.filter_sublist.map _)

/-- An entry is told by its folded name. -/
theorem OneEntryEach.eq_of_folded {c : Concordance} (h : c.OneEntryEach) {e f : Tag × Int}
    (he : e ∈ c.counts) (hf : f ∈ c.counts) (heq : e.1.folded = f.1.folded) : e = f :=
  List.inj_on_of_nodup_map h he hf heq

/-! ## Tags of the views -/

theorem mem_entries_iff {c : Concordance} {e : Tag × Int} : e ∈ c.entries ↔ e ∈ c.counts :=
  (Text.sortBy_perm _ _).mem_iff

theorem mem_tags_of_mem_withCount {c : Concordance} {p : Int → Bool} {t : Tag}
    (h : t ∈ c.withCount p) : t ∈ c.tags :=
  List.map_subset _ (List.filter_subset_self _) h

/-! ## Counts -/

theorem total_eq_sum (c : Concordance) : c.total = (c.counts.map Prod.snd).sum := by
  rw [total, List.sum_eq_foldl, List.foldl_map]

section Corpus

variable (taxonomy : Taxonomy) (features : List Feature)

/-- A tag list brings up a tag once, however often it repeats it. -/
theorem countP_mentions (t : Tag) :
    (mentions features).countP t.same = Feature.listsWith features t := by
  rw [mentions, Feature.listsWith, Tag.countP_flatMap_distinct]

theorem count_ofFeatures (t : Tag) :
    (ofFeatures taxonomy features).count t = Feature.listsWith features t := by
  rw [count, ofFeatures, Tag.Tally.count_ofTags, countP_mentions]

theorem has_ofFeatures (t : Tag) :
    (ofFeatures taxonomy features).has t = true ↔ 0 < Feature.listsWith features t := by
  rw [has, ofFeatures, Tag.Tally.has_ofTags, Tag.mentioned_iff_countP, countP_mentions]

/-- A tag that a list repeats is brought up as it is mentioned first. -/
theorem find?_mentions (t : Tag) :
    (mentions features).find? t.same = Feature.firstMention? features t := by
  rw [mentions, List.find?_flatMap, Feature.firstMention?, List.find?_flatten]
  simp only [Tag.find?_distinct]

/-- The entry of a tag shows its first mention in the corpus. -/
theorem get?_ofFeatures (t : Tag) :
    ((ofFeatures taxonomy features).counts.get? t).map Prod.fst =
      Feature.firstMention? features t := by
  rw [ofFeatures, Tag.Tally.get?_ofTags, find?_mentions, Option.map_map]
  exact Option.map_id'

theorem total_ofFeatures : (ofFeatures taxonomy features).total =
    ((features.flatMap Feature.tagLists).map fun ts => (ts.map Tag.folded).toFinset.card).sum := by
  rw [total_eq_sum, ofFeatures, Tag.Tally.sum_ofTags, mentions, List.length_flatMap]
  simp only [Tag.length_distinct]

theorem counts_ofFeatures : (ofFeatures taxonomy features).counts =
    (Tag.distinct (mentions features)).map fun t => (t, (Feature.listsWith features t : Int)) := by
  rw [ofFeatures, Tag.Tally.ofTags_eq, Tag.Tally.counted]
  simp only [countP_mentions]

theorem map_fst_counts :
    (ofFeatures taxonomy features).counts.map Prod.fst = Tag.distinct (mentions features) := by
  rw [counts_ofFeatures, List.map_map]
  exact List.map_id _

/-! ## Views -/

theorem tags_perm :
    (ofFeatures taxonomy features).tags.Perm (Tag.distinct (mentions features)) := by
  rw [← map_fst_counts taxonomy]
  exact (Text.sortBy_perm _ _).map Prod.fst

theorem byFrequency_perm :
    (ofFeatures taxonomy features).byFrequency.Perm (Tag.distinct (mentions features)) := by
  rw [← map_fst_counts taxonomy]
  exact (Text.sortBy_perm _ _).map Prod.fst

theorem withCount_perm (p : Int → Bool) :
    ((ofFeatures taxonomy features).withCount p).Perm
      ((Tag.distinct (mentions features)).filter fun t => p (Feature.listsWith features t)) := by
  have hcounts : ((ofFeatures taxonomy features).counts.filter fun e => p e.2).map Prod.fst =
      (Tag.distinct (mentions features)).filter fun t => p (Feature.listsWith features t) := by
    rw [counts_ofFeatures, List.filter_map, List.map_map]
    exact List.map_id _
  rw [← hcounts]
  exact ((Text.sortBy_perm _ _).filter _).map Prod.fst

/-- A tag that is mentioned has one first mention in the corpus. -/
theorem countP_distinct_mentions (t : Tag) :
    (Tag.distinct (mentions features)).countP t.same =
      if 0 < Feature.listsWith features t then 1 else 0 := by
  rw [Tag.countP_distinct]
  simp only [Tag.mentioned_iff_countP, countP_mentions]

theorem countP_tags (t : Tag) : (ofFeatures taxonomy features).tags.countP t.same =
    if 0 < Feature.listsWith features t then 1 else 0 := by
  rw [(tags_perm taxonomy features).countP_eq, countP_distinct_mentions]

theorem countP_byFrequency (t : Tag) : (ofFeatures taxonomy features).byFrequency.countP t.same =
    if 0 < Feature.listsWith features t then 1 else 0 := by
  rw [(byFrequency_perm taxonomy features).countP_eq, countP_distinct_mentions]

theorem listsWith_congr {t u : Tag} (h : t.folded = u.folded) :
    Feature.listsWith features t = Feature.listsWith features u :=
  List.countP_congr fun ts _ => by rw [Tag.mentioned_congr h rfl]

theorem countP_withCount (p : Int → Bool) (t : Tag) :
    ((ofFeatures taxonomy features).withCount p).countP t.same =
      if 0 < Feature.listsWith features t ∧ p (Feature.listsWith features t) = true then 1
      else 0 := by
  have hsame : ∀ u : Tag, (t.same u && p (Feature.listsWith features u)) =
      (t.same u && p (Feature.listsWith features t)) := by
    intro u
    by_cases hu : t.same u
    · rw [listsWith_congr features (Tag.same_iff.1 hu)]
    · simp [hu]
  rw [(withCount_perm taxonomy features p).countP_eq, List.countP_filter]
  simp only [hsame]
  by_cases hp : p (Feature.listsWith features t)
  · simp [hp, countP_distinct_mentions]
  · simp [hp]

variable {taxonomy features}

/-- Every tag of the concordance is spelled so in a tag list. -/
theorem exists_list_of_mem_tags {t : Tag} (h : t ∈ (ofFeatures taxonomy features).tags) :
    ∃ f ∈ features, ∃ ts ∈ f.tagLists, t ∈ ts := by
  have hmention : t ∈ mentions features :=
    Tag.distinct_subset _ ((tags_perm taxonomy features).mem_iff.1 h)
  obtain ⟨ts, hts, ht⟩ := List.mem_flatMap.1 hmention
  obtain ⟨f, hf, hlist⟩ := List.mem_flatMap.1 hts
  exact ⟨f, hf, ts, hlist, Tag.distinct_subset _ ht⟩

end Corpus

/-- **A concordance counts tag lists.** The count of a tag is the number of features that mention it
themselves and of scenarios that do, whatever their kind; a list counts once however often it repeats
the tag, and in whatever case. The tag has an entry if that number is positive, and the entry shows
its first mention. All counts together are the numbers of distinct tags of all lists, and the counts
of two corpora add up to those of the one followed by the other. -/
theorem ofFeatures_counts (taxonomy : Taxonomy) (features : List Feature) (t : Tag) :
    let c := ofFeatures taxonomy features
    let lists := (features.countP fun f => t.mentioned f.tags) +
      (features.flatMap Feature.scenarios).countP fun s => t.mentioned s.tags
    c.count t = lists ∧
      (c.has t = true ↔ 0 < lists) ∧
      (c.counts.get? t).map Prod.fst = Feature.firstMention? features t ∧
      c.total = ((features.flatMap Feature.tagLists).map
        fun ts => (ts.map Tag.folded).toFinset.card).sum ∧
      ∀ others, (ofFeatures taxonomy (features ++ others)).count t =
        c.count t + (ofFeatures taxonomy others).count t := by
  intro c lists
  have hlists : Feature.listsWith features t = lists := Feature.listsWith_eq features t
  refine ⟨?_, ?_, get?_ofFeatures taxonomy features t, total_ofFeatures taxonomy features,
    fun others => ?_⟩
  · rw [← hlists]
    exact count_ofFeatures taxonomy features t
  · rw [← hlists]
    exact has_ofFeatures taxonomy features t
  · rw [count_ofFeatures, count_ofFeatures, count_ofFeatures, Feature.listsWith_append]
    exact Int.natCast_add _ _

end Concordance

end FeatureAudit
