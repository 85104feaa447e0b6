import FeatureAudit.Detect.Survey
import FeatureAudit.Proofs.Analysis.Trend
import FeatureAudit.Run

/-!
# What it means that a feature carries a tag

Features are chosen by tags, scored by them, followed along their timelines and counted for
findings, each time by code of its own. All of it goes by one relation between features and tags, so
that the numbers are the same (`carriedBy`), and choosing by tags is choosing by that relation
(`Selection.keeps_iff`). The theorem is `carrying_agrees`.
-/

set_option autoImplicit false

namespace FeatureAudit

/-! ## Choosing features -/

theorem Feature.carriesAny_iff {f : Feature} {ts : List Tag} :
    f.carriesAny ts = true ↔ ∃ t ∈ ts, f.carries t = true := by
  simp only [carriesAny, carries, Bool.or_eq_true, List.any_eq_true]
  constructor
  · rintro (⟨t, ht, hown⟩ | ⟨s, hs, t, ht, hscenario⟩)
    · exact ⟨t, ht, Or.inl hown⟩
    · exact ⟨t, ht, Or.inr ⟨s, hs, hscenario⟩⟩
  · rintro ⟨t, ht, hown | ⟨s, hs, hscenario⟩⟩
    · exact Or.inl ⟨t, ht, hown⟩
    · exact Or.inr ⟨s, hs, t, ht, hscenario⟩

namespace Selection

variable {s : Selection} {f : Feature} {features : List Feature}

/-- What a selection is after: one of the wanted tags, if there are any, and no unwanted one. -/
def Admits (s : Selection) (f : Feature) : Prop :=
  (s.wanted = [] ∨ ∃ t ∈ s.wanted, f.carries t = true) ∧ ∀ t ∈ s.unwanted, f.carries t = false

instance : Decidable (s.Admits f) := inferInstanceAs (Decidable (_ ∧ _))

theorem keeps_iff : s.keeps f = true ↔ s.Admits f := by
  have hunwanted : (s.unwanted.isEmpty || !f.carriesAny s.unwanted) = true ↔
      ∀ t ∈ s.unwanted, f.carries t = false := by
    rw [Bool.or_eq_true, Bool.not_eq_true', Bool.eq_false_iff, ne_eq, Feature.carriesAny_iff]
    cases s.unwanted <;> simp
  rw [keeps, Bool.and_eq_true, hunwanted, Bool.or_eq_true, List.isEmpty_iff,
    Feature.carriesAny_iff, Admits]

theorem filter_eq (s : Selection) (features : List Feature) :
    s.filter features = features.filter fun f => decide (s.Admits f) :=
  List.filter_congr fun f _ => by rw [Bool.eq_iff_iff, keeps_iff, decide_eq_true_iff]

theorem filter_filter (s : Selection) (features : List Feature) :
    s.filter (s.filter features) = s.filter features := by
  simp only [filter, List.filter_filter, Bool.and_self]

/-- No tag list of the features that are chosen mentions an unwanted tag. -/
theorem count_unwanted (taxonomy : Taxonomy) {t : Tag} (ht : t ∈ s.unwanted) :
    (Concordance.ofFeatures taxonomy (s.filter features)).count t = 0 := by
  have hnone : ¬ 0 < Feature.listsWith (s.filter features) t := by
    rw [Feature.listsWith_pos_iff]
    rintro ⟨f, hf, hcarries⟩
    have hadmits := keeps_iff.1 (List.mem_filter.1 hf).2
    rw [hadmits.2 t ht] at hcarries
    exact Bool.false_ne_true hcarries
  rw [Concordance.count_ofFeatures, Nat.eq_zero_of_not_pos hnone]
  rfl

end Selection

/-! ## Counting features -/

/-- The number of features that carry a tag, as it is found in five ways. -/
structure CarriedBy (features : List Feature) (t : Tag) (n : Nat) : Prop where
  /-- How many features a selection by the tag keeps. -/
  chosen : (Selection.filter ⟨[t], []⟩ features).length = n
  /-- How many features a selection without the tag drops. -/
  left_out : (Selection.filter ⟨[], [t]⟩ features).length + n = features.length
  /-- The number of features that the score of the tag is made of. -/
  scored : (Significance.documentFrequencies features).count t = n
  /-- What the timeline of the tag adds up to. -/
  timeline : (Trend.timelineOf features t).sum = n
  /-- How many features a finding about the tag tells of. -/
  told : Survey.carriers features t = n

section Count

variable (features : List Feature) (t : Tag)

theorem length_filter_wanted : (Selection.filter ⟨[t], []⟩ features).length =
    features.countP fun f => f.carries t := by
  rw [Selection.filter_eq, ← List.countP_eq_length_filter]
  simp [Selection.Admits]

theorem length_filter_unwanted : (Selection.filter ⟨[], [t]⟩ features).length =
    features.countP fun f => !f.carries t := by
  rw [Selection.filter_eq, ← List.countP_eq_length_filter]
  simp [Selection.Admits]

/-- A feature scores each tag that it carries once. -/
theorem count_documentFrequencies : (Significance.documentFrequencies features).count t =
    features.countP fun f => f.carries t := by
  have hsets : features.flatMap Feature.tagSet =
      (features.map fun f => f.tagLists.flatten).flatMap Tag.distinct := by
    rw [List.flatMap_map]
    rfl
  have hcarries : t.mentioned ∘ (fun f : Feature => f.tagLists.flatten) =
      fun f => f.carries t := by
    funext f
    rw [← Feature.mentioned_tagSet, Feature.tagSet, Tag.mentioned_distinct]
    rfl
  rw [Significance.documentFrequencies, Tag.Tally.count_ofTags, hsets,
    Tag.countP_flatMap_distinct, List.countP_map, hcarries]

theorem sum_timelineOf : (Trend.timelineOf features t).sum =
    features.countP fun f => f.carries t := by
  rw [Trend.timelineOf_eq]
  induction features with
  | nil => rfl
  | cons f features ih =>
    rw [List.map_cons, List.sum_cons, ih, List.countP_cons]
    split <;> omega

theorem carriedBy : CarriedBy features t (features.countP fun f => f.carries t) where
  chosen := length_filter_wanted features t
  left_out := by
    have hparts := List.length_eq_countP_add_countP (fun f => f.carries t) (l := features)
    rw [length_filter_unwanted, hparts, Nat.add_comm]
    simp only [Bool.not_eq_true, Bool.decide_eq_false]
  scored := count_documentFrequencies features t
  timeline := sum_timelineOf features t
  told := rfl

end Count

/-- **All counts of the features that carry a tag agree.** For each tag there is one number that a
selection by it, its score, its timeline and a finding about it have in common; for a tag of the
concordance it is positive, and is what its trend adds up to and what its score is made of. A
selection keeps, in order, just the features that carry one of the wanted tags, if there are any,
and no unwanted one; what it keeps has no mention of an unwanted tag, and is kept again as it is. -/
theorem carrying_agrees (taxonomy : Taxonomy) (features : List Feature) :
    let c := Concordance.ofFeatures taxonomy features
    (∀ t, ∃ n, CarriedBy features t n ∧ (t ∈ c.tags → 0 < n ∧
      (∃ d ∈ Trend.ofFeatures features c, d.tag = t ∧ d.timeline.sum = n) ∧
      (t, Significance.score features.length (c.count t) n) ∈
        Significance.ofFeatures features c)) ∧
    ∀ s : Selection,
      s.filter features = features.filter (fun f => decide (s.Admits f)) ∧
        (∀ t ∈ s.unwanted, (Concordance.ofFeatures taxonomy (s.filter features)).count t = 0) ∧
        s.filter (s.filter features) = s.filter features := by
  intro c
  refine ⟨fun t => ⟨_, carriedBy features t, fun ht => ?_⟩, fun s =>
    ⟨s.filter_eq features, fun t => Selection.count_unwanted taxonomy, s.filter_filter features⟩⟩
  obtain ⟨f, hf, ts, hts, hmem⟩ := Concordance.exists_list_of_mem_tags ht
  have hcarries : f.carries t = true := by
    rw [← f.any_tagLists t, List.any_eq_true]
    exact ⟨ts, hts, Tag.mentioned_iff.2 (List.mem_map_of_mem hmem)⟩
  refine ⟨List.countP_pos_iff.2 ⟨f, hf, hcarries⟩, ⟨Trend.ofTag features c t,
    List.mem_map_of_mem ht, rfl, sum_timelineOf features t⟩, ?_⟩
  have hnonempty : ¬ features.isEmpty = true := by
    rw [List.isEmpty_iff]
    exact List.ne_nil_of_mem hf
  rw [Significance.ofFeatures, if_neg hnonempty]
  refine List.mem_map.2 ⟨t, ht, ?_⟩
  rw [count_documentFrequencies, Int.toNat_natCast]

theorem carrying_agrees_depot :
    let c := Concordance.ofFeatures .standard Trend.depot
    let night : Tag := .named "@night"
    let goods : Tag := .named "@GOODS"
    night ∈ c.tags ∧ CarriedBy Trend.depot night 2 ∧
      (∃ d ∈ Trend.ofFeatures Trend.depot c, d.tag = night ∧ d.timeline.sum = 2) ∧
      goods ∈ (Selection.mk [night] [goods]).unwanted ∧
      (Selection.filter ⟨[night], [goods]⟩ Trend.depot).map Feature.name = ["Dispatch"] ∧
      (Concordance.ofFeatures .standard
        (Selection.filter ⟨[night], [goods]⟩ Trend.depot)).count goods = 0 := by
  intro c night goods
  obtain ⟨hcounts, hselections⟩ := carrying_agrees .standard Trend.depot
  obtain ⟨n, hcarried, htag⟩ := hcounts night
  obtain ⟨hfilter, hunwanted, -⟩ := hselections ⟨[night], [goods]⟩
  have hnight : night ∈ c.tags :=
    (Concordance.tags_perm .standard Trend.depot).mem_iff.2 (by decide +kernel)
  have hgoods : goods ∈ (Selection.mk [night] [goods]).unwanted := List.mem_singleton_self goods
  obtain rfl : n = 2 := by
    rw [← hcarried.told]
    decide +kernel
  exact ⟨hnight, hcarried, (htag hnight).2.1, hgoods, by rw [hfilter]; decide +kernel,
    hunwanted goods hgoods⟩

end FeatureAudit
