import FeatureAudit.Proofs.Analysis.Concordance
import FeatureAudit.Proofs.EditDistance
import FeatureAudit.Proofs.Tag.Order

/-!
# Close tags are listed under each other

A concordance lists under each of its tags the others whose keys at most two edits turn into the key
of the tag, all of them and nothing else (`Concordance.lists_iff`), in the strict order of its views
(`Concordance.OneEntryEach.pairwise_tags`). What is listed under a tag lists the tag in turn, because
a script of edits can be taken back (`Tag.Close.symm`).

The search looks at every pair of sorted tags once and enters both tags of a close pair under each
other. Entries come in the order in which tags first come up, each with what is put beneath it
(`Concordance.foldl_enter`). Since no two sorted tags are the same
(`Concordance.OneEntryEach.nodup_tags`), that is what is close to the tag, and it is sorted already
(`Concordance.OneEntryEach.similar_eq`).
-/

set_option autoImplicit false

namespace FeatureAudit

/-! ## Close tags -/

namespace Tag

/-- Whether two tags are not the same, and at most two edits turn the key of the one into that of
the other. -/
def Close (t u : Tag) : Prop := t.folded ≠ u.folded ∧ ∃ n ≤ 2, EditDistance.Script n t.key u.key

variable {t u : Tag}

theorem similar_iff : t.similar u = true ↔ ∃ n ≤ 2, EditDistance.Script n t.key u.key := by
  rw [similar, decide_eq_true_iff, distance, EditDistance.distance_le_iff]

theorem close_iff : t.Close u ↔ t.same u = false ∧ t.similar u = true := by
  rw [Close, similar_iff, Bool.eq_false_iff, ne_eq, ne_eq, same_iff]

theorem similar_comm (t u : Tag) : t.similar u = u.similar t := by
  rw [similar, similar, distance, distance, EditDistance.distance_comm]

theorem Close.symm (h : t.Close u) : u.Close t := by
  obtain ⟨hne, n, hn, hscript⟩ := h
  exact ⟨hne.symm, n, hn, hscript.symm⟩

instance (taxonomy : Taxonomy) : Std.TransCmp (compareIn taxonomy) :=
  Text.transCmp_then (Text.transCmp_on fun t : Tag => (taxonomy.categoryOf t).rank) inferInstance

/-- What the order of a view does not tell apart is the same tag. -/
theorem folded_eq_of_compareIn {taxonomy : Taxonomy} (h : compareIn taxonomy t u = .eq) :
    t.folded = u.folded := by
  simp only [compareIn, compareNames, Ordering.then_eq_eq] at h
  exact Std.LawfulEqCmp.eq_of_compare h.2.1

end Tag

namespace Concordance

/-! ## The tags of a concordance -/

section Tags

variable {c : Concordance} {t : Tag}

theorem mem_tags_iff : t ∈ c.tags ↔ t ∈ c.counts.map Prod.fst :=
  ((Text.sortBy_perm _ _).map Prod.fst).mem_iff

/-- The tags of a corpus are its first mentions. -/
theorem mem_tags_ofFeatures {taxonomy : Taxonomy} {features : List Feature} :
    t ∈ (ofFeatures taxonomy features).tags ↔ Feature.firstMention? features t = some t := by
  rw [(tags_perm taxonomy features).mem_iff, Tag.mem_distinct_iff, find?_mentions]

theorem OneEntryEach.nodup_tags (h : c.OneEntryEach) : (c.tags.map Tag.folded).Nodup := by
  rw [tags, List.map_map]
  exact (((Text.sortBy_perm _ _).map _).nodup_iff).2 h

/-- Sorted tags ascend strictly, since no two of them are the same. -/
theorem OneEntryEach.pairwise_tags (h : c.OneEntryEach) :
    c.tags.Pairwise fun t u => Tag.compareIn c.taxonomy t u = .lt := by
  have : Std.TransCmp fun e f : Tag × Int => Tag.compareIn c.taxonomy e.1 f.1 :=
    Text.transCmp_on Prod.fst
  have hsorted : c.tags.Pairwise fun t u => (Tag.compareIn c.taxonomy t u).isLE = true :=
    List.pairwise_map.2 (Text.pairwise_sortBy _ c.counts)
  refine (hsorted.and (List.pairwise_map.1 h.nodup_tags)).imp ?_
  rintro t u ⟨hle, hne⟩
  cases hcmp : Tag.compareIn c.taxonomy t u with
  | lt => rfl
  | eq => exact absurd (Tag.folded_eq_of_compareIn hcmp) hne
  | gt => simp [hcmp] at hle

end Tags

/-! ## The search -/

/-- What is put under a tag, in order. -/
def beneath (ds : List (Tag × Tag)) (t : Tag) : List Tag :=
  (ds.filter fun d => t.same d.1).map Prod.snd

theorem beneath_append (ds ds' : List (Tag × Tag)) (t : Tag) :
    beneath (ds ++ ds') t = beneath ds t ++ beneath ds' t := by
  rw [beneath, List.filter_append, List.map_append]
  rfl

theorem beneath_eq_nil {ds : List (Tag × Tag)} {t : Tag} (h : ∀ d ∈ ds, t.same d.1 = false) :
    beneath ds t = [] := by
  rw [beneath, List.map_eq_nil_iff, List.filter_eq_nil_iff]
  exact fun d hd => Bool.eq_false_iff.1 (h d hd)

/-- Where a tag and those of a list are put under each other, the list stands beneath the tag, and
the tag beneath each of the list. -/
theorem beneath_block {us : List Tag} {a : Tag} (h : ∀ u ∈ us, a.same u = false) (t : Tag) :
    beneath (us.flatMap fun u => [(a, u), (u, a)]) t =
      if t.same a then us else (us.filter t.same).map fun _ => a := by
  induction us with
  | nil => simp [beneath]
  | cons u us ih =>
    have hu := h u (List.mem_cons_self ..)
    have hpair : beneath [(a, u), (u, a)] t =
        (if t.same a then [u] else []) ++ if t.same u then [a] else [] := by
      by_cases hta : t.same a <;> by_cases htu : t.same u <;> simp [beneath, hta, htu]
    rw [List.flatMap_cons, beneath_append, hpair, ih fun v hv => h v (List.mem_cons_of_mem _ hv)]
    by_cases hta : t.same a
    · have htu : t.same u = false := by
        rw [Bool.eq_false_iff, ne_eq, Tag.same_iff] at hu ⊢
        exact fun heq => hu ((Tag.same_iff.1 hta).symm.trans heq)
      simp [hta, htu]
    · by_cases htu : t.same u <;> simp [hta, htu]

/-- One more tag is put behind those that stand under the same tag, or under a tag of its own. -/
theorem enter_map (us : List Tag) (listed : Tag → List Tag) (d : Tag × Tag) :
    enter (us.map fun u => (u, listed u)) d =
      (us.map fun u => (u, listed u ++ if d.1.same u then [d.2] else [])) ++
        if d.1.mentioned us then [] else [(d.1, [d.2])] := by
  have hany : ((us.map fun u => (u, listed u)).any fun e => d.1.same e.1) = d.1.mentioned us :=
    List.any_map
  rw [enter, hany]
  by_cases hd : d.1.mentioned us
  · rw [if_pos hd, if_pos hd, List.map_map, List.append_nil]
    refine List.map_congr_left fun u _ => ?_
    by_cases hu : d.1.same u <;> simp [hu]
  · have hnone : ∀ u ∈ us, d.1.same u = false := by simpa [Tag.mentioned] using hd
    rw [if_neg hd, if_neg hd]
    refine congrArg (· ++ _) (List.map_congr_left fun u hu => ?_)
    simp [hnone u hu]

/-- Tags are entered in the order in which they first come up. -/
theorem foldl_enter (ds : List (Tag × Tag)) :
    ds.foldl enter [] = (Tag.distinct (ds.map Prod.fst)).map fun t => (t, beneath ds t) := by
  induction ds using List.reverseRecOn with
  | nil => rfl
  | append_singleton ds d ih =>
    have hbeneath : ∀ t, beneath (ds ++ [d]) t =
        beneath ds t ++ if d.1.same t then [d.2] else [] := by
      intro t
      rw [beneath_append, Tag.same_comm d.1 t]
      by_cases ht : t.same d.1 <;> simp [beneath, ht]
    rw [List.foldl_append, ih, List.foldl_cons, List.foldl_nil, enter_map, Tag.mentioned_distinct,
      List.map_append, List.map_cons, List.map_nil, Tag.distinct_concat, List.map_append]
    simp only [hbeneath]
    by_cases hd : d.1.mentioned (ds.map Prod.fst)
    · simp [hd]
    · have hnone : beneath ds d.1 = [] := beneath_eq_nil (by simpa [Tag.mentioned] using hd)
      have hself : d.1.same d.1 = true := Tag.same_iff.2 rfl
      simp [hd, hnone, hself]

/-- The close pairs of a list, each of them in both directions, as the search comes upon them. -/
def bothWays (ts : List Tag) : List (Tag × Tag) :=
  ((Tag.pairs ts).filter fun p => p.1.similar p.2).flatMap fun p => [p, (p.2, p.1)]

/-- The tags of close pairs of a list, in the order in which pairs bring them up. -/
def suspects (ts : List Tag) : List Tag := Tag.distinct ((bothWays ts).map Prod.fst)

/-- The tags of a list that are close to a tag but not the same. -/
def neighbours (ts : List Tag) (t : Tag) : List Tag :=
  ts.filter fun u => !t.same u && t.similar u

theorem similar_eq_beneath (c : Concordance) : c.similar = (suspects c.tags).map fun t =>
    (t, Text.sortBy (Tag.compareIn c.taxonomy) (beneath (bothWays c.tags) t)) := by
  have hsearch : ((Tag.pairs c.tags).filter fun p => p.1.similar p.2).foldl enterBoth [] =
      (bothWays c.tags).foldl enter [] := by
    rw [bothWays, List.foldl_flatMap]
    rfl
  rw [similar, hsearch, foldl_enter, List.map_map]
  rfl

/-! ## What the search comes upon -/

theorem bothWays_cons (t : Tag) (ts : List Tag) : bothWays (t :: ts) =
    ((ts.filter fun u => t.similar u).flatMap fun u => [(t, u), (u, t)]) ++ bothWays ts := by
  rw [bothWays, Tag.pairs, List.filter_append, List.flatMap_append, List.filter_map,
    List.flatMap_map]
  rfl

theorem mem_bothWays_iff {ts : List Tag} {t u : Tag} : (t, u) ∈ bothWays ts ↔
    ((t, u) ∈ Tag.pairs ts ∨ (u, t) ∈ Tag.pairs ts) ∧ t.similar u = true := by
  rw [bothWays, List.mem_flatMap]
  constructor
  · rintro ⟨p, hp, hd⟩
    obtain ⟨hpair, hsimilar⟩ := List.mem_filter.1 hp
    rcases List.mem_pair.1 hd with rfl | heq
    · exact ⟨Or.inl hpair, hsimilar⟩
    · obtain ⟨rfl, rfl⟩ := Prod.mk.inj heq
      exact ⟨Or.inr hpair, by rw [Tag.similar_comm]; exact hsimilar⟩
  · rintro ⟨hpair | hpair, hsimilar⟩
    · exact ⟨(t, u), List.mem_filter.2 ⟨hpair, hsimilar⟩, by simp⟩
    · exact ⟨(u, t), List.mem_filter.2 ⟨hpair, by rw [Tag.similar_comm]; exact hsimilar⟩, by simp⟩

theorem mem_of_mem_suspects {ts : List Tag} {t : Tag} (h : t ∈ suspects ts) : t ∈ ts := by
  obtain ⟨⟨t, u⟩, hd, rfl⟩ := List.mem_map.1 (Tag.distinct_subset _ h)
  rcases (mem_bothWays_iff.1 hd).1 with hpair | hpair
  · exact (Tag.mem_of_mem_pairs hpair).1
  · exact (Tag.mem_of_mem_pairs hpair).2

/-- Only tags of the concordance are close to each other. -/
theorem mem_tags_of_mem_similar {c : Concordance} {e : Tag × List Tag} (h : e ∈ c.similar) :
    e.1 ∈ c.tags := by
  rw [similar_eq_beneath] at h
  obtain ⟨t, ht, rfl⟩ := List.mem_map.1 h
  exact mem_of_mem_suspects ht

section Distinct

variable {ts : List Tag} (h : (ts.map Tag.folded).Nodup) {t : Tag}

include h

theorem mem_bothWays_iff_close {u : Tag} :
    (t, u) ∈ bothWays ts ↔ t ∈ ts ∧ u ∈ ts ∧ t.Close u := by
  rw [mem_bothWays_iff]
  constructor
  · rintro ⟨hpair | hpair, hsimilar⟩
    all_goals
      obtain ⟨hfirst, hsecond⟩ := Tag.mem_of_mem_pairs hpair
      have hne := Tag.rel_of_mem_pairs (List.pairwise_map.1 h) hpair
    · exact ⟨hfirst, hsecond, hne, Tag.similar_iff.1 hsimilar⟩
    · exact ⟨hsecond, hfirst, hne.symm, Tag.similar_iff.1 hsimilar⟩
  · rintro ⟨ht, hu, hclose⟩
    have hne : t ≠ u := fun heq => hclose.1 (congrArg Tag.folded heq)
    exact ⟨Tag.mem_pairs_or_mem_pairs ht hu hne, (Tag.close_iff.1 hclose).2⟩

/-- A tag is entered exactly if another one is close to it. -/
theorem mem_suspects_iff : t ∈ suspects ts ↔ t ∈ ts ∧ ∃ u ∈ ts, t.Close u := by
  constructor
  · intro ht
    obtain ⟨⟨t, u⟩, hd, rfl⟩ := List.mem_map.1 (Tag.distinct_subset _ ht)
    obtain ⟨hfirst, hsecond, hclose⟩ := (mem_bothWays_iff_close h).1 hd
    exact ⟨hfirst, u, hsecond, hclose⟩
  · rintro ⟨ht, u, hu, hclose⟩
    have hmem : t ∈ (bothWays ts).map Prod.fst :=
      List.mem_map.2 ⟨(t, u), (mem_bothWays_iff_close h).2 ⟨ht, hu, hclose⟩, rfl⟩
    refine Tag.mem_distinct_of_mem hmem fun v hv hfold => ?_
    obtain ⟨d, hd, rfl⟩ := List.mem_map.1 hv
    exact List.inj_on_of_nodup_map h ((mem_bothWays_iff_close h).1 hd).1 ht hfold.symm

theorem filter_same (ht : t ∈ ts) : ts.filter t.same = [t] := by
  have hself : ∀ u ∈ ts, t.same u = true → u = t := fun u hu hsame =>
    List.inj_on_of_nodup_map h hu ht (Tag.same_iff.1 hsame).symm
  have hone : (ts.filter t.same).length = 1 := by
    rw [← List.countP_eq_length_filter, Tag.countP_same]
    exact List.count_eq_one_of_mem h (List.mem_map_of_mem ht)
  obtain ⟨u, hu⟩ := List.length_eq_one_iff.1 hone
  obtain ⟨hmem, hsame⟩ := List.mem_filter.1 (hu ▸ List.mem_singleton_self u)
  rw [hu, hself u hmem hsame]

/-- Where no tag is repeated, the search puts under a tag what is close to it, in order. -/
theorem beneath_bothWays (ht : t ∈ ts) : beneath (bothWays ts) t = neighbours ts t := by
  induction ts with
  | nil => simp at ht
  | cons a ts ih =>
    obtain ⟨ha, hts⟩ := List.nodup_cons.1 h
    have hothers : ∀ u ∈ ts, a.same u = false := by
      intro u hu
      rw [Bool.eq_false_iff, ne_eq, Tag.same_iff]
      exact fun heq => ha (heq ▸ List.mem_map_of_mem hu)
    rw [bothWays_cons, beneath_append,
      beneath_block fun u hu => hothers u (List.mem_of_mem_filter hu)]
    rcases List.mem_cons.1 ht with rfl | ht
    · -- the first tag is in no pair of the others
      have hself : t.same t = true := Tag.same_iff.2 rfl
      have hrest : beneath (bothWays ts) t = [] := beneath_eq_nil fun d hd =>
        hothers d.1 ((mem_bothWays_iff_close hts).1 hd).1
      have hclose : ts.filter (fun u => !t.same u && t.similar u) = ts.filter t.similar :=
        List.filter_congr fun u hu => by simp [hothers u hu]
      simp [neighbours, hself, hrest, hclose]
    · have hne : t.same a = false := by rw [Tag.same_comm, hothers t ht]
      have hblock : (ts.filter a.similar).filter t.same = if a.similar t then [t] else [] := by
        rw [List.filter_filter, List.filter_congr fun u _ => Bool.and_comm .., ← List.filter_filter,
          filter_same hts ht, List.filter_singleton, cond_eq_ite]
      rw [ih hts ht, hblock, Tag.similar_comm a t, neighbours, neighbours, List.filter_cons]
      by_cases hclose : t.similar a <;> simp [hne, hclose]

end Distinct

/-! ## What is listed -/

/-- Whether a tag is listed under another as close to it. -/
def Lists (c : Concordance) (t u : Tag) : Prop := ∃ others, (t, others) ∈ c.similar ∧ u ∈ others

/-- The pairs of a tag and a tag that is listed under it. -/
def closePairs (c : Concordance) : List (Tag × Tag) :=
  c.similar.flatMap fun e => e.2.map fun u => (e.1, u)

theorem mem_neighbours_iff {ts : List Tag} {t u : Tag} :
    u ∈ neighbours ts t ↔ u ∈ ts ∧ t.Close u := by
  rw [neighbours, List.mem_filter, Tag.close_iff, Bool.and_eq_true, Bool.not_eq_true']

section Listed

variable {c : Concordance} (h : c.OneEntryEach)

include h

theorem OneEntryEach.pairwise_neighbours (t : Tag) :
    (neighbours c.tags t).Pairwise fun u v => Tag.compareIn c.taxonomy u v = .lt :=
  h.pairwise_tags.filter _

/-- The search lists under every suspect its neighbours, and they are sorted when it ends. -/
theorem OneEntryEach.similar_eq :
    c.similar = (suspects c.tags).map fun t => (t, neighbours c.tags t) := by
  rw [similar_eq_beneath]
  refine List.map_congr_left fun t ht => ?_
  have hsorted : Text.sortBy (Tag.compareIn c.taxonomy) (neighbours c.tags t) =
      neighbours c.tags t :=
    List.mergeSort_of_pairwise <| (h.pairwise_neighbours t).imp fun hlt => by rw [hlt]; rfl
  rw [beneath_bothWays h.nodup_tags (mem_of_mem_suspects ht), hsorted]

/-- **Close tags are listed in full.** -/
theorem lists_iff {t u : Tag} : c.Lists t u ↔ t ∈ c.tags ∧ u ∈ c.tags ∧ t.Close u := by
  rw [Lists, h.similar_eq]
  constructor
  · rintro ⟨others, hentry, hu⟩
    obtain ⟨t', ht', heq⟩ := List.mem_map.1 hentry
    obtain ⟨rfl, rfl⟩ := Prod.mk.inj heq
    obtain ⟨hmem, hclose⟩ := mem_neighbours_iff.1 hu
    exact ⟨mem_of_mem_suspects ht', hmem, hclose⟩
  · rintro ⟨ht, hu, hclose⟩
    exact ⟨neighbours c.tags t,
      List.mem_map_of_mem ((mem_suspects_iff h.nodup_tags).2 ⟨ht, u, hu, hclose⟩),
      mem_neighbours_iff.2 ⟨hu, hclose⟩⟩

theorem lists_comm {t u : Tag} : c.Lists t u ↔ c.Lists u t := by
  rw [lists_iff h, lists_iff h]
  exact ⟨fun ⟨ht, hu, hclose⟩ => ⟨hu, ht, hclose.symm⟩,
    fun ⟨hu, ht, hclose⟩ => ⟨ht, hu, hclose.symm⟩⟩

theorem pairwise_of_mem_similar {e : Tag × List Tag} (he : e ∈ c.similar) :
    e.2.Pairwise fun t u => Tag.compareIn c.taxonomy t u = .lt := by
  rw [h.similar_eq] at he
  obtain ⟨t, -, rfl⟩ := List.mem_map.1 he
  exact h.pairwise_neighbours t

theorem ne_nil_of_mem_similar {e : Tag × List Tag} (he : e ∈ c.similar) : e.2 ≠ [] := by
  rw [h.similar_eq] at he
  obtain ⟨t, ht, rfl⟩ := List.mem_map.1 he
  obtain ⟨-, u, hu, hclose⟩ := (mem_suspects_iff h.nodup_tags).1 ht
  exact List.ne_nil_of_mem (mem_neighbours_iff.2 ⟨hu, hclose⟩)

omit h in
theorem nodup_keys_similar (c : Concordance) : (c.similar.map fun e => e.1.folded).Nodup := by
  rw [similar_eq_beneath, List.map_map]
  exact Tag.nodup_folded_distinct _

omit h in
theorem mem_closePairs_iff {t u : Tag} : (t, u) ∈ c.closePairs ↔ c.Lists t u := by
  rw [closePairs, List.mem_flatMap]
  constructor
  · rintro ⟨⟨t', others⟩, he, hpair⟩
    obtain ⟨u', hu, heq⟩ := List.mem_map.1 hpair
    obtain ⟨rfl, rfl⟩ := Prod.mk.inj heq
    exact ⟨others, he, hu⟩
  · rintro ⟨others, he, hu⟩
    exact ⟨(t, others), he, List.mem_map_of_mem hu⟩

/-- No pair is listed twice. -/
theorem nodup_closePairs : c.closePairs.Nodup := by
  refine List.nodup_flatMap.2 ⟨fun e he => ?_, ?_⟩
  · have hothers : e.2.Nodup := (pairwise_of_mem_similar h he).imp fun {t u} hlt heq => by
      have hself : Tag.compareIn c.taxonomy t t = .eq := Std.ReflCmp.compare_self
      rw [← heq, hself] at hlt
      contradiction
    exact hothers.map fun u v huv => (Prod.mk.inj huv).2
  -- pairs of different entries differ in their first tag
  · refine (List.pairwise_map.1 (nodup_keys_similar c)).imp fun {e f} hne => ?_
    intro p hp hp'
    obtain ⟨u, -, rfl⟩ := List.mem_map.1 hp
    obtain ⟨v, -, heq⟩ := List.mem_map.1 hp'
    exact hne (congrArg Tag.folded (Prod.mk.inj heq).1.symm)

end Listed

end Concordance

end FeatureAudit
