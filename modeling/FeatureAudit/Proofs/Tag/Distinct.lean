import Mathlib.Data.Finset.Card
import FeatureAudit.Tag.Tally

/-!
# Tags are told apart by their folded names

Two tags are the same exactly if their folded names are equal (`Tag.same_iff`), so what a list
mentions is a matter of its folded names (`Tag.mentioned_iff`). First mentions are a case of the
first items of every key (`firstsBy`): they repeat no key and lose none. They keep the order and the
spelling in which tags come up (`Tag.firstMentions_distinct`).
-/

set_option autoImplicit false

namespace FeatureAudit

/-! ## First items of every key -/

section Firsts

variable {α κ : Type} [BEq κ] (key : α → κ)

/-- The first item of every key, in order. -/
def firstsBy : List α → List α
  | [] => []
  | a :: as => a :: (firstsBy as).filter fun b => !(key a == key b)

theorem firstsBy_sublist (as : List α) : (firstsBy key as).Sublist as := by
  induction as with
  | nil => exact List.Sublist.slnil
  | cons a as ih => exact (List.filter_sublist.trans ih).cons_cons a

theorem map_firstsBy (as : List α) : (firstsBy key as).map key = firstsBy id (as.map key) := by
  induction as with
  | nil => rfl
  | cons a as ih =>
    rw [List.map_cons, firstsBy, firstsBy, ← ih, List.map_cons, List.filter_map]
    rfl

variable [LawfulBEq κ]

/-- No key is repeated. -/
theorem nodup_map_firstsBy (as : List α) : ((firstsBy key as).map key).Nodup := by
  induction as with
  | nil => exact List.nodup_nil
  | cons a as ih =>
    rw [firstsBy, List.map_cons, List.nodup_cons]
    constructor
    · intro hmem
      obtain ⟨b, hb, hkey⟩ := List.mem_map.1 hmem
      simp [hkey] at hb
    · exact ih.sublist (List.filter_sublist.map key)

/-- No key is lost. -/
theorem mem_map_firstsBy {as : List α} {k : κ} :
    k ∈ (firstsBy key as).map key ↔ k ∈ as.map key := by
  induction as with
  | nil => rfl
  | cons a as ih =>
    rw [firstsBy, List.map_cons, List.map_cons, List.mem_cons, List.mem_cons, ← ih]
    simp only [List.mem_map, List.mem_filter, Bool.not_eq_true', beq_eq_false_iff_ne]
    constructor
    · rintro (rfl | ⟨b, ⟨hb, -⟩, rfl⟩)
      · exact Or.inl rfl
      · exact Or.inr ⟨b, hb, rfl⟩
    · rintro (rfl | ⟨b, hb, rfl⟩)
      · exact Or.inl rfl
      · by_cases hkey : key a = key b
        · exact Or.inl hkey.symm
        · exact Or.inr ⟨b, ⟨hb, hkey⟩, rfl⟩

theorem countP_key (as : List α) (k : κ) :
    as.countP (fun a => k == key a) = (as.map key).count k := by
  rw [List.count, List.countP_map]
  exact List.countP_congr fun a _ => by rw [Function.comp_apply, Bool.beq_comm]

/-- A key that occurs is that of one first item. -/
theorem countP_firstsBy (as : List α) (k : κ) :
    (firstsBy key as).countP (fun a => k == key a) =
      if 0 < as.countP (fun a => k == key a) then 1 else 0 := by
  rw [countP_key, countP_key, (nodup_map_firstsBy key as).count]
  simp only [List.count_pos_iff, mem_map_firstsBy]

/-- The first items of every key have the same keys in any arrangement. -/
theorem perm_map_firstsBy {as bs : List α} (h : as.Perm bs) :
    ((firstsBy key as).map key).Perm ((firstsBy key bs).map key) := by
  refine (List.perm_ext_iff_of_nodup (nodup_map_firstsBy key as) (nodup_map_firstsBy key bs)).2 ?_
  intro k
  rw [mem_map_firstsBy, mem_map_firstsBy]
  exact (h.map key).mem_iff

end Firsts

namespace Tag

/-! ## The same tag -/

theorem same_iff {t u : Tag} : t.same u = true ↔ t.folded = u.folded := by
  rw [same, beq_iff_eq]

theorem same_comm (t u : Tag) : t.same u = u.same t := by
  rw [same, same, Bool.beq_comm]

theorem mentioned_iff {t : Tag} {ts : List Tag} :
    t.mentioned ts = true ↔ t.folded ∈ ts.map folded := by
  simp only [mentioned, List.any_eq_true, same_iff, List.mem_map]
  exact exists_congr fun u => and_congr_right fun _ => eq_comm

theorem countP_same (t : Tag) (ts : List Tag) :
    ts.countP t.same = (ts.map folded).count t.folded :=
  countP_key folded ts t.folded

theorem mentioned_iff_countP {t : Tag} {ts : List Tag} :
    t.mentioned ts = true ↔ 0 < ts.countP t.same := by
  rw [mentioned_iff, countP_same, List.count_pos_iff]

/-- What a list mentions does not depend on spelling. -/
theorem mentioned_congr {t u : Tag} {ts us : List Tag} (ht : t.folded = u.folded)
    (hts : ts.map folded = us.map folded) : t.mentioned ts = u.mentioned us := by
  rw [Bool.eq_iff_iff, mentioned_iff, mentioned_iff, ht, hts]

/-! ## First mentions -/

theorem distinct_eq_firstsBy (ts : List Tag) : distinct ts = firstsBy folded ts := by
  induction ts with
  | nil => rfl
  | cons t ts ih => rw [distinct, firstsBy, ih]; rfl

theorem nodup_folded_distinct (ts : List Tag) : ((distinct ts).map folded).Nodup := by
  rw [distinct_eq_firstsBy]
  exact nodup_map_firstsBy folded ts

/-- A tag that is mentioned has one first mention. -/
theorem countP_distinct (t : Tag) (ts : List Tag) :
    (distinct ts).countP t.same = if t.mentioned ts then 1 else 0 := by
  have hcount := countP_firstsBy folded ts t.folded
  rw [distinct_eq_firstsBy]
  simp only [mentioned_iff_countP]
  exact hcount

/-- First mentions of several lists are as many as the lists that mention a tag. -/
theorem countP_flatMap_distinct (t : Tag) (lists : List (List Tag)) :
    (lists.flatMap distinct).countP t.same = lists.countP t.mentioned := by
  induction lists with
  | nil => rfl
  | cons ts lists ih =>
    rw [List.flatMap_cons, List.countP_append, ih, countP_distinct, List.countP_cons, Nat.add_comm]

theorem mentioned_distinct (t : Tag) (ts : List Tag) :
    t.mentioned (distinct ts) = t.mentioned ts := by
  rw [Bool.eq_iff_iff, mentioned_iff, mentioned_iff, distinct_eq_firstsBy, mem_map_firstsBy]

/-- First mentions are as many as there are folded names. -/
theorem length_distinct (ts : List Tag) :
    (distinct ts).length = (ts.map folded).toFinset.card := by
  have hnames : (ts.map folded).toFinset = ((distinct ts).map folded).toFinset := by
    ext k
    rw [List.mem_toFinset, List.mem_toFinset, distinct_eq_firstsBy, mem_map_firstsBy]
  rw [hnames, List.toFinset_card_of_nodup (nodup_folded_distinct ts), List.length_map]

/-- What a first mention spells is spelled so in the list. -/
theorem distinct_subset (ts : List Tag) : distinct ts ⊆ ts := by
  rw [distinct_eq_firstsBy]
  exact (firstsBy_sublist folded ts).subset

/-- To look for a first mention is to look for a mention. -/
theorem find?_distinct (t : Tag) (ts : List Tag) :
    (distinct ts).find? t.same = ts.find? t.same := by
  induction ts with
  | nil => rfl
  | cons u us ih =>
    rw [distinct, List.find?_cons, List.find?_cons, List.find?_filter]
    cases htu : t.same u with
    | true => rfl
    | false =>
      -- what the head hides is not the tag that is looked for
      have hsame : (fun v => decide ((!u.same v) = true ∧ t.same v = true)) = t.same := by
        funext v
        rw [Bool.eq_iff_iff, decide_eq_true_iff, and_iff_right_iff_imp, Bool.not_eq_true',
          Bool.eq_false_iff, ne_eq, same_iff, same_iff]
        intro htv huv
        rw [same_iff.2 (htv.trans huv.symm)] at htu
        contradiction
      rw [hsame]
      exact ih

/-- A first mention is what a search for its tag comes upon. -/
theorem mem_distinct_iff {t : Tag} {ts : List Tag} :
    t ∈ distinct ts ↔ ts.find? t.same = some t := by
  rw [← find?_distinct]
  constructor
  · intro h
    obtain ⟨u, hu⟩ := Option.isSome_iff_exists.1 (List.find?_isSome.2 ⟨t, h, same_iff.2 rfl⟩)
    have hfold : t.folded = u.folded := same_iff.1 (List.find?_some hu)
    rw [hu, List.inj_on_of_nodup_map (nodup_folded_distinct ts) (List.mem_of_find?_eq_some hu) h
      hfold.symm]
  · exact List.mem_of_find?_eq_some

/-- Where a tag has one spelling, every mention is a first mention. -/
theorem mem_distinct_of_mem {t : Tag} {ts : List Tag} (h : t ∈ ts)
    (hspelling : ∀ u ∈ ts, t.folded = u.folded → u = t) : t ∈ distinct ts := by
  obtain ⟨u, hu⟩ := Option.isSome_iff_exists.1 (List.find?_isSome.2 ⟨t, h, same_iff.2 rfl⟩)
  rw [mem_distinct_iff, hu,
    hspelling u (List.mem_of_find?_eq_some hu) (same_iff.1 (List.find?_some hu))]

/-- A list is its own first mentions exactly if it mentions no tag twice. -/
theorem distinct_eq_self_iff {ts : List Tag} : distinct ts = ts ↔ (ts.map folded).Nodup := by
  constructor
  · intro h
    rw [← h]
    exact nodup_folded_distinct ts
  · intro h
    induction ts with
    | nil => rfl
    | cons t ts ih =>
      obtain ⟨ht, hts⟩ := List.nodup_cons.1 h
      have hkept : ts.filter (fun u => !t.same u) = ts := by
        rw [List.filter_eq_self]
        intro u hu
        rw [Bool.not_eq_true', Bool.eq_false_iff, ne_eq, same_iff]
        intro hfold
        exact ht (hfold ▸ List.mem_map_of_mem hu)
      rw [distinct, ih hts, hkept]

/-- First mentions of a second list are those of tags that the first one does not mention. -/
theorem distinct_append (ts us : List Tag) :
    distinct (ts ++ us) = distinct ts ++ (distinct us).filter fun u => !u.mentioned ts := by
  induction ts with
  | nil => simp [distinct, mentioned]
  | cons t ts ih =>
    have hmentioned : ∀ u : Tag, u.mentioned (t :: ts) = (t.same u || u.mentioned ts) := by
      intro u
      rw [same_comm t u]
      rfl
    rw [List.cons_append, distinct, ih, List.filter_append, List.filter_filter, distinct]
    simp only [hmentioned, Bool.not_or, List.cons_append]

/-- Whether a list holds the first mention of every tag of another list, in their order. -/
structure FirstMentions (ts us : List Tag) : Prop where
  /-- No two of its tags are the same. -/
  once : us.Pairwise fun t u => t.same u = false
  complete : ∀ t : Tag, t.mentioned us = t.mentioned ts
  /-- A tag has the spelling of its first mention. -/
  spelled : ∀ t ∈ us, ts.find? t.same = some t
  inOrder : us.Pairwise fun t u => ts.findIdx t.same < ts.findIdx u.same

theorem pairwise_findIdx_distinct (ts : List Tag) :
    (distinct ts).Pairwise fun t u => ts.findIdx t.same < ts.findIdx u.same := by
  induction ts with
  | nil => exact List.Pairwise.nil
  | cons t ts ih =>
    have hself : (t :: ts).findIdx t.same = 0 := by
      rw [List.findIdx_cons, same_iff.2 rfl]
      rfl
    -- what the head does not hide is found behind it
    have hbehind : ∀ u ∈ (distinct ts).filter fun u => !t.same u,
        (t :: ts).findIdx u.same = ts.findIdx u.same + 1 := by
      intro u hu
      have hne : u.same t = false := by
        rw [same_comm]
        simpa using (List.mem_filter.1 hu).2
      rw [List.findIdx_cons, hne]
      rfl
    rw [distinct, List.pairwise_cons]
    constructor
    · intro u hu
      rw [hself, hbehind u hu]
      exact Nat.succ_pos _
    · refine (ih.filter _).imp_of_mem fun {u w} hu hw hlt => ?_
      rw [hbehind u hu, hbehind w hw]
      exact Nat.succ_lt_succ hlt

theorem firstMentions_distinct (ts : List Tag) : FirstMentions ts (distinct ts) where
  once := (List.pairwise_map.1 (nodup_folded_distinct ts)).imp fun {t u} hne => by
    rwa [Bool.eq_false_iff, ne_eq, same_iff]
  complete t := mentioned_distinct t ts
  spelled _ ht := mem_distinct_iff.1 ht
  inOrder := pairwise_findIdx_distinct ts

end Tag

end FeatureAudit
