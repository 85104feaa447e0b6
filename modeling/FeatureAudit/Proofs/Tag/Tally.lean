import Mathlib
import FeatureAudit.Proofs.Tag.Distinct

/-!
# What a tally holds

A tally has an entry for the first mention of every tag, with the number of mentions
(`Tally.ofTags_eq`). One more mention raises the count of its tag or opens an entry at the end
(`Tally.add_counted`). In what it says, spelling apart, the order of the mentions leaves no trace
(`Tally.ofTags_of_perm`).
-/

set_option autoImplicit false

namespace FeatureAudit.Tag

/-- A mention at the end is a first one, unless the tag was mentioned. -/
theorem distinct_concat (ts : List Tag) (t : Tag) :
    distinct (ts ++ [t]) = distinct ts ++ if t.mentioned ts then [] else [t] := by
  rw [distinct_append]
  by_cases ht : t.mentioned ts <;> simp [distinct, ht]

namespace Tally

/-- Tags with counts. -/
def counted (us : List Tag) (count : Tag → Int) : Tally := us.map fun u => (u, count u)

/-- One more mention, among tags of which none is mentioned twice. -/
theorem add_counted {us : List Tag} (hus : (us.map folded).Nodup) (count : Tag → Int) (t : Tag)
    (n : Int) :
    add (counted us count) t n =
      counted us (fun u => count u + if u.same t then n else 0) ++
        if t.mentioned us then [] else [(t, n)] := by
  induction us with
  | nil => rfl
  | cons u us ih =>
    obtain ⟨hu, hus⟩ := List.nodup_cons.1 hus
    have hmentioned : t.mentioned (u :: us) = (t.same u || t.mentioned us) := rfl
    have hadd : add (counted (u :: us) count) t n =
        if t.same u then (u, count u + n) :: counted us count
        else (u, count u) :: add (counted us count) t n := rfl
    have hcons : counted (u :: us) (fun u => count u + if u.same t then n else 0) =
        (u, count u + if u.same t then n else 0) ::
          counted us fun u => count u + if u.same t then n else 0 := rfl
    rw [hadd, hcons, hmentioned, same_comm u t, List.cons_append]
    by_cases htu : t.same u
    · -- the tag is that of the head, so nothing behind it changes
      have hrest : ∀ v ∈ us, v.same t = false := by
        intro v hv
        rw [Bool.eq_false_iff, ne_eq, same_iff, same_iff.1 htu]
        exact fun heq => hu (heq ▸ List.mem_map_of_mem hv)
      have hsame : counted us (fun u => count u + if u.same t then n else 0) = counted us count :=
        List.map_congr_left fun v hv => by simp [hrest v hv]
      simp [htu, hsame]
    · simp [htu, ih hus]

theorem ofTags_concat (ts : List Tag) (t : Tag) : ofTags (ts ++ [t]) = add (ofTags ts) t 1 := by
  rw [ofTags, List.foldl_append]
  rfl

/-- A tally counts the mentions of every tag under its first mention. -/
theorem ofTags_eq (tags : List Tag) :
    ofTags tags = counted (distinct tags) fun t => (tags.countP t.same : Int) := by
  induction tags using List.reverseRecOn with
  | nil => rfl
  | append_singleton ts t ih =>
    have hcount : ∀ u : Tag, ((ts ++ [t]).countP u.same : Int) =
        (ts.countP u.same : Int) + if u.same t then 1 else 0 := by
      intro u
      rw [List.countP_append, List.countP_singleton]
      split <;> simp
    rw [ofTags_concat, ih, add_counted (nodup_folded_distinct ts), distinct_concat,
      mentioned_distinct]
    simp only [counted, List.map_append, hcount]
    by_cases ht : t.mentioned ts
    · simp [ht]
    · have hzero : ts.countP t.same = 0 :=
        List.countP_eq_zero.2 fun u hu hsame => ht (List.any_eq_true.2 ⟨u, hu, hsame⟩)
      have hself : t.same t = true := same_iff.2 rfl
      simp [ht, hzero, hself]

/-- The entry of a tag shows its first mention. -/
theorem get?_ofTags (tags : List Tag) (t : Tag) : get? (ofTags tags) t =
    (tags.find? t.same).map fun u => (u, (tags.countP u.same : Int)) := by
  rw [get?, ofTags_eq, counted, List.find?_map, ← find?_distinct]
  rfl

theorem has_ofTags (tags : List Tag) (t : Tag) : has (ofTags tags) t = t.mentioned tags := by
  rw [has, ofTags_eq, counted, List.any_map, ← mentioned_distinct]
  rfl

/-- The count of a tag is the number of its mentions. -/
theorem count_ofTags (tags : List Tag) (t : Tag) : count (ofTags tags) t = tags.countP t.same := by
  rw [count, get?_ofTags]
  cases hfirst : tags.find? t.same with
  | none =>
    have hzero : tags.countP t.same = 0 := List.countP_eq_zero.2 (List.find?_eq_none.1 hfirst)
    simp [hzero]
  | some u =>
    have hsame : t.folded = u.folded := same_iff.1 (List.find?_some hfirst)
    simp only [Option.map_some, Option.getD_some, countP_same, hsame]

theorem has_iff {tally : Tally} {t : Tag} :
    has tally t = true ↔ t.folded ∈ tally.map fun e => e.1.folded := by
  simp only [has, List.any_eq_true, same_iff, List.mem_map]
  exact exists_congr fun e => and_congr_right fun _ => eq_comm

/-- To add to the count of a tag opens an entry only where the tag has none. -/
theorem map_folded_add (tally : Tally) (t : Tag) (n : Int) :
    (add tally t n).map (fun e => e.1.folded) =
      (tally.map fun e => e.1.folded) ++ if has tally t then [] else [t.folded] := by
  induction tally with
  | nil => rfl
  | cons e tally ih =>
    obtain ⟨u, m⟩ := e
    have hhas : has ((u, m) :: tally) t = (t.same u || has tally t) := rfl
    rw [add, hhas]
    by_cases htu : t.same u
    · simp [htu]
    · simp [htu, ih]

theorem nodup_folded_add {tally : Tally} (h : (tally.map fun e => e.1.folded).Nodup) (t : Tag)
    (n : Int) : ((add tally t n).map fun e => e.1.folded).Nodup := by
  rw [map_folded_add]
  split
  · rwa [List.append_nil]
  · rename_i hnew
    rw [has_iff] at hnew
    exact h.append (List.nodup_singleton _) (List.disjoint_singleton.2 hnew)

/-- What is added to the count of a tag is added to the sum of all counts. -/
theorem sum_add (tally : Tally) (t : Tag) (n : Int) :
    ((add tally t n).map Prod.snd).sum = (tally.map Prod.snd).sum + n := by
  induction tally with
  | nil => simp [add]
  | cons e tally ih =>
    obtain ⟨u, m⟩ := e
    rw [add]
    split
    · simp only [List.map_cons, List.sum_cons]
      omega
    · simp only [List.map_cons, List.sum_cons, ih]
      omega

/-- What is added to the count of a tag is added to no other count. -/
theorem count_add (tally : Tally) (t u : Tag) (n : Int) :
    count (add tally u n) t = count tally t + if t.same u then n else 0 := by
  have hcons : ∀ (v : Tag) (m : Int) (rest : Tally),
      count ((v, m) :: rest) t = if t.same v then m else count rest t := by
    intro v m rest
    rw [count, get?, List.find?_cons]
    by_cases htv : t.same v <;> simp [htv, count, get?]
  induction tally with
  | nil =>
    rw [add, hcons]
    simp [count, get?]
  | cons e tally ih =>
    obtain ⟨v, m⟩ := e
    rw [add, hcons]
    by_cases huv : u.same v
    · -- the tags of the entry and of the new count are the same, and `t` is both or none
      have htu : t.same u = t.same v := by
        rw [same, same, same_iff.1 huv]
      rw [if_pos huv, hcons, htu]
      split
      · rfl
      · rw [Int.add_zero]
    · rw [if_neg huv, hcons, ih]
      by_cases htv : t.same v
      · have htu : t.same u = false := by
          rw [Bool.eq_false_iff, ne_eq, same_iff]
          intro htu
          exact huv (same_iff.2 (htu.symm.trans (same_iff.1 htv)))
        simp [htv, htu]
      · simp [htv]

theorem has_add (tally : Tally) (t u : Tag) (n : Int) :
    has (add tally u n) t = (has tally t || t.same u) := by
  rw [Bool.eq_iff_iff, Bool.or_eq_true, has_iff, has_iff, map_folded_add, List.mem_append, same_iff]
  split
  · rename_i hu
    rw [has_iff] at hu
    constructor
    · rintro (ht | ht)
      · exact Or.inl ht
      · cases ht
    · rintro (ht | htu)
      · exact Or.inl ht
      · exact Or.inl (htu ▸ hu)
  · rw [List.mem_singleton]

/-- A count for a tag that has none is put at the end. -/
theorem add_of_has_eq_false {tally : Tally} {t : Tag} (h : has tally t = false) (n : Int) :
    add tally t n = tally ++ [(t, n)] := by
  induction tally with
  | nil => rfl
  | cons e tally ih =>
    obtain ⟨u, m⟩ := e
    have hhas : has ((u, m) :: tally) t = (t.same u || has tally t) := rfl
    rw [hhas, Bool.or_eq_false_iff] at h
    rw [add, if_neg (Bool.eq_false_iff.1 h.1), ih h.2, List.cons_append]

/-- The sum of all counts is the number of mentions. -/
theorem sum_ofTags (tags : List Tag) : ((ofTags tags).map Prod.snd).sum = tags.length := by
  induction tags using List.reverseRecOn with
  | nil => rfl
  | append_singleton ts t ih =>
    rw [ofTags_concat, sum_add, ih, List.length_append]
    rfl

/-- What a tally says, without regard to spelling. -/
theorem map_folded_ofTags (tags : List Tag) :
    (ofTags tags).map (fun e => (e.1.folded, e.2)) =
      ((distinct tags).map folded).map fun k => (k, ((tags.map folded).count k : Int)) := by
  rw [ofTags_eq, counted, List.map_map, List.map_map]
  refine List.map_congr_left fun t _ => ?_
  rw [Function.comp_apply, Function.comp_apply, countP_same]

/-- Mentions in another order give every tag the same count. -/
theorem ofTags_of_perm {tags tags' : List Tag} (h : tags.Perm tags') :
    ((ofTags tags).map fun e => (e.1.folded, e.2)).Perm
      ((ofTags tags').map fun e => (e.1.folded, e.2)) := by
  have hcount : ∀ k, (tags.map folded).count k = (tags'.map folded).count k := fun k =>
    (h.map folded).count_eq k
  rw [map_folded_ofTags, map_folded_ofTags, distinct_eq_firstsBy, distinct_eq_firstsBy]
  simp only [hcount]
  exact (perm_map_firstsBy folded h).map _

theorem nodup_folded_ofTags (tags : List Tag) :
    ((ofTags tags).map fun e => e.1.folded).Nodup := by
  rw [ofTags_eq, counted, List.map_map]
  exact nodup_folded_distinct tags

end Tally

/-! ## Pairs -/

section Pairs

variable {α : Type} {as : List α}

/-- What holds of every two items one after the other holds of every pair. -/
theorem rel_of_mem_pairs {R : α → α → Prop} (h : as.Pairwise R) {p : α × α} (hp : p ∈ pairs as) :
    R p.1 p.2 := by
  induction as with
  | nil => simp [pairs] at hp
  | cons a as ih =>
    obtain ⟨hhead, hrest⟩ := List.pairwise_cons.1 h
    rcases List.mem_append.1 hp with hp | hp
    · obtain ⟨b, hb, rfl⟩ := List.mem_map.1 hp
      exact hhead b hb
    · exact ih hrest hp

theorem mem_of_mem_pairs {p : α × α} (h : p ∈ pairs as) : p.1 ∈ as ∧ p.2 ∈ as := by
  induction as with
  | nil => simp [pairs] at h
  | cons a as ih =>
    rcases List.mem_append.1 h with hfirst | hrest
    · obtain ⟨b, hb, rfl⟩ := List.mem_map.1 hfirst
      exact ⟨List.mem_cons_self .., List.mem_cons_of_mem _ hb⟩
    · exact ⟨List.mem_cons_of_mem _ (ih hrest).1, List.mem_cons_of_mem _ (ih hrest).2⟩

/-- Of two items one stands in front of the other. -/
theorem mem_pairs_or_mem_pairs {a b : α} (ha : a ∈ as) (hb : b ∈ as) (hne : a ≠ b) :
    (a, b) ∈ pairs as ∨ (b, a) ∈ pairs as := by
  induction as with
  | nil => simp at ha
  | cons c as ih =>
    simp only [pairs, List.mem_append]
    rcases List.mem_cons.1 ha with rfl | harest
    · have hbrest : b ∈ as := (List.mem_cons.1 hb).resolve_left hne.symm
      exact Or.inl (Or.inl (List.mem_map_of_mem hbrest))
    · rcases List.mem_cons.1 hb with rfl | hbrest
      · exact Or.inr (Or.inl (List.mem_map_of_mem harest))
      · exact (ih harest hbrest).imp Or.inr Or.inr

end Pairs

end FeatureAudit.Tag
