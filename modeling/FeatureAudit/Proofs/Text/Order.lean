import Mathlib.Data.List.Sort
import FeatureAudit.Text.Order

/-!
# Sorting forgets the order it is given

Texts are linearly ordered by their code points, and lists of texts by their items. Sorting by a key
therefore gives one and the same list for all arrangements of the items, as long as no two items
share a key (`sortBy_eq_of_perm`), or as long as items that share one are equal
(`sortBy_eq_of_ties`).
-/

set_option autoImplicit false

namespace FeatureAudit.Text

/-! ## Lawful orders -/

section Keys

variable {α β : Type} {cmp : β → β → Ordering}

/-- An order of keys is an order of what has the keys. -/
theorem transCmp_on [Std.TransCmp cmp] (key : α → β) :
    Std.TransCmp fun a b => cmp (key a) (key b) where
  eq_swap := Std.OrientedCmp.eq_swap
  isLE_trans := Std.TransCmp.isLE_trans

/-- What the order of keys does not tell apart is the same, if the keys tell things apart. -/
theorem lawfulEqCmp_on [Std.LawfulEqCmp cmp] (key : α → β) (hkey : Function.Injective key) :
    Std.LawfulEqCmp fun a b => cmp (key a) (key b) where
  compare_self := Std.ReflCmp.compare_self
  eq_of_compare h := hkey (Std.LawfulEqCmp.eq_of_compare h)

/-- A second order decides where a first one does not. -/
theorem transCmp_then {f g : α → α → Ordering} (hf : Std.TransCmp f) (hg : Std.TransCmp g) :
    Std.TransCmp fun a b => (f a b).then (g a b) :=
  inferInstanceAs (Std.TransCmp (compareLex f g))

end Keys

theorem compareNats_eq_compare : compareNats = compare := by
  funext m n
  exact (Nat.compare_eq_ite_lt m n).symm

instance : Std.TransCmp compareNats := by
  rw [compareNats_eq_compare]
  infer_instance

instance : Std.LawfulEqCmp compareNats := by
  rw [compareNats_eq_compare]
  infer_instance

theorem compareInts_eq_compare : compareInts = compare := by
  funext m n
  rcases Int.lt_trichotomy m n with h | h | h
  · rw [compareInts, if_pos h, Int.compare_eq_lt.2 h]
  · rw [compareInts, if_neg (by omega), if_neg (by omega), Int.compare_eq_eq.2 h]
  · rw [compareInts, if_neg (by omega), if_pos h, Int.compare_eq_gt.2 h]

instance : Std.TransCmp compareInts := by
  rw [compareInts_eq_compare]
  infer_instance

instance : Std.LawfulEqCmp compareInts := by
  rw [compareInts_eq_compare]
  infer_instance

instance : Std.TransCmp compareChars := transCmp_on Char.toNat

instance : Std.LawfulEqCmp compareChars :=
  lawfulEqCmp_on Char.toNat fun _ _ => Char.toNat_inj.1

theorem compareLists_eq_compareLex {α : Type} (cmp : α → α → Ordering) :
    compareLists cmp = List.compareLex cmp := by
  funext as bs
  induction as generalizing bs with
  | nil => cases bs <;> rfl
  | cons a as ih =>
    cases bs with
    | nil => rfl
    | cons b bs => rw [compareLists, List.compareLex_cons_cons, ih]

section Lists

variable {α : Type} {cmp : α → α → Ordering}

instance [Std.TransCmp cmp] : Std.TransCmp (compareLists cmp) := by
  rw [compareLists_eq_compareLex]
  infer_instance

instance [Std.LawfulEqCmp cmp] : Std.LawfulEqCmp (compareLists cmp) := by
  rw [compareLists_eq_compareLex]
  infer_instance

end Lists

instance : Std.TransCmp compareTexts := transCmp_on String.toList

instance : Std.LawfulEqCmp compareTexts :=
  lawfulEqCmp_on String.toList fun _ _ => String.toList_inj.1

/-! ## Sorting -/

section Sorting

variable {α β : Type}

theorem sortBy_perm (cmp : α → α → Ordering) (xs : List α) : (sortBy cmp xs).Perm xs :=
  List.mergeSort_perm xs _

theorem pairwise_sortBy (cmp : α → α → Ordering) [Std.TransCmp cmp] (xs : List α) :
    (sortBy cmp xs).Pairwise fun a b => (cmp a b).isLE = true := by
  refine List.pairwise_mergeSort (fun a b c => Std.TransCmp.isLE_trans) (fun a b => ?_) xs
  have hswap : cmp b a = (cmp a b).swap := Std.OrientedCmp.eq_swap
  rw [hswap]
  cases cmp a b <;> rfl

/-- Strictly increasing lists with the same items are the same list. -/
theorem eq_of_strictly_increasing {cmp : α → α → Ordering} [Std.TransCmp cmp] {xs ys : List α}
    (hxs : xs.Pairwise fun a b => cmp a b = .lt) (hys : ys.Pairwise fun a b => cmp a b = .lt)
    (h : ∀ a, a ∈ xs ↔ a ∈ ys) : xs = ys := by
  have hne : ∀ {a b : α}, cmp a b = .lt → a ≠ b := by
    intro a b hlt heq
    have hself : cmp b b = .eq := Std.ReflCmp.compare_self
    rw [heq, hself] at hlt
    cases hlt
  have hperm : xs.Perm ys := (List.perm_ext_iff_of_nodup (hxs.imp hne) (hys.imp hne)).2 h
  refine List.Perm.eq_of_pairwise (fun a b _ _ hab hba => ?_) hxs hys hperm
  have hswap : cmp b a = (cmp a b).swap := Std.OrientedCmp.eq_swap
  rw [hswap, hab] at hba
  cases hba

/-- Sorting looks at the order of the items of the list alone. -/
theorem map_sortBy {cmp : α → α → Ordering} {cmp' : β → β → Ordering} {f : α → β} {xs : List α}
    (h : ∀ a ∈ xs, ∀ b ∈ xs, cmp a b = cmp' (f a) (f b)) :
    (sortBy cmp xs).map f = sortBy cmp' (xs.map f) :=
  List.map_mergeSort fun a ha b hb => by rw [h a ha b hb]

theorem sortBy_congr {cmp cmp' : α → α → Ordering} {xs : List α}
    (h : ∀ a ∈ xs, ∀ b ∈ xs, cmp a b = cmp' a b) : sortBy cmp xs = sortBy cmp' xs := by
  simpa using map_sortBy (f := id) h

/-- Arrangements of the same items are sorted into the same list, if the order tells all items
apart that are not equal. -/
theorem sortBy_eq_of_ties {cmp : α → α → Ordering} [Std.TransCmp cmp] {xs ys : List α}
    (hperm : xs.Perm ys) (hties : ∀ a ∈ xs, ∀ b ∈ xs, cmp a b = .eq → a = b) :
    sortBy cmp xs = sortBy cmp ys := by
  refine List.Perm.eq_of_pairwise ?_ (pairwise_sortBy _ xs) (pairwise_sortBy _ ys) ?_
  · intro a b ha hb hle hge
    have hamem : a ∈ xs := (sortBy_perm _ xs).mem_iff.1 ha
    have hbmem : b ∈ xs := hperm.mem_iff.2 ((sortBy_perm _ ys).mem_iff.1 hb)
    exact hties a hamem b hbmem (Std.OrientedCmp.isLE_antisymm hle hge)
  · exact (sortBy_perm _ xs).trans (hperm.trans (sortBy_perm _ ys).symm)

/-- Arrangements of the same items are sorted into the same list, if no two items share a key. -/
theorem sortBy_eq_of_perm {cmp : β → β → Ordering} [Std.TransCmp cmp] [Std.LawfulEqCmp cmp]
    {key : α → β} {xs ys : List α} (hperm : xs.Perm ys)
    (hkey : ∀ a ∈ xs, ∀ b ∈ xs, key a = key b → a = b) :
    sortBy (fun a b => cmp (key a) (key b)) xs = sortBy (fun a b => cmp (key a) (key b)) ys := by
  have : Std.TransCmp fun a b => cmp (key a) (key b) := transCmp_on key
  exact sortBy_eq_of_ties hperm fun a ha b hb htie =>
    hkey a ha b hb (Std.LawfulEqCmp.eq_of_compare htie)

/-- Lists that show the same items in some arrangement show the same list once they are sorted, if
the order looks at what is shown and tells it apart. -/
theorem map_sortBy_of_perm {cmp : α → α → Ordering} (cmp' : β → β → Ordering) [Std.TransCmp cmp']
    {f : α → β} {xs ys : List α} (hxs : ∀ a ∈ xs, ∀ b ∈ xs, cmp a b = cmp' (f a) (f b))
    (hys : ∀ a ∈ ys, ∀ b ∈ ys, cmp a b = cmp' (f a) (f b)) (hperm : (xs.map f).Perm (ys.map f))
    (hties : ∀ a ∈ xs.map f, ∀ b ∈ xs.map f, cmp' a b = .eq → a = b) :
    (sortBy cmp xs).map f = (sortBy cmp ys).map f := by
  rw [map_sortBy hxs, map_sortBy hys]
  exact sortBy_eq_of_ties hperm hties

end Sorting

end FeatureAudit.Text
