import FeatureAudit.Text.Blank
import FeatureAudit.Text.Case

/-!
# What case mappings keep

White space has no case (`caseless_of_isBlank`): lowering keeps it where it is (`mem_lowerAfter`), so
a text with white space in it never becomes a single word. Folding maps no character to nothing, so
only the empty text has an empty folding (`fold_ne_empty`).
-/

set_option autoImplicit false

namespace FeatureAudit.Text

/-! ## White space -/

/-- The code points of white space, the spaces of all scripts in full. -/
def blankPoints : List Nat :=
  List.range' 9 5 ++ List.range' 28 5 ++ [0x85, 0xA0, 0x1680] ++ List.range' 0x2000 11 ++
    [0x2028, 0x2029, 0x202F, 0x205F, 0x3000]

theorem toNat_mem_blankPoints {c : Char} (h : isBlank c = true) : c.toNat ∈ blankPoints := by
  simp only [isBlank, Bool.or_eq_true, Bool.and_eq_true, decide_eq_true_eq, beq_iff_eq] at h
  simp only [blankPoints, List.mem_append, List.mem_range'_1, List.mem_cons, List.not_mem_nil,
    or_false]
  omega

theorem lowerChar_blankPoints : ∀ n ∈ blankPoints, lowerChar (Char.ofNat n) = [Char.ofNat n] := by
  decide +kernel

/-- What holds of the characters of all its code points holds of white space. -/
theorem forall_isBlank (P : Char → Prop) (h : ∀ n ∈ blankPoints, P (Char.ofNat n)) {c : Char}
    (hc : isBlank c = true) : P c := by
  have hpoint := h c.toNat (toNat_mem_blankPoints hc)
  rwa [Char.ofNat_toNat] at hpoint

/-- A character that lowering keeps wherever it stands. -/
def Caseless (c : Char) : Prop := lowerChar c = [c] ∧ c.toNat ≠ capitalSigma

instance (c : Char) : Decidable (Caseless c) := inferInstanceAs (Decidable (_ ∧ _))

/-- White space has no case. -/
theorem caseless_of_isBlank {c : Char} (h : isBlank c = true) : Caseless c := by
  have hsigma : capitalSigma ∉ blankPoints := by decide
  exact ⟨forall_isBlank (fun c => lowerChar c = [c]) lowerChar_blankPoints h,
    fun hc => hsigma (hc ▸ toNat_mem_blankPoints h)⟩

/-- A character without case in a text is also in its lower case. -/
theorem mem_lowerAfter {c : Char} (h : Caseless c) {cs : List Char} (hc : c ∈ cs)
    (before : List Char) : c ∈ lowerAfter before cs := by
  induction cs generalizing before with
  | nil => simp at hc
  | cons d cs ih =>
    rw [lowerAfter, List.mem_append]
    rcases List.mem_cons.1 hc with rfl | hc
    · left
      simp [h.1, h.2]
    · exact Or.inr (ih hc (d :: before))

/-! ## No character is folded away -/

theorem mem_of_lastUpTo? {α : Type} {key : α → Nat} {table : Array α} {n : Nat} {a : α}
    (h : lastUpTo? key table n = some a) : a ∈ table := by
  unfold lastUpTo? at h
  split at h
  · cases h
  · exact Array.mem_of_getElem? h

/-- A mapping whose expansions are not empty maps no character to nothing. -/
theorem Case.Table.map_ne_nil {t : Case.Table} (h : ∀ e ∈ t.expansions.toList, e.2 ≠ [])
    (c : Char) : t.map c ≠ [] := by
  unfold Case.Table.map
  split
  · rename_i first ns hfound
    have hmem := mem_of_lastUpTo? (Option.filter_eq_some_iff.1 hfound).1
    simpa using h (first, ns) (Array.mem_toList_iff.2 hmem)
  · split <;> exact List.cons_ne_nil _ _

theorem foldChar_ne_nil (c : Char) : foldChar c ≠ [] := by
  have hexpansions : ∀ e ∈ Case.foldingTable.expansions.toList, e.2 ≠ [] := by decide +kernel
  unfold foldChar
  split
  · exact List.cons_ne_nil _ _
  · exact Case.Table.map_ne_nil hexpansions c

/-- Only the empty text has an empty folding. -/
theorem fold_ne_empty {s : String} (h : s ≠ "") : fold s ≠ "" := by
  rw [Ne, ← String.toList_eq_nil_iff, fold, String.toList_ofList, List.flatMap_eq_nil_iff]
  intro hall
  refine h (String.toList_eq_nil_iff.1 (List.eq_nil_iff_forall_not_mem.2 fun c hc => ?_))
  exact foldChar_ne_nil c (hall c hc)

end FeatureAudit.Text
