import Mathlib.Data.Option.Basic
import FeatureAudit.Tag
import FeatureAudit.Proofs.Text.Blank

/-!
# Names in normal form

A raw name is brought to a normal form: trimmed, with the sign in front and more to it
(`of?_eq_some_iff`, `normalForm_of_of?`). Names in normal form are those of the tags that are made
from raw names (`isName_iff_exists_of?`), and are kept as they stand (`of?_name`).
-/

set_option autoImplicit false

namespace FeatureAudit.Tag

/-- A name in normal form: it carries the sign, has more to it, and is trimmed. -/
structure IsName (cs : List Char) : Prop where
  sign : cs.head? = some sigil
  more : cs ≠ [sigil]
  trimmed : Text.Trimmed cs

variable {raw : String} {t u : Tag}

/-- A tag is made of its name alone. -/
theorem eq_of_name_eq (h : t.name = u.name) : t = u := by
  obtain ⟨name, signed, folded, rfl⟩ := t
  obtain ⟨name', signed', folded', rfl⟩ := u
  obtain rfl : name = name' := h
  rfl

theorem name_named (name : String) :
    (named name).name = String.ofList (withSigil name.toList) := rfl

/-- No sign is added to a name that has it. -/
theorem name_named_of_signed {name : String} (h : name.toList.head? = some sigil) :
    (named name).name = name := by
  rw [name_named, withSigil, if_pos h, String.ofList_toList]

theorem named_name (t : Tag) : named t.name = t := eq_of_name_eq (name_named_of_signed t.signed)

/-- The sign is added to a name that has none, and to no other. -/
theorem isName_withSigil {cs : List Char} (hne : cs ≠ []) (hsign : cs ≠ [sigil])
    (htrim : Text.Trimmed cs) : IsName (withSigil cs) := by
  unfold withSigil
  split
  · rename_i hhead
    exact ⟨hhead, hsign, htrim⟩
  · have hsigil : Text.Trimmed [sigil] := by decide
    refine ⟨rfl, ?_, ?_⟩
    · intro h
      exact hne (List.tail_eq_of_cons_eq h)
    · exact hsigil.append htrim (List.cons_ne_nil _ _) hne []

theorem of?_eq_none_iff : of? raw = none ↔
    Text.trimChars raw.toList = [] ∨ Text.trimChars raw.toList = [sigil] := by
  simp [of?, or_iff_not_imp_left]

theorem of?_eq_some_iff : of? raw = some t ↔
    ¬ (Text.trimChars raw.toList = [] ∨ Text.trimChars raw.toList = [sigil]) ∧
      t.name = String.ofList (withSigil (Text.trimChars raw.toList)) := by
  rw [of?]
  split
  · rename_i h
    simp [h]
  · rename_i h
    rw [Option.some_inj]
    have hname : (named (String.ofList (Text.trimChars raw.toList))).name =
        String.ofList (withSigil (Text.trimChars raw.toList)) := by
      rw [name_named, String.toList_ofList]
    constructor
    · rintro rfl
      exact ⟨h, hname⟩
    · rintro ⟨-, ht⟩
      exact eq_of_name_eq (hname.trans ht.symm)

theorem isName_of_of? (h : of? raw = some t) : IsName t.name.toList := by
  obtain ⟨hsome, hname⟩ := of?_eq_some_iff.1 h
  rw [not_or] at hsome
  rw [hname, String.toList_ofList]
  exact isName_withSigil hsome.1 hsome.2 (Text.trimmed_trimChars _)

/-- A name in normal form is kept as it stands. -/
theorem of?_name (h : IsName t.name.toList) : of? t.name = some t := by
  have htrim : Text.trimChars t.name.toList = t.name.toList := h.trimmed
  have hne : t.name.toList ≠ [] := by
    intro hnil
    have hsign := h.sign
    rw [hnil] at hsign
    cases hsign
  rw [of?_eq_some_iff, htrim, withSigil, if_pos h.sign, String.ofList_toList]
  exact ⟨not_or.2 ⟨hne, h.more⟩, rfl⟩

/-- The tags of raw names are those with a name in normal form. -/
theorem isName_iff_exists_of? : IsName t.name.toList ↔ ∃ raw, of? raw = some t := by
  constructor
  · intro h
    exact ⟨t.name, of?_name h⟩
  · rintro ⟨raw, h⟩
    exact isName_of_of? h

theorem of_eq_ok_iff : of raw = .ok t ↔ of? raw = some t := by
  rw [of]
  cases of? raw <;> simp

theorem of_eq_error_iff : of raw = .error (.empty raw) ↔ of? raw = none := by
  rw [of]
  cases of? raw <;> simp

/-- Whether a tag is the normal form of a raw name. -/
structure NormalForm (raw : String) (t : Tag) : Prop where
  signed : t.name.toList.head? = some sigil
  trimmed : Text.trim t.name = t.name
  /-- A sign that is there is not added again. -/
  kept : (Text.trim raw).toList.head? = some sigil → t.name = Text.trim raw
  added : (Text.trim raw).toList.head? ≠ some sigil → t.name = "@" ++ Text.trim raw
  stable : of t.name = .ok t

theorem normalForm_of_of? (h : of? raw = some t) : NormalForm raw t := by
  have hname := isName_of_of? h
  have hspelling := (of?_eq_some_iff.1 h).2
  have hraw : (Text.trim raw).toList = Text.trimChars raw.toList := String.toList_ofList
  rw [withSigil] at hspelling
  refine ⟨t.signed, ?_, ?_, ?_, of_eq_ok_iff.2 (of?_name hname)⟩
  · have htrim : Text.trimChars t.name.toList = t.name.toList := hname.trimmed
    rw [Text.trim, htrim, String.ofList_toList]
  · intro hsign
    rw [hraw] at hsign
    rw [hspelling, if_pos hsign]
    rfl
  · intro hsign
    rw [hraw] at hsign
    rw [hspelling, if_neg hsign, ← String.toList_inj, String.toList_append, hraw,
      String.toList_ofList]
    rfl

theorem trim_eq_iff {s : String} : Text.trim raw = s ↔ Text.trimChars raw.toList = s.toList := by
  rw [← String.toList_inj, Text.trim, String.toList_ofList]

end FeatureAudit.Tag
