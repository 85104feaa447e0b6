import FeatureAudit.Concordance
import FeatureAudit.Config.Criteria
import FeatureAudit.Proofs.Tag.Distinct
import FeatureAudit.Proofs.Tag.Name

/-!
# Case is all that a name leaves open

Folding leaves the sign alone, so the comparison key of a tag is told by its folded name
(`key_eq_keyOfFolded`). Tags that differ in case only are therefore the same in every respect
but their spelling (`normal_congruence`).
-/

set_option autoImplicit false

namespace FeatureAudit.Tag

theorem equivalence_same : Equivalence fun t u : Tag => t.same u = true where
  refl _ := same_iff.2 rfl
  symm h := same_iff.2 (same_iff.1 h).symm
  trans h h' := same_iff.2 ((same_iff.1 h).trans (same_iff.1 h'))

/-- The comparison key of a folded name: what follows the sign, without separators. -/
def keyOfFolded (folded : String) : List Char :=
  (folded.toList.drop 1).filter fun c => !isSeparator c

/-- Folding leaves the sign alone, so the rest of a folded name is the rest of the name, folded. -/
theorem key_eq_keyOfFolded (t : Tag) : t.key = keyOfFolded t.folded := by
  have hsign : Text.foldChar sigil = [sigil] := by decide
  obtain ⟨cs, hname⟩ := List.head?_eq_some_iff.1 t.signed
  rw [key, keyOfFolded, t.folded_eq, Text.fold, String.toList_ofList, hname, List.flatMap_cons,
    hsign]
  rfl

/-- Whether nothing that is asked about tags tells two of them apart. -/
structure Interchangeable (t u : Tag) : Prop where
  category : ∀ taxonomy : Taxonomy, taxonomy.categoryOf t = taxonomy.categoryOf u
  lowValue : ∀ c : Criteria, c.isLowValue t = c.isLowValue u
  count : ∀ c : Concordance, c.count t = c.count u

/-- Whether no comparison of keys tells two tags apart. -/
structure EquallySpelled (t u : Tag) : Prop where
  key : t.key = u.key
  distance_eq_zero : t.distance u = 0
  distance_eq : ∀ v, t.distance v = u.distance v
  distance_eq' : ∀ v, distance v t = distance v u

variable {t u : Tag}

theorem same_congr_left (h : t.same u = true) : t.same = u.same := by
  funext v
  rw [same, same, same_iff.1 h]

theorem interchangeable_of_same (h : t.same u = true) : t.Interchangeable u where
  category taxonomy := by
    rw [Taxonomy.categoryOf, Taxonomy.categoryOf, same_iff.1 h]
  lowValue c := mentioned_congr (same_iff.1 h) rfl
  count c := by
    rw [Concordance.count, Concordance.count, Tally.count, Tally.count, Tally.get?, Tally.get?,
      same_congr_left h]

theorem equallySpelled_of_same (h : t.same u = true) : t.EquallySpelled u := by
  have hkey : t.key = u.key := by
    rw [key_eq_keyOfFolded, key_eq_keyOfFolded, same_iff.1 h]
  refine ⟨hkey, ?_, ?_, ?_⟩
  · rw [distance, hkey, EditDistance.distance, if_pos rfl]
  · intro v
    rw [distance, distance, hkey]
  · intro v
    rw [distance, distance, hkey]

/-- **Names have a normal form, and case is all that it leaves open.** A raw name is refused exactly
if nothing or the bare sign remains of it when it is trimmed. Any other one makes a tag, whose name
is the trimmed one with the sign, which is added exactly if it is missing; that name makes the same
tag again. To be the same tag is an equivalence. The same tags have the same category in every
taxonomy, say as much or as little under all criteria, have the same count in every concordance and
the same key, and the same distance to every tag, which is zero between them. -/
theorem normal_congruence :
    (∀ raw, if Text.trim raw = "" ∨ Text.trim raw = "@" then of raw = .error (.empty raw)
      else ∃ t, of raw = .ok t ∧ NormalForm raw t) ∧
    Equivalence (fun t u : Tag => t.same u = true) ∧
    ∀ t u : Tag, t.same u = true →
      t.Interchangeable u ∧ t.EquallySpelled u := by
  refine ⟨?_, equivalence_same, ?_⟩
  · intro raw
    have hrefused : of? raw = none ↔ Text.trim raw = "" ∨ Text.trim raw = "@" := by
      rw [trim_eq_iff, trim_eq_iff, of?_eq_none_iff]
      rfl
    split
    · rename_i h
      exact of_eq_error_iff.2 (hrefused.2 h)
    · rename_i h
      rw [← hrefused] at h
      obtain ⟨t, ht⟩ := Option.ne_none_iff_exists'.1 h
      exact ⟨t, of_eq_ok_iff.2 ht, normalForm_of_of? ht⟩
  · intro t u h
    exact ⟨interchangeable_of_same h, equallySpelled_of_same h⟩

theorem normal_congruence_street :
    of " Straße_1\t" = .ok (named "@Straße_1") ∧
      (named "@Straße_1").same (named "@STRASSE_1") = true ∧
      NormalForm " Straße_1\t" (named "@Straße_1") ∧
      (named "@Straße_1").Interchangeable (named "@STRASSE_1") ∧
      (named "@Straße_1").EquallySpelled (named "@STRASSE_1") ∧
      (named "@Straße_1").distance (named "@strase1") = 1 := by
  have hof : of " Straße_1\t" = .ok (named "@Straße_1") := by decide +kernel
  have hsame : (named "@Straße_1").same (named "@STRASSE_1") = true := by decide +kernel
  obtain ⟨hnormal, -, hcongruent⟩ := normal_congruence
  obtain ⟨huse, hspelled⟩ := hcongruent _ _ hsame
  refine ⟨hof, hsame, ?_, huse, hspelled, by decide +kernel⟩
  obtain ⟨t, ht, hform⟩ := (if_neg (by decide)).mp (hnormal " Straße_1\t")
  rw [hof] at ht
  rwa [← Except.ok.inj ht] at hform

end FeatureAudit.Tag
