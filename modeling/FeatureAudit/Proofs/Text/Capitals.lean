import FeatureAudit.Text.Case

/-!
# Capital letters of ASCII

A text without its capital letters from `A` to `Z` has the same length (`length_uncap`), the same
folding (`fold_uncap`) and the same lower case (`lower_uncap`). The lower case of a capital sigma
depends on the letters around it, but not on their case: a capital letter and its small letter
both count as letters with case.
-/

set_option autoImplicit false

namespace FeatureAudit.Text

/-- The characters with small letters for the capital letters of ASCII. -/
def uncapChars (cs : List Char) : List Char := cs.map Char.toLower

/-- The text with small letters for the capital letters of ASCII. -/
def uncap (s : String) : String := String.ofList (uncapChars s.toList)

/-! ## One character -/

theorem toLower_of_le {c : Char} (h : 128 ≤ c.toNat) : c.toLower = c := by
  refine dif_neg fun hcap => ?_
  have hle : c.toNat ≤ 90 := UInt32.le_iff_toNat_le.1 hcap.2
  omega

/-- What holds of a character and itself holds of it and its small letter, if it does for ASCII. -/
theorem toLower_cases {P : Char → Char → Prop} (hself : ∀ c, P c c)
    (hascii : ∀ n < 128, P (Char.ofNat n).toLower (Char.ofNat n)) (c : Char) : P c.toLower c := by
  by_cases hc : c.toNat < 128
  · have hpoint := hascii c.toNat hc
    rwa [Char.ofNat_toNat] at hpoint
  · rw [toLower_of_le (Nat.le_of_not_lt hc)]
    exact hself c

theorem casedLetters_toLower (c : Char) : casedLetters.has c.toLower = casedLetters.has c :=
  toLower_cases (P := fun d c => casedLetters.has d = casedLetters.has c) (fun _ => rfl)
    (by decide +kernel) c

theorem caseIgnorable_toLower (c : Char) : caseIgnorable.has c.toLower = caseIgnorable.has c :=
  toLower_cases (P := fun d c => caseIgnorable.has d = caseIgnorable.has c) (fun _ => rfl)
    (by decide +kernel) c

theorem foldChar_toLower (c : Char) : foldChar c.toLower = foldChar c :=
  toLower_cases (P := fun d c => foldChar d = foldChar c) (fun _ => rfl) (by decide +kernel) c

theorem lowerChar_toLower (c : Char) : lowerChar c.toLower = lowerChar c :=
  toLower_cases (P := fun d c => lowerChar d = lowerChar c) (fun _ => rfl) (by decide +kernel) c

theorem isCapitalSigma_toLower (c : Char) :
    (c.toLower.toNat == capitalSigma) = (c.toNat == capitalSigma) :=
  toLower_cases (P := fun d c => (d.toNat == capitalSigma) = (c.toNat == capitalSigma))
    (fun _ => rfl) (by decide +kernel) c

/-! ## Texts -/

theorem toList_uncap (s : String) : (uncap s).toList = uncapChars s.toList := String.toList_ofList

theorem length_uncap (s : String) : (uncap s).length = s.length := by
  rw [← String.length_toList, toList_uncap, uncapChars, List.length_map, String.length_toList]

theorem flatMap_foldChar_uncapChars (cs : List Char) :
    (uncapChars cs).flatMap foldChar = cs.flatMap foldChar := by
  simp only [uncapChars, List.flatMap_map, foldChar_toLower]

theorem fold_uncap (s : String) : fold (uncap s) = fold s := by
  rw [fold, fold, toList_uncap, flatMap_foldChar_uncapChars]

theorem meetsCased_uncapChars (cs : List Char) : meetsCased (uncapChars cs) = meetsCased cs := by
  have hskip : (uncapChars cs).dropWhile caseIgnorable.has =
      uncapChars (cs.dropWhile caseIgnorable.has) := by
    have hcomp : caseIgnorable.has ∘ Char.toLower = caseIgnorable.has :=
      funext caseIgnorable_toLower
    rw [uncapChars, List.dropWhile_map, hcomp]
    rfl
  rw [meetsCased, meetsCased, hskip]
  cases cs.dropWhile caseIgnorable.has with
  | nil => rfl
  | cons c rest => exact casedLetters_toLower c

theorem lowerAfter_uncapChars (before cs : List Char) :
    lowerAfter (uncapChars before) (uncapChars cs) = lowerAfter before cs := by
  induction cs generalizing before with
  | nil => rfl
  | cons c cs ih =>
    have hrest : lowerAfter (c.toLower :: uncapChars before) (uncapChars cs) =
        lowerAfter (c :: before) cs := ih (c :: before)
    change lowerAfter (uncapChars before) (c.toLower :: uncapChars cs) = _
    rw [lowerAfter, lowerAfter, hrest, isCapitalSigma_toLower, meetsCased_uncapChars,
      meetsCased_uncapChars, lowerChar_toLower]

theorem lower_uncap (s : String) : lower (uncap s) = lower s := by
  rw [lower, lower, toList_uncap]
  exact congrArg String.ofList (lowerAfter_uncapChars [] s.toList)

end FeatureAudit.Text
