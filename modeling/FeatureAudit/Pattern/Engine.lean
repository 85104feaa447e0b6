import FeatureAudit.Config.Vocabulary
import FeatureAudit.Pattern.Reader

/-!
# The engine of patterns

Patterns that are read from their written form and searched for in a text. Another engine can take
the place of this one where more forms of patterns are wanted.
-/

set_option autoImplicit false

namespace FeatureAudit

/-- The standard patterns are well formed. -/
theorem Pattern.isOk_read_standard :
    ∀ source ∈ Vocabulary.uiPatterns ++ Vocabulary.implementationPatterns,
      (Pattern.read source).isOk = true := by
  decide +kernel

instance : PatternEngine where
  read source := (Pattern.read source).map Pattern.search?
  read_standard source h := by
    have hread := Pattern.isOk_read_standard source h
    cases hpattern : Pattern.read source with
    | ok p => exact ⟨p.search?, rfl⟩
    | error fault =>
      rw [hpattern] at hread
      exact absurd hread Bool.false_ne_true

end FeatureAudit
