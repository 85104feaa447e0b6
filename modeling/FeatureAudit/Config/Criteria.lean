import FeatureAudit.Config.Threshold
import FeatureAudit.Config.Vocabulary
import FeatureAudit.Tag.Taxonomy

/-!
# Criteria

What detectors judge by: the thresholds, the taxonomy of tags, the tags that say little, and the
vocabulary. How a finding is reported is no criterion, so no detector can depend on it.
-/

set_option autoImplicit false

namespace FeatureAudit

/-- What detectors judge by. -/
structure Criteria where
  /-- The value of each threshold. -/
  threshold : Threshold → Int
  /-- The taxonomy of tags. -/
  taxonomy : Taxonomy
  /-- Tags that say little. -/
  lowValue : List Tag
  /-- The vocabulary. -/
  vocabulary : Vocabulary

namespace Criteria

/-- Tags that say little unless configured otherwise. -/
def standardLowValue : List String :=
  ["@Test", "@Tests", "@Feature", "@Cucumber", "@Scenario", "@Gherkin", "@Temp", "@Temporary",
    "@Pending", "@Fixme", "@Workaround", "@Ignore", "@Skip", "@Manual"]

/-- The tags among raw names, each once. -/
def tagsOf (names : List String) : List Tag := Tag.distinct (names.filterMap Tag.of?)

/-- The criteria without a document. -/
def standard [PatternEngine] : Criteria :=
  ⟨Threshold.standard, Taxonomy.standard, tagsOf standardLowValue, Vocabulary.standard⟩

/-- Whether a tag says little. -/
def isLowValue (c : Criteria) (t : Tag) : Bool := t.mentioned c.lowValue

/-- The names of the tags that say little, sorted without regard to case. -/
def lowValueNames (c : Criteria) : List String :=
  (Text.sortBy Tag.compareNames c.lowValue).map Tag.name

end Criteria

end FeatureAudit
