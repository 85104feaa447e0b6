import FeatureAudit.Value
import FeatureAudit.Text.Blank

/-!
# Lists of names

Names may stand in one text, divided by commas. Names are trimmed, and empty ones are left out.
-/

set_option autoImplicit false

namespace FeatureAudit.Config

/-- The names in a text. -/
def namesIn (s : String) : List String :=
  ((s.toList.splitOn ',').map Text.trimChars |>.filter fun cs => !cs.isEmpty).map String.ofList

/-- The names in several texts. -/
def namesInAll (texts : List String) : List String := texts.flatMap namesIn

/-- The names in a value: in a text or in the texts of a list. Other values have none. -/
def namesOf : Value → List String
  | .text s => namesIn s
  | .list items => namesInAll (items.filterMap Value.asText?)
  | _ => []

end FeatureAudit.Config
