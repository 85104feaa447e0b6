import FeatureAudit.Text.Case
import FeatureAudit.Text.Digit
import FeatureAudit.Text.Search

/-!
# Styles of priority tags

Priorities are named by a number after `p`, by a number after `priority`, or by a word.
-/

set_option autoImplicit false

namespace FeatureAudit.Tag

/-- How a priority is named. -/
inductive PriorityStyle where
  /-- By `p` and a number. -/
  | numbered
  /-- By `priority` and a number. -/
  | spelledOut
  /-- By a word. -/
  | worded
  deriving DecidableEq, Repr

/-- The name of a style. -/
def PriorityStyle.name : PriorityStyle → String
  | .numbered => "p-style"
  | .spelledOut => "priority-style"
  | .worded => "severity-style"

/-- Whether there are characters and all of them are digits. -/
def isNumber (cs : List Char) : Bool := !cs.isEmpty && cs.all Text.isDecimalDigit

/-- The style of a priority's name. -/
def priorityStyle? (name : String) : Option PriorityStyle :=
  let cs := (Text.lower name).toList.dropWhile fun c => c == '@'
  if (Text.after? "priority" cs).any isNumber then some .spelledOut
  else if (Text.after? "p" cs).any isNumber then some .numbered
  else if ["critical", "high", "medium", "low"].contains (String.ofList cs) then some .worded
  else none

end FeatureAudit.Tag
