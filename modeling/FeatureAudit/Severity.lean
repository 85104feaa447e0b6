import FeatureAudit.Text.Blank
import FeatureAudit.Text.Case

/-!
# Severity of findings
-/

set_option autoImplicit false

namespace FeatureAudit

/-- How serious a finding is. -/
inductive Severity where
  /-- It has to be mended. -/
  | error
  /-- It should be mended. -/
  | warning
  /-- It is worth knowing. -/
  | info
  /-- It is a suggestion. -/
  | hint
  deriving DecidableEq, Repr

namespace Severity

/-- The name of a severity. -/
def name : Severity → String
  | .error => "ERROR"
  | .warning => "WARNING"
  | .info => "INFO"
  | .hint => "HINT"

/-- All severities, the most serious first. -/
def all : List Severity := [.error, .warning, .info, .hint]

/-- The severity of an exact name. -/
def ofName? (s : String) : Option Severity := all.find? fun v => v.name == s

/-- The severity that a text names, in any case and with surrounding white space. -/
def read? (s : String) : Option Severity := ofName? (Text.upper (Text.trim s))

end Severity

end FeatureAudit
