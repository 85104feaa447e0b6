import FeatureAudit.Config.Threshold
import FeatureAudit.Text.Quoted
import FeatureAudit.Warning.Type

/-!
# Notices

What a run has to say about its configuration and its course.
-/

set_option autoImplicit false

namespace FeatureAudit

/-- A remark on the configuration or the course of a run. -/
inductive Notice where
  /-- A severity that is none. -/
  | unknownSeverity (text : String) (type : WarningType) (used : Severity)
  /-- A name that is no type of finding. -/
  | unknownType (name : String) (family : Family)
  /-- A type of finding in the section of another family. -/
  | foreignType (type : WarningType) (family : Family)
  /-- A name among the disabled types that is none. -/
  | unknownDisabled (name : String)
  /-- A threshold below zero. -/
  | negativeThreshold (threshold : Threshold) (value : Int)
  /-- A pattern that is not well formed. -/
  | invalidPattern (pattern : String)
  /-- A document that is not valid. -/
  | invalidDocument
  /-- A configuration file was read. -/
  | loaded (path : String)
  /-- A configuration file could not be read. -/
  | unreadable (path cause : String)
  /-- A configuration file is not well formed. -/
  | malformed (path : String)
  /-- Features were chosen by their tags. -/
  | filtered (kept total : Nat)
  /-- The result of a run. -/
  | finished (summary : String)
  deriving DecidableEq, Repr

namespace Notice

/-- Whether a notice is a warning. -/
def isWarning : Notice → Bool
  | .unknownSeverity .. | .negativeThreshold .. | .invalidPattern _ | .invalidDocument |
    .unreadable .. | .malformed _ => true
  | _ => false

/-- The level of a notice. -/
def level (n : Notice) : String := if n.isWarning then "WARNING" else "INFO"

/-- The wording of a notice. -/
def text : Notice → String
  | .unknownSeverity s type used =>
    "Unknown severity " ++ Text.quoted s ++ " for " ++ type.name ++ "; using " ++ used.name
  | .unknownType name family =>
    "Ignoring unknown warning type " ++ Text.quoted name ++ " in [warnings." ++ family.name ++ "]"
  | .foreignType type family =>
    "Warning type " ++ type.name ++ " configured under [warnings." ++ family.name ++
      "]; applying it anyway"
  | .unknownDisabled name =>
    "Ignoring unknown warning type " ++ Text.quoted name ++ " in warnings.disabled"
  | .negativeThreshold t n => "Ignoring negative threshold " ++ t.name ++ "=" ++ toString n
  | .invalidPattern p => "Ignoring invalid vocabulary pattern " ++ Text.quoted p ++ ": error"
  | .invalidDocument => "Invalid configuration document; using defaults: ConfigurationError"
  | .loaded path => "Loaded configuration from " ++ path
  | .unreadable path cause =>
    "Cannot read configuration " ++ path ++ " (" ++ cause ++ "); using defaults"
  | .malformed path => "Malformed configuration " ++ path ++ " (TOMLDecodeError); using defaults"
  | .filtered kept total =>
    "Tag filter kept " ++ toString kept ++ " of " ++ toString total ++ " feature file(s)"
  | .finished summary => summary

end Notice

end FeatureAudit
