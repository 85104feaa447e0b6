import FeatureAudit.Config.Threshold
import FeatureAudit.Value

/-!
# Configuration documents

A configuration document is a table of four sections. Reading it checks every field that is known
and ignores all others; a field of the wrong shape makes the whole document invalid. In which forms
besides the plain one a field may come is left to a reader of fields. Writing a document gives a
table with every field.
-/

set_option autoImplicit false

namespace FeatureAudit.Config

/-- What a document says about a type of finding. -/
inductive Override where
  /-- Whether it is reported. -/
  | toggle (enabled : Bool)
  /-- The fields that are to change. -/
  | fields (enabled : Option Bool) (severity : Option String) (alternatives : Option (List String))
  deriving DecidableEq, Repr

/-- A valid configuration document. -/
structure Document where
  /-- Names of types that are not reported. -/
  disabled : List String
  /-- Overrides in the section on tags. -/
  tagQuality : List (String × Override)
  /-- Overrides in the section on scenarios. -/
  antiPatterns : List (String × Override)
  /-- Names that tell priority. -/
  priority : List String
  /-- Names that tell the type. -/
  type : List String
  /-- Names that tell the status. -/
  status : List String
  /-- Names that say little. -/
  lowValue : List String
  /-- The thresholds that are set. -/
  limit : Threshold → Option Int
  /-- Patterns of user interface language. -/
  uiPatterns : List String
  /-- Patterns of technical language. -/
  implementationPatterns : List String
  /-- Pronouns. -/
  pronouns : List String
  /-- Conjunctions. -/
  conjunctions : List String

/-! ## Reading fields -/

/-- How a field is read that holds yes or no, or a whole number, in one of several forms. -/
class FieldReader where
  /-- Yes or no. -/
  flag? : Value → Option Bool
  /-- A threshold. -/
  limit? : Value → Option Int
  /-- A plain yes or no is read as it is. -/
  flag?_flag (b : Bool) : flag? (.flag b) = some b
  /-- A plain whole number is read as it is. -/
  limit?_integer (n : Int) : limit? (.integer n) = some n

/-- A list of texts. -/
def texts? : Value → Option (List String)
  | .list items => items.mapM Value.asText?
  | _ => none

/-- A field that may be null. -/
def optional? {α : Type} (read? : Value → Option α) : Value → Option (Option α)
  | .null => some none
  | v => (read? v).map some

/-- A field of a table, or its default if the table does not have it. -/
def field? {α : Type} (default : α) (read? : Value → Option α) (es : Entries) (name : String) :
    Option α :=
  match Entries.get? es name with
  | none => some default
  | some v => read? v

/-- The entries of a table. -/
def entries? : Value → Option Entries
  | .table es => some es
  | _ => none

/-- An override: yes or no, or a table of fields. -/
def override? [FieldReader] : Value → Option Override
  | .table es => do
    let enabled ← field? none (optional? FieldReader.flag?) es "enabled"
    let severity ← field? none (optional? Value.asText?) es "severity"
    let alternatives ← field? none (optional? texts?) es "alternatives"
    some (.fields enabled severity alternatives)
  | v => (FieldReader.flag? v).map .toggle

/-- Named overrides. -/
def overrides? [FieldReader] : Value → Option (List (String × Override))
  | .table es => es.mapM fun (name, v) => (override? v).map fun o => (name, o)
  | _ => none

/-- The values of thresholds in a list. -/
def limitsIn (set : List (Threshold × Option Int)) (t : Threshold) : Option Int :=
  (set.lookup t).join

/-! ## Documents -/

/-- Reads a document from a value. -/
def Document.read? [FieldReader] (v : Value) : Option Document := do
  let es ← entries? v
  let warnings ← field? [] entries? es "warnings"
  let tags ← field? [] entries? es "tags"
  let thresholds ← field? [] entries? es "thresholds"
  let vocabulary ← field? [] entries? es "vocabulary"
  let disabled ← field? [] texts? warnings "disabled"
  let tagQuality ← field? [] overrides? warnings "tag_quality"
  let antiPatterns ← field? [] overrides? warnings "anti_patterns"
  let priority ← field? [] texts? tags "priority"
  let type ← field? [] texts? tags "type"
  let status ← field? [] texts? tags "status"
  let lowValue ← field? [] texts? tags "low_value"
  let limits ← Threshold.all.mapM fun t =>
    (field? none (optional? FieldReader.limit?) thresholds t.name).map fun n => (t, n)
  let uiPatterns ← field? [] texts? vocabulary "ui_patterns"
  let implementationPatterns ← field? [] texts? vocabulary "implementation_patterns"
  let pronouns ← field? [] texts? vocabulary "pronouns"
  let conjunctions ← field? [] texts? vocabulary "conjunctions"
  some { disabled, tagQuality, antiPatterns, priority, type, status, lowValue,
         limit := limitsIn limits, uiPatterns, implementationPatterns, pronouns, conjunctions }

/-- A list of texts as a value. -/
def ofTexts (texts : List String) : Value := .list (texts.map .text)

/-- A field that may be null as a value. -/
def ofOptional {α : Type} (write : α → Value) : Option α → Value
  | none => .null
  | some a => write a

/-- An override as a value. -/
def Override.write : Override → Value
  | .toggle b => .flag b
  | .fields enabled severity alternatives =>
    .table [("enabled", ofOptional .flag enabled), ("severity", ofOptional .text severity),
      ("alternatives", ofOptional ofTexts alternatives)]

/-- Named overrides as a value. -/
def ofOverrides (os : List (String × Override)) : Value :=
  .table (os.map fun (name, o) => (name, o.write))

/-- A document as a table with every field. -/
def Document.write (d : Document) : Value :=
  .table
    [("warnings", .table
        [("disabled", ofTexts d.disabled), ("tag_quality", ofOverrides d.tagQuality),
          ("anti_patterns", ofOverrides d.antiPatterns)]),
      ("tags", .table
        [("priority", ofTexts d.priority), ("type", ofTexts d.type), ("status", ofTexts d.status),
          ("low_value", ofTexts d.lowValue)]),
      ("thresholds", .table
        (Threshold.all.map fun t => (t.name, ofOptional .integer (d.limit t)))),
      ("vocabulary", .table
        [("ui_patterns", ofTexts d.uiPatterns),
          ("implementation_patterns", ofTexts d.implementationPatterns),
          ("pronouns", ofTexts d.pronouns), ("conjunctions", ofTexts d.conjunctions)])]

end FeatureAudit.Config
