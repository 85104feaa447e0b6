import FeatureAudit.Config.Criteria
import FeatureAudit.Config.Document
import FeatureAudit.Config.Names
import FeatureAudit.Notice

/-!
# Configuration

The criteria of detectors, together with which findings are reported and how. A configuration is
resolved from a document; a document that is not valid gives the standard configuration.
-/

set_option autoImplicit false

namespace FeatureAudit

/-- How findings of a type are reported. -/
structure WarningSetting where
  /-- Whether they are reported. -/
  enabled : Bool
  /-- How serious they are. -/
  severity : Severity
  /-- What is suggested instead. -/
  alternatives : List String
  deriving DecidableEq, Repr

/-- The criteria of detectors, and how their findings are reported. -/
structure Config extends Criteria where
  /-- How findings of each type are reported. -/
  setting : WarningType → WarningSetting

namespace Config

/-! ## Standard values -/

/-- What is suggested instead unless configured otherwise. -/
def standardAlternatives : WarningType → List String
  | .missingPriorityTag =>
    ["@P0", "@P1", "@P2", "@P3", "@Critical", "@High", "@Medium", "@Low"]
  | .missingTypeTag =>
    ["@UI", "@API", "@Backend", "@Frontend", "@Integration", "@Unit", "@Performance", "@Security"]
  | .lowValueTag => ["@Smoke", "@Regression", "@Integration", "@E2E"]
  | _ => []

/-- How findings of a type are reported unless configured otherwise. -/
def standardSetting (t : WarningType) : WarningSetting :=
  ⟨true, t.defaultSeverity, standardAlternatives t⟩

/-- The configuration without a document. -/
def standard [PatternEngine] : Config := ⟨Criteria.standard, standardSetting⟩

/-! ## Changes -/

/-- A map with a new value at one place. -/
def update {α β : Type} [DecidableEq α] (f : α → β) (a : α) (b : β) (x : α) : β :=
  if x = a then b else f x

/-- A map with its value at one place changed. -/
def modify {α β : Type} [DecidableEq α] (f : α → β) (a : α) (change : β → β) (x : α) : β :=
  if x = a then change (f x) else f x

/-- The settings with one type of findings switched off. -/
def switchOff (setting : WarningType → WarningSetting) (t : WarningType) :
    WarningType → WarningSetting :=
  modify setting t fun s => { s with enabled := false }

/-- Switches types of findings off. -/
def withDisabled (c : Config) (types : List WarningType) : Config :=
  { c with setting := types.foldl switchOff c.setting }

/-- Sets a threshold. -/
def withThreshold (c : Config) (t : Threshold) (value : Int) : Config :=
  { c with threshold := update c.threshold t value }

/-- Replaces the settings; types that are not named return to their standard. -/
def withSettings (c : Config) (settings : List (WarningType × WarningSetting)) : Config :=
  { c with setting := settings.foldl (fun setting (t, s) => update setting t s) standardSetting }

/-! ## Resolution of a document -/

/-- Applies an override to a setting, field by field. An unknown severity is a warning. -/
def Override.apply : Override → WarningSetting → WarningSetting
  | .toggle enabled, s => { s with enabled }
  | .fields enabled severity alternatives, s =>
    { enabled := enabled.getD s.enabled
      severity := match severity with
        | none => s.severity
        | some text => (Severity.read? text).getD .warning
      alternatives := match alternatives with
        | none => s.alternatives
        | some texts => namesInAll texts }

/-- What is to be said about an override. -/
def Override.notices (t : WarningType) : Override → List Notice
  | .fields _ (some text) _ =>
    if (Severity.read? text).isSome then [] else [.unknownSeverity text t .warning]
  | _ => []

/-- Applies a named override; one for an unknown name has no effect. -/
def applyOverride (setting : WarningType → WarningSetting) (entry : String × Override) :
    WarningType → WarningSetting :=
  match WarningType.lookup? entry.1 with
  | none => setting
  | some t => modify setting t entry.2.apply

/-- What is to be said about a named override in the section of a family. -/
def overrideNotices (family : Family) (entry : String × Override) : List Notice :=
  match WarningType.lookup? entry.1 with
  | none => [.unknownType entry.1 family]
  | some t =>
    (if t.family = family then [] else [.foreignType t family]) ++ entry.2.notices t

/-- Switches off a type that is named; an unknown name has no effect. -/
def disable (setting : WarningType → WarningSetting) (name : String) :
    WarningType → WarningSetting :=
  match WarningType.lookup? name with
  | none => setting
  | some t => switchOff setting t

/-- The settings of a document: overrides in order, then the types that are switched off. -/
def resolveSettings (d : Document) : WarningType → WarningSetting :=
  (namesInAll d.disabled).foldl disable
    ((d.tagQuality ++ d.antiPatterns).foldl applyOverride standardSetting)

/-- What is to be said about the settings of a document. -/
def settingNotices (d : Document) : List Notice :=
  d.tagQuality.flatMap (overrideNotices .tagQuality) ++
    d.antiPatterns.flatMap (overrideNotices .antiPattern) ++
    (namesInAll d.disabled).flatMap fun name =>
      if (WarningType.lookup? name).isSome then [] else [.unknownDisabled name]

/-- A threshold of a document; one below zero has no effect. -/
def resolveThreshold (d : Document) (t : Threshold) : Int :=
  match d.limit t with
  | none => t.standard
  | some n => if n < 0 then t.standard else n

/-- What is to be said about the thresholds of a document. -/
def thresholdNotices (d : Document) : List Notice :=
  Threshold.all.flatMap fun t =>
    match d.limit t with
    | some n => if n < 0 then [.negativeThreshold t n] else []
    | none => []

/-- The taxonomy of a document. -/
def resolveTaxonomy (d : Document) : Taxonomy :=
  Taxonomy.standard.withOverrides (namesInAll d.priority) (namesInAll d.type)
    (namesInAll d.status)

/-- A list unless it is empty, and a default otherwise. -/
def orElse {α : Type} (xs default : List α) : List α := if xs.isEmpty then default else xs

/-- The tags of a document that say little. -/
def resolveLowValue (d : Document) : List Tag :=
  orElse (Criteria.tagsOf (namesInAll d.lowValue)) (Criteria.tagsOf Criteria.standardLowValue)

/-- The folded words of a document, each once. -/
def foldedWords (texts : List String) : List String :=
  ((namesInAll texts).map Text.fold).eraseDups

/-- The vocabulary of a document; an empty list leaves the standard. -/
def resolveVocabulary [PatternEngine] (d : Document) : Vocabulary :=
  { uiPhrases := orElse (Phrase.readAll d.uiPatterns) Vocabulary.standard.uiPhrases
    implementationPhrases :=
      orElse (Phrase.readAll d.implementationPatterns) Vocabulary.standard.implementationPhrases
    pronouns := orElse (foldedWords d.pronouns) Vocabulary.standard.pronouns
    conjunctions := orElse (foldedWords d.conjunctions) Vocabulary.standard.conjunctions }

/-- What is to be said about patterns. -/
def patternNotices [PatternEngine] (patterns : List String) : List Notice :=
  patterns.flatMap fun p => if (Phrase.read? p).isSome then [] else [.invalidPattern p]

/-- The configuration of a document. -/
def ofDocument [PatternEngine] (d : Document) : Config :=
  { threshold := resolveThreshold d
    taxonomy := resolveTaxonomy d
    lowValue := resolveLowValue d
    vocabulary := resolveVocabulary d
    setting := resolveSettings d }

/-- What is to be said about a document. -/
def documentNotices [PatternEngine] (d : Document) : List Notice :=
  settingNotices d ++ thresholdNotices d ++ patternNotices d.uiPatterns ++
    patternNotices d.implementationPatterns

/-- Why a document ends all work: the first of its patterns that does so. -/
def abort? [PatternEngine] (d : Document) : Option Abort :=
  (d.uiPatterns ++ d.implementationPatterns).findSome? Phrase.abort?

/-- The configuration of a value, with what is to be said about it. An absent or empty value gives
the standard configuration, and so does one that is no valid document. -/
def ofValue [FieldReader] [PatternEngine] (v : Value) : Except Abort (Config × List Notice) :=
  if v.isTruthy then
    match Document.read? v with
    | some d =>
      match abort? d with
      | some cause => .error cause
      | none => .ok (ofDocument d, documentNotices d)
    | none => .ok (standard, [.invalidDocument])
  else .ok (standard, [])

end Config

end FeatureAudit
