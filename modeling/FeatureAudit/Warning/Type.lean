import FeatureAudit.Severity

/-!
# Types of findings

Every finding has a type. A type belongs to a family, has a severity unless the configuration says
otherwise, and has a name by which it is configured.
-/

set_option autoImplicit false

namespace FeatureAudit

/-- The families of findings. -/
inductive Family where
  /-- Findings about tags. -/
  | tagQuality
  /-- Findings about the wording and shape of scenarios. -/
  | antiPattern
  deriving DecidableEq, Repr

/-- The name of a family. -/
def Family.name : Family → String
  | .tagQuality => "tag_quality"
  | .antiPattern => "anti_patterns"

/-- The family of a name. -/
def Family.ofName? (s : String) : Option Family :=
  [Family.tagQuality, .antiPattern].find? fun f => f.name == s

/-- The types of findings. -/
inductive WarningType where
  /-- No tag tells the priority of a scenario. -/
  | missingPriorityTag
  /-- No tag tells the type of a scenario. -/
  | missingTypeTag
  /-- A tag is known to say little. -/
  | lowValueTag
  /-- A tag is repeated where it already holds. -/
  | duplicateTag
  /-- A scenario has too many tags. -/
  | excessiveTags
  /-- A tag is used once in the corpus. -/
  | orphanedTag
  /-- Two tags are almost the same. -/
  | tagTypo
  /-- Priorities are named in several styles. -/
  | inconsistentTagging
  /-- A tag is too short to be understood. -/
  | ambiguousTag
  /-- A tag is on nearly every feature. -/
  | tooGenericTag
  /-- A scenario has too many steps. -/
  | longScenario
  /-- A scenario has too few steps. -/
  | tooFewSteps
  /-- No step sets the scene. -/
  | missingGiven
  /-- No step acts. -/
  | missingWhen
  /-- No step checks an outcome. -/
  | missingThen
  /-- Steps do not go from setting over action to outcome. -/
  | incorrectStepOrder
  /-- A step tells how a user interface is used. -/
  | uiFocusedStep
  /-- A step tells a technical detail. -/
  | implementationDetail
  /-- An outline has no examples. -/
  | missingExamples
  /-- A table of examples has too few rows. -/
  | tooFewExamples
  /-- A pronoun refers to nothing in its step. -/
  | ambiguousPronoun
  /-- Steps of a scenario mix tenses. -/
  | inconsistentTense
  /-- A step has two clauses. -/
  | conjunctionInStep
  /-- The name of a scenario is too long. -/
  | longScenarioName
  /-- The text of a step is too long. -/
  | longStepText
  deriving DecidableEq, Repr

namespace WarningType

/-- All types: those about tags first. -/
def all : List WarningType :=
  [.missingPriorityTag, .missingTypeTag, .lowValueTag, .duplicateTag, .excessiveTags,
    .orphanedTag, .tagTypo, .inconsistentTagging, .ambiguousTag, .tooGenericTag,
    .longScenario, .tooFewSteps, .missingGiven, .missingWhen, .missingThen,
    .incorrectStepOrder, .uiFocusedStep, .implementationDetail, .missingExamples,
    .tooFewExamples, .ambiguousPronoun, .inconsistentTense, .conjunctionInStep,
    .longScenarioName, .longStepText]

/-- The name by which a type is configured. -/
def name : WarningType → String
  | .missingPriorityTag => "MISSING_PRIORITY_TAG"
  | .missingTypeTag => "MISSING_TYPE_TAG"
  | .lowValueTag => "LOW_VALUE_TAG"
  | .duplicateTag => "DUPLICATE_TAG"
  | .excessiveTags => "EXCESSIVE_TAGS"
  | .orphanedTag => "ORPHANED_TAG"
  | .tagTypo => "TAG_TYPO"
  | .inconsistentTagging => "INCONSISTENT_TAGGING"
  | .ambiguousTag => "AMBIGUOUS_TAG"
  | .tooGenericTag => "TOO_GENERIC_TAG"
  | .longScenario => "LONG_SCENARIO"
  | .tooFewSteps => "TOO_FEW_STEPS"
  | .missingGiven => "MISSING_GIVEN"
  | .missingWhen => "MISSING_WHEN"
  | .missingThen => "MISSING_THEN"
  | .incorrectStepOrder => "INCORRECT_STEP_ORDER"
  | .uiFocusedStep => "UI_FOCUSED_STEP"
  | .implementationDetail => "IMPLEMENTATION_DETAIL"
  | .missingExamples => "MISSING_EXAMPLES"
  | .tooFewExamples => "TOO_FEW_EXAMPLES"
  | .ambiguousPronoun => "AMBIGUOUS_PRONOUN"
  | .inconsistentTense => "INCONSISTENT_TENSE"
  | .conjunctionInStep => "CONJUNCTION_IN_STEP"
  | .longScenarioName => "LONG_SCENARIO_NAME"
  | .longStepText => "LONG_STEP_TEXT"

/-- The family of a type. -/
def family : WarningType → Family
  | .missingPriorityTag | .missingTypeTag | .lowValueTag | .duplicateTag |
    .excessiveTags | .orphanedTag | .tagTypo | .inconsistentTagging |
    .ambiguousTag | .tooGenericTag => .tagQuality
  | _ => .antiPattern

/-- The severity of a type unless configured otherwise. -/
def defaultSeverity : WarningType → Severity
  | .missingPriorityTag | .duplicateTag | .missingGiven |
    .missingWhen | .missingThen | .incorrectStepOrder |
    .missingExamples => .error
  | .lowValueTag | .orphanedTag | .tooGenericTag |
    .longScenarioName | .longStepText => .info
  | _ => .warning

/-- The type of an exact name. -/
def ofName? (s : String) : Option WarningType := all.find? fun t => t.name == s

/-- The type that a text names, in any case and with surrounding white space. -/
def lookup? (s : String) : Option WarningType := ofName? (Text.upper (Text.trim s))

/-- The types of a family, in order. -/
def ofFamily (f : Family) : List WarningType := all.filter fun t => t.family == f

end WarningType

end FeatureAudit
