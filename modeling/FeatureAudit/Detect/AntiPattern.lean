import FeatureAudit.Detect.TagQuality
import FeatureAudit.Step
import FeatureAudit.Step.Conjunction
import FeatureAudit.Step.Pronoun
import FeatureAudit.Step.Tense

/-!
# Detectors of anti-patterns

Each looks at one scenario or scenario outline at a time and tells what is wrong with its shape or
its wording. Backgrounds and rules are left alone.
-/

set_option autoImplicit false

namespace FeatureAudit.Detect

/-! ## Shape -/

/-- Too many steps. -/
def longScenario (c : Criteria) (s : Scenario) : List String :=
  if c.threshold .maxSteps < s.steps.length then
    ["Scenario has " ++ toString s.steps.length ++ " steps (recommended maximum: " ++
      toString (c.threshold .maxSteps) ++ ")"]
  else []

/-- Too few steps. -/
def tooFewSteps (c : Criteria) (s : Scenario) : List String :=
  if s.steps.length < c.threshold .minSteps then
    ["Scenario has only " ++ toString s.steps.length ++ " step(s)"]
  else []

/-- No step of a category, unless all steps are bullets. -/
def missingStep (category : StepCategory) (s : Scenario) : List String :=
  if Step.bulletsOnly s.steps || (Step.categories s.steps).contains (some category) then []
  else ["Scenario is missing a " ++ category.keyword ++ " step"]

/-- What is wrong with the place of a step after the categories seen so far. -/
def orderFault? (seen : List StepCategory) : StepCategory → Option String
  | .action =>
    if seen.contains .outcome then some "When step after Then step" else none
  | .setting =>
    if seen.contains .outcome then some "Given step after Then step"
    else if seen.contains .action then some "Given step after When step"
    else none
  | .outcome => none

/-- Steps out of order after the categories seen so far. -/
def orderFaults (seen : List StepCategory) : List (String × Option StepCategory) → List String
  | [] => []
  | (_, none) :: steps => orderFaults seen steps
  | (step, some category) :: steps =>
    ((orderFault? seen category).map fun fault => fault ++ ": \"" ++ step ++ "\"").toList ++
      orderFaults (category :: seen) steps

/-- Steps that do not go from setting over action to outcome. -/
def incorrectOrder (s : Scenario) : List String :=
  orderFaults [] (s.steps.zip (Step.categories s.steps))

/-- An outline without tables of examples. -/
def missingExamples (s : Scenario) : List String :=
  if s.isOutline && s.examples.isEmpty then ["Scenario Outline has no Examples tables"] else []

/-- Tables of examples with too few rows. -/
def tooFewExamples (c : Criteria) (s : Scenario) : List String :=
  if s.isOutline then
    s.examples.flatMap fun e =>
      if e.rows.length < c.threshold .minExamples then
        ["Examples table '" ++ (if e.name.isEmpty then "unnamed" else e.name) ++ "' has only " ++
          toString e.rows.length ++ " row(s) (recommended minimum: " ++
          toString (c.threshold .minExamples) ++ ")"]
      else []
  else []

/-- A name that is too long. -/
def longName (c : Criteria) (s : Scenario) : List String :=
  if c.threshold .maxScenarioNameLength < s.name.length then
    ["Scenario name is " ++ toString s.name.length ++
      " characters long (recommended maximum: " ++
      toString (c.threshold .maxScenarioNameLength) ++ ")"]
  else []

/-! ## Wording -/

/-- Steps in which one of some phrases occurs. -/
def steppedIn (phrases : List Phrase) (text : String) (s : Scenario) : List String :=
  s.steps.flatMap fun step =>
    if (Phrase.firstMatch? phrases step).isSome then [text ++ ": \"" ++ step ++ "\""] else []

/-- Steps with a pronoun that refers to nothing. -/
def pronouns (c : Criteria) (s : Scenario) : List String :=
  s.steps.flatMap fun step =>
    ((Step.ambiguousPronoun? c.vocabulary.pronouns step).map fun p =>
      "Step contains ambiguous pronoun '" ++ p ++ "': \"" ++ step ++ "\"").toList

/-- A mix of tenses. -/
def mixedTense (s : Scenario) : List String :=
  let tenses := s.steps.map Step.tense?
  if tenses.contains (some .present) && tenses.contains (some .past) then
    ["Scenario uses a mix of present and past tense"]
  else []

/-- Steps of two clauses. -/
def conjunctions (c : Criteria) (s : Scenario) : List String :=
  s.steps.flatMap fun step =>
    ((Step.joiningConjunction? c.vocabulary.conjunctions step).map fun word =>
      "Step contains conjunction '" ++ word ++ "' suggesting it should be split: \"" ++ step ++
        "\"").toList

/-- Steps that are too long. -/
def longSteps (c : Criteria) (s : Scenario) : List String :=
  s.steps.flatMap fun step =>
    if c.threshold .maxStepLength < step.length then
      ["Step text is " ++ toString step.length ++ " characters long (recommended maximum: " ++
        toString (c.threshold .maxStepLength) ++ "): \"" ++ Step.preview step ++ "\""]
    else []

/-! ## By type -/

/-- What is to be said about a scenario for a type about anti-patterns; nothing for the other
types. -/
def scenarioFaults (c : Criteria) (s : Scenario) : WarningType → List String
  | .longScenario => longScenario c s
  | .tooFewSteps => tooFewSteps c s
  | .missingGiven => missingStep .setting s
  | .missingWhen => missingStep .action s
  | .missingThen => missingStep .outcome s
  | .incorrectStepOrder => incorrectOrder s
  | .uiFocusedStep =>
    steppedIn c.vocabulary.uiPhrases "Step contains UI-focused language" s
  | .implementationDetail =>
    steppedIn c.vocabulary.implementationPhrases "Step contains technical implementation details" s
  | .missingExamples => missingExamples s
  | .tooFewExamples => tooFewExamples c s
  | .ambiguousPronoun => pronouns c s
  | .inconsistentTense => mixedTense s
  | .conjunctionInStep => conjunctions c s
  | .longScenarioName => longName c s
  | .longStepText => longSteps c s
  | _ => []

/-- What is observed on a feature for a type about anti-patterns. -/
def antiPatternsIn (c : Criteria) (type : WarningType) (f : Feature) : List Observation :=
  f.behaviors.flatMap fun s =>
    (scenarioFaults c s type).map fun message => ⟨message, .scenario f s, none⟩

/-- What is observed in a corpus for a type about anti-patterns. -/
def antiPatterns (v : Survey) (type : WarningType) : List Observation :=
  v.features.flatMap (antiPatternsIn v.criteria type)

end FeatureAudit.Detect
