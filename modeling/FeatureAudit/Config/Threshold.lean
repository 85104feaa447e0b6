/-!
# Thresholds

The numbers that detectors compare with.
-/

set_option autoImplicit false

namespace FeatureAudit

/-- The thresholds. -/
inductive Threshold where
  /-- The most steps of a scenario. -/
  | maxSteps
  /-- The fewest steps of a scenario. -/
  | minSteps
  /-- The fewest rows of a table of examples. -/
  | minExamples
  /-- The most tags of a scenario. -/
  | maxTags
  /-- The length of a scenario's name. -/
  | maxScenarioNameLength
  /-- The length of a step. -/
  | maxStepLength
  deriving DecidableEq, Repr

namespace Threshold

/-- All thresholds in order. -/
def all : List Threshold :=
  [.maxSteps, .minSteps, .minExamples, .maxTags, .maxScenarioNameLength, .maxStepLength]

/-- The name by which a threshold is configured. -/
def name : Threshold → String
  | .maxSteps => "max_steps"
  | .minSteps => "min_steps"
  | .minExamples => "min_examples"
  | .maxTags => "max_tags"
  | .maxScenarioNameLength => "max_scenario_name_length"
  | .maxStepLength => "max_step_length"

/-- The threshold of a name. -/
def ofName? (s : String) : Option Threshold := all.find? fun t => t.name == s

/-- The value of a threshold unless configured otherwise. -/
def standard : Threshold → Int
  | .maxSteps => 10
  | .minSteps => 2
  | .minExamples => 2
  | .maxTags => 6
  | .maxScenarioNameLength => 100
  | .maxStepLength => 120

end Threshold

end FeatureAudit
