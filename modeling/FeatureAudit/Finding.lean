import FeatureAudit.Config
import FeatureAudit.Feature
import FeatureAudit.Text.Order
import FeatureAudit.Text.Search
import FeatureAudit.Warning.Advice

/-!
# Findings

A detector observes something at a place. Together with the setting of its type the observation
becomes a finding, which can be shown, located and sorted.
-/

set_option autoImplicit false

namespace FeatureAudit

/-- Where something is observed. -/
inductive Place where
  /-- In the corpus as a whole. -/
  | corpus
  /-- On a feature. -/
  | feature (f : Feature)
  /-- On a scenario of a feature. -/
  | scenario (f : Feature) (s : Scenario)

namespace Place

/-- The feature of a place. -/
def feature? : Place → Option Feature
  | .corpus => none
  | .feature f => some f
  | .scenario f _ => some f

/-- The scenario of a place. -/
def scenario? : Place → Option Scenario
  | .scenario _ s => some s
  | _ => none

end Place

/-- What a detector observes. -/
structure Observation where
  /-- What is to be said. -/
  message : String
  /-- Where it was observed. -/
  place : Place
  /-- What is suggested instead; otherwise the setting decides. -/
  alternatives : Option (List String)

/-- A finding. -/
structure Finding where
  /-- Its type. -/
  type : WarningType
  /-- How serious it is. -/
  severity : Severity
  /-- What is to be said. -/
  message : String
  /-- The path of the feature, or an empty text. -/
  path : String
  /-- The name of the feature, or an empty text. -/
  feature : String
  /-- The name of the scenario. -/
  scenario : Option String
  /-- The line of the scenario. -/
  line : Option Int
  /-- What is suggested instead. -/
  alternatives : List String
  deriving DecidableEq, Repr

namespace Finding

/-- The finding of an observation under a setting. -/
def of (type : WarningType) (setting : WarningSetting) (o : Observation) : Finding :=
  { type
    severity := setting.severity
    message := o.message
    path := (o.place.feature?.map Feature.path).getD ""
    feature := (o.place.feature?.map Feature.name).getD ""
    scenario := o.place.scenario?.map Scenario.name
    line := o.place.scenario?.map Scenario.line
    alternatives := o.alternatives.getD setting.alternatives }

/-- Characters between the segments of a path. -/
def isSlash (c : Char) : Bool := c == '/' || c == '\\'

/-- What stands after the last slash of a path. -/
def fileName (path : String) : String :=
  String.ofList ((path.toList.reverse.takeWhile fun c => !isSlash c).reverse)

/-- The place of a finding as it is shown. -/
def location (f : Finding) : String :=
  match f.scenario with
  | none => fileName f.path
  | some s => if (fileName f.path).isEmpty then s else fileName f.path ++ " - " ++ s

/-- A finding as it is shown. -/
def text (f : Finding) : String :=
  f.severity.name ++ ": " ++ f.type.description ++ ": " ++ f.message ++
    if f.location.isEmpty then "" else " (in " ++ f.location ++ ")"

/-- The line of a finding in sorted views. -/
def sortLine (f : Finding) : Int := f.line.getD 0

/-- Order by path, line, name of the type, and message. -/
def compare (f g : Finding) : Ordering :=
  (Text.compareTexts f.path g.path).then <|
    (Text.compareInts f.sortLine g.sortLine).then <|
      (Text.compareTexts f.type.name g.type.name).then (Text.compareTexts f.message g.message)

end Finding

end FeatureAudit
