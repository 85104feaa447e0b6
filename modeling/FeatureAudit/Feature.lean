import FeatureAudit.Tag
import FeatureAudit.Value

/-!
# Features

A feature document holds scenarios, a scenario holds steps, and a scenario outline holds tables of
examples. Tags stand on the feature and on its scenarios.
-/

set_option autoImplicit false

namespace FeatureAudit

/-- The kinds of scenario. -/
inductive ScenarioKind where
  /-- A plain scenario. -/
  | scenario
  /-- A scenario with placeholders that examples fill in. -/
  | outline
  /-- Steps in front of every scenario. -/
  | background
  /-- A heading over scenarios. -/
  | rule
  deriving DecidableEq, Repr

namespace ScenarioKind

/-- The name of a kind. -/
def name : ScenarioKind → String
  | .scenario => "Scenario"
  | .outline => "Scenario Outline"
  | .background => "Background"
  | .rule => "Rule"

/-- The kind of a name. -/
def ofName? (s : String) : Option ScenarioKind :=
  [scenario, outline, background, rule].find? fun k => k.name == s

end ScenarioKind

/-- A table of examples. -/
structure Example where
  /-- The name, possibly empty. -/
  name : String
  /-- The names of the columns. -/
  headers : List String
  /-- The rows of cells. -/
  rows : List (List String)
  deriving DecidableEq, Repr

/-- A scenario. -/
structure Scenario where
  /-- The name, possibly empty. -/
  name : String
  /-- Its kind. -/
  kind : ScenarioKind
  /-- The line of its keyword. -/
  line : Int
  /-- Free text under the keyword. -/
  description : String
  /-- Its own tags. -/
  tags : List Tag
  /-- Its steps. -/
  steps : List String
  /-- Its tables of examples. -/
  examples : List Example
  deriving DecidableEq, Repr

namespace Scenario

/-- A scenario outline. -/
def isOutline (s : Scenario) : Bool := s.kind == .outline

/-- A background. -/
def isBackground (s : Scenario) : Bool := s.kind == .background

/-- A scenario with steps of its own that describe behaviour. -/
def isBehavior (s : Scenario) : Bool := s.kind == .scenario || s.kind == .outline

end Scenario

/-- A feature. -/
structure Feature where
  /-- The path of its document. -/
  path : String
  /-- Its name. -/
  name : String
  /-- Free text under its keyword. -/
  description : String
  /-- Its own tags. -/
  tags : List Tag
  /-- Its scenarios in order. -/
  scenarios : List Scenario
  /-- What is known about the document besides its content. -/
  metadata : Entries

namespace Feature

/-- The name of a feature that has none. -/
def defaultName : String := "Unnamed Feature"

/-- A feature without content. -/
def blank (path : String) : Feature := ⟨path, defaultName, "", [], [], []⟩

/-- The tags that hold for a scenario: the feature's and its own, first mentions only. -/
def effectiveTags (f : Feature) (s : Scenario) : List Tag := Tag.distinct (f.tags ++ s.tags)

/-- Adds metadata; entries with a known name replace the old ones. -/
def withMetadata (f : Feature) (entries : Entries) : Feature :=
  { f with metadata := entries.foldl (fun m (name, v) => Entries.put m name v) f.metadata }

/-- Whether metadata of a name is present and not empty. -/
def hasCapability (f : Feature) (name : String) : Bool :=
  ((Entries.get? f.metadata name).getD .null).isTruthy

/-- Whether the feature or one of its scenarios mentions a tag. -/
def carries (f : Feature) (t : Tag) : Bool :=
  t.mentioned f.tags || f.scenarios.any fun s => t.mentioned s.tags

/-- Whether the feature or one of its scenarios mentions one of some tags. -/
def carriesAny (f : Feature) (ts : List Tag) : Bool :=
  ts.any (fun t => t.mentioned f.tags) ||
    f.scenarios.any fun s => ts.any fun t => t.mentioned s.tags

/-- The scenarios that describe behaviour. -/
def behaviors (f : Feature) : List Scenario := f.scenarios.filter Scenario.isBehavior

/-- The scenarios besides backgrounds. -/
def foreground (f : Feature) : List Scenario := f.scenarios.filter fun s => !s.isBackground

/-- The scenario at an index; a negative index counts from the end. -/
def scenarioAt? (f : Feature) (index : Int) : Option Scenario :=
  let k := if index < 0 then index + f.scenarios.length else index
  if k < 0 then none else f.scenarios[k.toNat]?

/-- The tag lists of a feature: its own, then those of its scenarios. -/
def tagLists (f : Feature) : List (List Tag) := f.tags :: f.scenarios.map Scenario.tags

/-- The tags of a feature and of its scenarios, each of them once. -/
def tagSet (f : Feature) : List Tag := Tag.distinct f.tagLists.flatten

end Feature

end FeatureAudit
