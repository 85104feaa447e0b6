import FeatureAudit.Feature

/-!
# Drafts of features

A draft is a feature under construction. New steps and tables go to the scenario added last, and
headers and rows go to the table added last, wherever it stands.
-/

set_option autoImplicit false

namespace FeatureAudit

/-- The table that headers and rows go to. -/
inductive Draft.Target where
  /-- Table number `table` of scenario number `scenario`. -/
  | placed (scenario table : Nat)
  /-- A table that was opened before any scenario and belongs to none. -/
  | loose (table : Example)
  deriving DecidableEq, Repr

/-- A feature under construction. -/
structure Draft where
  /-- The feature so far. -/
  feature : Feature
  /-- The table in hand. -/
  target : Option Draft.Target

namespace Draft

/-- What an operation can lack. -/
inductive Fault where
  /-- No scenario has been added. -/
  | noScenario
  /-- No table has been added. -/
  | noTable
  deriving DecidableEq, Repr

/-- A draft without content. -/
def start (path : String) : Draft := ⟨Feature.blank path, none⟩

/-- Changes the last item of a list. -/
def mapLast {α : Type} (f : α → α) : List α → List α
  | [] => []
  | [a] => [f a]
  | a :: b :: as => a :: mapLast f (b :: as)

/-- The scenario added last. -/
def scenario? (d : Draft) : Option Scenario := d.feature.scenarios.getLast?

/-- The table in hand. -/
def table? (d : Draft) : Option Example :=
  match d.target with
  | none => none
  | some (.loose t) => some t
  | some (.placed i j) => d.feature.scenarios[i]?.bind fun s => s.examples[j]?

/-- Names the feature. -/
def rename (d : Draft) (name : String) : Draft := { d with feature := { d.feature with name } }

/-- Adds tags to the feature. -/
def addTags (d : Draft) (tags : List Tag) : Draft :=
  { d with feature := { d.feature with tags := d.feature.tags ++ tags } }

/-- Adds a scenario, which then takes steps and tables. -/
def addScenario (d : Draft) (name : String) (kind : ScenarioKind) (line : Int) : Draft :=
  { d with feature :=
    { d.feature with scenarios := d.feature.scenarios ++ [⟨name, kind, line, "", [], [], []⟩] } }

/-- Changes the scenario added last. -/
def onScenario (d : Draft) (f : Scenario → Scenario) : Except Fault Draft :=
  if d.feature.scenarios.isEmpty then .error .noScenario
  else .ok { d with feature := { d.feature with scenarios := mapLast f d.feature.scenarios } }

/-- Adds tags to the scenario. -/
def addScenarioTags (d : Draft) (tags : List Tag) : Except Fault Draft :=
  d.onScenario fun s => { s with tags := s.tags ++ tags }

/-- Adds a step to the scenario. -/
def addStep (d : Draft) (step : String) : Except Fault Draft :=
  d.onScenario fun s => { s with steps := s.steps ++ [step] }

/-- Takes a new table in hand and adds it to the scenario. Without a scenario the table is taken
in hand all the same, and the fault says that it belongs to none. -/
def addExample (d : Draft) (name : String) : Draft × Option Fault :=
  let table : Example := ⟨name, [], []⟩
  match d.scenario? with
  | none => ({ d with target := some (.loose table) }, some .noScenario)
  | some s =>
    let scenarios := mapLast (fun s => { s with examples := s.examples ++ [table] })
      d.feature.scenarios
    (⟨{ d.feature with scenarios }, some (.placed (scenarios.length - 1) s.examples.length)⟩, none)

/-- Changes the table in hand. -/
def onTable (d : Draft) (f : Example → Example) : Except Fault Draft :=
  match d.target with
  | none => .error .noTable
  | some (.loose t) => .ok { d with target := some (.loose (f t)) }
  | some (.placed i j) =>
    let scenarios := d.feature.scenarios.modify i fun s => { s with examples := s.examples.modify j f }
    .ok { d with feature := { d.feature with scenarios } }

/-- Replaces the headers of the table in hand. -/
def setHeaders (d : Draft) (headers : List String) : Except Fault Draft :=
  d.onTable fun t => { t with headers }

/-- Adds a row to the table in hand. -/
def addRow (d : Draft) (cells : List String) : Except Fault Draft :=
  d.onTable fun t => { t with rows := t.rows ++ [cells] }

end Draft

end FeatureAudit
