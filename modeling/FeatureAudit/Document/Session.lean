import FeatureAudit.Document.Line
import FeatureAudit.Text.Lines
import FeatureAudit.Text.Search

/-!
# Reading a feature document

A session takes the lines of a document one by one. Every line has a meaning: one that is nothing
else is free text of the element that is open, so a document is never refused.
-/

set_option autoImplicit false

namespace FeatureAudit.Document

/-- What is being read. -/
inductive Phase where
  /-- Nothing has been opened. -/
  | idle
  /-- The lines under the feature's keyword. -/
  | featureHeader
  /-- The lines under a scenario's keyword. -/
  | scenarioBody
  /-- A table of examples whose header row is still to come. -/
  | examplesHeader (name : String)
  /-- A table of examples with its header row. -/
  | examplesRows (table : Example)
  deriving DecidableEq, Repr

/-- The element that free text describes. -/
inductive Owner where
  /-- The feature. -/
  | feature
  /-- The scenario opened last. -/
  | scenario
  deriving DecidableEq, Repr

/-- The name of an owner. -/
def Owner.name : Owner → String
  | .feature => "feature"
  | .scenario => "scenario"

namespace Phase

/-- The name of a phase. -/
def name : Phase → String
  | .idle => "idle"
  | .featureHeader => "in_feature_header"
  | .scenarioBody => "in_scenario_body"
  | .examplesHeader _ => "in_examples_header"
  | .examplesRows _ => "in_examples_rows"

/-- The element that free text describes; a table of examples takes none. -/
def owner? : Phase → Option Owner
  | .idle | .featureHeader => some .feature
  | .scenarioBody => some .scenario
  | .examplesHeader _ | .examplesRows _ => none

/-- The table being read. -/
def table? : Phase → Option Example
  | .examplesHeader name => some ⟨name, [], []⟩
  | .examplesRows t => some t
  | _ => none

end Phase

/-- A document read up to some line. -/
structure Session where
  /-- The feature without its scenarios. -/
  head : Feature
  /-- Whether the feature's keyword line has been read. -/
  opened : Bool
  /-- The scenarios before the open one. -/
  closed : List Scenario
  /-- The scenario opened last. -/
  scenario : Option Scenario
  /-- What is being read. -/
  phase : Phase
  /-- Tags that wait for an element. -/
  pending : List Tag
  /-- Free text not yet given to its owner; an empty line stands for a gap. -/
  buffer : List String
  /-- The fence that is open. -/
  fence : Option Fence

namespace Session

/-- Nothing read. -/
def start (path : String) : Session := ⟨Feature.blank path, false, [], none, .idle, [], [], none⟩

/-- The scenario opened last with the table being read. -/
def openScenario? (s : Session) : Option Scenario :=
  s.scenario.map fun sc => { sc with examples := sc.examples ++ s.phase.table?.toList }

/-- The feature read so far. -/
def feature (s : Session) : Feature :=
  { s.head with scenarios := s.closed ++ s.openScenario?.toList }

/-! ## Free text -/

/-- Lines without the empty ones at the end. -/
def dropGaps (ls : List String) : List String := (ls.reverse.dropWhile (· == "")).reverse

/-- A description with a further paragraph. -/
def addParagraph (description paragraph : String) : String :=
  if description = "" then paragraph else description ++ "\n\n" ++ paragraph

/-- Gives the collected free text to its owner. -/
def flush (s : Session) : Session :=
  let text := Text.joinWith "\n" (dropGaps s.buffer)
  let s := { s with buffer := [] }
  if text = "" then s
  else
    match s.phase.owner? with
    | none => s
    | some .feature =>
      { s with head := { s.head with description := addParagraph s.head.description text } }
    | some .scenario =>
      { s with scenario := s.scenario.map fun sc =>
          { sc with description := addParagraph sc.description text } }

/-- Collects a line of free text. -/
def addText (s : Session) (line : String) : Session := { s with buffer := s.buffer ++ [line] }

/-- Collects a gap, unless nothing or a gap was collected last. -/
def addGap (s : Session) : Session :=
  match s.buffer.getLast? with
  | none | some "" => s
  | some _ => { s with buffer := s.buffer ++ [""] }

/-! ## Elements -/

/-- Opens the feature with the waiting tags. -/
def openFeature (s : Session) (name : String) : Session :=
  let s := s.flush
  { s with
    head := { s.head with
      name := if name = "" then s.head.name else name
      tags := s.head.tags ++ s.pending }
    opened := true
    pending := []
    phase := .featureHeader }

/-- Opens a scenario with the waiting tags; a background takes none of them. -/
def openScenario (s : Session) (number : Nat) (kind : ScenarioKind) (name : String) : Session :=
  let s := s.flush
  let tags := if kind = .background then [] else s.pending
  { s with
    closed := s.closed ++ s.scenario.toList
    scenario := some ⟨name, kind, number, "", tags, [], []⟩
    pending := []
    phase := .scenarioBody }

/-- Opens a table of examples. The waiting tags are dropped. -/
def openExamples (s : Session) (name : String) : Session :=
  { s.flush with pending := [], phase := .examplesHeader name }

/-- Ends the table being read. -/
def closeTable (s : Session) : Session :=
  match s.phase.table? with
  | none => s
  | some _ => { s with scenario := s.openScenario?, phase := .scenarioBody, buffer := [] }

/-- Cells padded with empty ones or cut to a width. -/
def fit (width : Nat) (cells : List String) : List String :=
  (cells ++ List.replicate (width - cells.length) "").take width

/-- Takes a table row: the first one names the columns, and empty names are left out. Outside a
table of examples a row has no meaning. -/
def addRow (s : Session) (line : String) : Session :=
  match s.phase with
  | .examplesHeader name =>
    { s with phase := .examplesRows ⟨name, (cells line).filter (· ≠ ""), []⟩ }
  | .examplesRows t =>
    { s with phase := .examplesRows { t with rows := t.rows ++ [fit t.headers.length (cells line)] } }
  | _ => s

/-- Adds a step to the scenario opened last. -/
def addStep (s : Session) (line : String) : Session :=
  let s := s.flush
  { s with scenario := s.scenario.map fun sc => { sc with steps := sc.steps ++ [line] } }

/-! ## Lines -/

/-- Takes a line that is neither empty nor a comment nor a row. -/
def content (s : Session) (number : Nat) (line : String) : Line → Session
  | .fence f => { s.flush with fence := some f }
  | .step => if s.scenario.isSome then s.addStep line else s.addText line
  | .tags names => { s with pending := s.pending ++ names.filterMap Tag.of? }
  | .feature name => if s.opened then s.addText line else s.openFeature name
  | .scenario kind name => s.openScenario number kind name
  | .examples name =>
    if s.scenario.any Scenario.isOutline then s.openExamples name else s.addText line
  | _ => s.addText line

/-- Takes line number `number`. -/
def feed (s : Session) (number : Nat) (raw : String) : Session :=
  let cs := Text.trimChars raw.toList
  match s.fence with
  | some f => if f.opens cs then { s with fence := none } else s
  | none =>
    match Line.classify cs with
    | .blank => s.addGap
    | .comment => s
    | .row => s.addRow (String.ofList cs)
    | line => s.closeTable.content number (String.ofList cs) line

/-- Takes lines, numbered from `number` on. -/
def feedAll : Session → Nat → List String → Session
  | s, _, [] => s
  | s, number, l :: ls => feedAll (s.feed number l) (number + 1) ls

/-- The feature after the last line. -/
def finish (s : Session) : Feature := s.flush.feature

end Session

/-- The feature that numbered lines describe. -/
def readLines (path : String) (ls : List String) : Feature :=
  ((Session.start path).feedAll 1 ls).finish

/-- The feature that a text describes. -/
def read (text path : String) : Feature := readLines path (Text.lines text)

end FeatureAudit.Document
