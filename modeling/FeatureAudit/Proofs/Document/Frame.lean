import FeatureAudit.Proofs.Document.Outside

/-!
# The frame of a document

The frame is what remains of a document when descriptions and tables are left out: the feature's
name and tags, the scenarios with their tags and steps, and the tags that wait for an element. It
follows the lines of the document without regard to free text and tables (`frame_take`), so nothing
that these do to a session can touch a keyword, a step or a tag.
-/

set_option autoImplicit false

namespace FeatureAudit

/-- A scenario without its description and tables. -/
def Scenario.bare (sc : Scenario) : Scenario := { sc with description := "", examples := [] }

namespace Document

/-- A document without its descriptions and tables, read up to some line. -/
structure Frame where
  /-- Whether the feature's keyword line has been read. -/
  opened : Bool
  /-- The name of the feature. -/
  name : String
  /-- The tags of the feature. -/
  tags : List Tag
  /-- Tags that wait for an element. -/
  pending : List Tag
  /-- The scenarios before the open one. -/
  closed : List Scenario
  /-- The scenario opened last. -/
  last : Option Scenario

namespace Frame

/-- The frame of a document of which nothing is read. -/
def start : Frame := ⟨false, Feature.defaultName, [], [], [], none⟩

/-- The scenarios in order. -/
def scenarios (fr : Frame) : List Scenario := fr.closed ++ fr.last.toList

/-- What a line outside fenced blocks does to the frame. -/
def step (fr : Frame) (l : NumberedLine) : Frame :=
  match Line.classify l.text with
  | .step =>
    { fr with last := fr.last.map fun sc =>
        { sc with steps := sc.steps ++ [String.ofList l.text] } }
  | .tags names => { fr with pending := fr.pending ++ names.filterMap Tag.of? }
  | .feature name =>
    if fr.opened then fr
    else
      { fr with
        opened := true
        name := if name = "" then fr.name else name
        tags := fr.tags ++ fr.pending
        pending := [] }
  | .scenario kind name =>
    { fr with
      closed := fr.closed ++ fr.last.toList
      last := some ⟨name, kind, l.number, "",
        if kind = .background then [] else fr.pending, [], []⟩
      pending := [] }
  | .examples _ => if fr.last.any Scenario.isOutline then { fr with pending := [] } else fr
  | _ => fr

end Frame

/-! ## Sessions keep their frame -/

namespace Session

/-- The frame of what has been read. -/
def frame (s : Session) : Frame :=
  ⟨s.opened, s.head.name, s.head.tags, s.pending, s.closed.map Scenario.bare,
    s.scenario.map Scenario.bare⟩

theorem frame_flush (s : Session) : s.flush.frame = s.frame := by
  simp [frame, map_scenario_flush Scenario.bare (fun _ _ => rfl)]

theorem frame_closeTable (s : Session) : s.closeTable.frame = s.frame := by
  simp [frame, map_scenario_closeTable Scenario.bare (fun _ _ => rfl)]

theorem any_isOutline_frame (s : Session) :
    s.frame.last.any Scenario.isOutline = s.scenario.any Scenario.isOutline := by
  cases h : s.scenario with
  | none => simp [frame, h]
  | some sc => simp [frame, h, Scenario.bare, Scenario.isOutline]

theorem frame_addText (s : Session) (text : String) : (s.addText text).frame = s.frame := rfl

theorem frame_addStep (s : Session) (text : String) :
    (s.addStep text).frame = { s.frame with
      last := s.frame.last.map fun sc => { sc with steps := sc.steps ++ [text] } } := by
  rw [← s.frame_flush]
  simp only [addStep, frame, Option.map_map]
  rfl

theorem frame_openFeature (s : Session) (name : String) : (s.openFeature name).frame =
    { s.frame with
      opened := true
      name := if name = "" then s.frame.name else name
      tags := s.frame.tags ++ s.frame.pending
      pending := [] } := by
  rw [← s.frame_flush]
  rfl

theorem frame_openScenario (s : Session) (number : Nat) (kind : ScenarioKind) (name : String) :
    (s.openScenario number kind name).frame =
      { s.frame with
        closed := s.frame.closed ++ s.frame.last.toList
        last := some ⟨name, kind, number, "",
          if kind = .background then [] else s.frame.pending, [], []⟩
        pending := [] } := by
  rw [← s.frame_flush]
  simp only [openScenario, frame, List.map_append, Option.toList_map, Option.map_some]
  rfl

theorem frame_openExamples (s : Session) (name : String) :
    (s.openExamples name).frame = { s.frame with pending := [] } := by
  rw [← s.frame_flush]
  rfl

/-- What a line that is neither empty nor a comment nor a row does to the frame. -/
theorem frame_content (s : Session) (number : Nat) (cs : List Char) :
    (s.content number (String.ofList cs) (Line.classify cs)).frame =
      s.frame.step ⟨number, cs⟩ := by
  cases h : Line.classify cs with
  | step =>
    simp only [content, Frame.step, h]
    cases hs : s.scenario with
    | none => simp [frame, addText, hs]
    | some sc => simp [frame_addStep]
  | tags names => simp [content, Frame.step, h, frame]
  | feature name =>
    simp only [content, Frame.step, h, show s.frame.opened = s.opened from rfl]
    split
    · exact s.frame_addText _
    · exact s.frame_openFeature name
  | scenario kind name =>
    simp only [content, Frame.step, h]
    exact s.frame_openScenario number kind name
  | examples name =>
    simp only [content, Frame.step, h, any_isOutline_frame]
    split
    · exact s.frame_openExamples name
    · exact s.frame_addText _
  | fence f =>
    simp only [content, Frame.step, h]
    exact s.frame_flush
  | blank | comment | row | text =>
    simp only [content, Frame.step, h]
    exact s.frame_addText _

/-- What a line outside fenced blocks does to the frame. -/
theorem frame_take (s : Session) (number : Nat) (cs : List Char) :
    (s.take number cs).frame = s.frame.step ⟨number, cs⟩ := by
  have hcontent := s.closeTable.frame_content number cs
  rw [frame_closeTable] at hcontent
  cases h : Line.classify cs with
  | blank => simp [take, Frame.step, h, addGap_eq, frame]
  | comment => simp [take, Frame.step, h]
  | row => simp [take, Frame.step, h, addRow_eq, frame]
  | _ => simpa only [take, h] using hcontent

end Session

/-- The frame as a view of sessions. -/
def frameProjection : Projection Frame where
  view := Session.frame
  step := Frame.step
  Inv _ := True
  inv_fence _ _ := trivial
  inv_take _ _ _ _ := trivial
  view_fence _ _ := rfl
  view_block {s} number {cs f} _ hf := by
    have hc : Line.classify cs = .fence f := Line.classify_eq_fence_iff.2 hf
    rw [s.frame_take, Frame.step, hc]
  view_take {s} number {cs} _ _ _ := s.frame_take number cs

/-! ## The frame of a document -/

/-- The frame of the lines of a document. -/
def frameOf (ls : List NumberedLine) : Frame := ls.foldl Frame.step Frame.start

theorem frame_read (text path : String) :
    ((Session.start path).feedAll 1 (Text.lines text)).frame = frameOf (outsideLines text) :=
  (frameProjection.view_read path trivial text).1

/-- The feature that is read has the name, the tags and the scenarios of the frame. -/
theorem read_frame (text path : String) :
    (read text path).name = (frameOf (outsideLines text)).name ∧
      (read text path).tags = (frameOf (outsideLines text)).tags ∧
      (read text path).scenarios.map Scenario.bare =
        (frameOf (outsideLines text)).scenarios := by
  rw [← frame_read text path, ← Session.frame_flush, read, readLines, Session.finish]
  generalize ((Session.start path).feedAll 1 (Text.lines text)).flush = s
  have hopen : s.openScenario?.map Scenario.bare = s.scenario.map Scenario.bare := by
    rw [Session.openScenario?, Option.map_map]
    rfl
  refine ⟨rfl, rfl, ?_⟩
  rw [Session.feature, Frame.scenarios, List.map_append, ← Option.toList_map, hopen]
  rfl

/-! ## The origin of a document -/

namespace Session

/-- What is known of the document besides its text. -/
def origin (s : Session) : String × Entries := (s.head.path, s.head.metadata)

/-- No line changes the origin. -/
theorem origin_take (s : Session) (number : Nat) (cs : List Char) :
    (s.take number cs).origin = s.origin := by
  cases h : Line.classify cs with
  | blank => simp [take, h, addGap_eq, origin]
  | comment => simp [take, h]
  | row => simp [take, h, addRow_eq, origin]
  | step =>
    simp only [take, h, content]
    split <;> simp [addStep, addText, origin]
  | feature name =>
    simp only [take, h, content]
    split <;> simp [openFeature, addText, origin]
  | examples name =>
    simp only [take, h, content]
    split <;> simp [openExamples, addText, origin]
  | _ => simp [take, h, content, openScenario, addText, origin]

theorem finish_origin (s : Session) : (s.finish.path, s.finish.metadata) = s.origin := by
  rw [origin, ← s.flush_head_path, ← s.flush_head_metadata]
  rfl

end Session

/-- The origin as a view of sessions. -/
def originProjection : Projection (String × Entries) where
  view := Session.origin
  step origin _ := origin
  Inv _ := True
  inv_fence _ _ := trivial
  inv_take _ _ _ _ := trivial
  view_fence _ _ := rfl
  view_block {s} number {cs _} _ _ := s.origin_take number cs
  view_take {s} number {cs} _ _ _ := s.origin_take number cs

/-- The feature that is read has the path of its document, and no metadata. -/
theorem read_origin (text path : String) :
    (read text path).path = path ∧ (read text path).metadata = [] := by
  have hkeep : ∀ (o : String × Entries) (ls : List NumberedLine),
      ls.foldl (fun o _ => o) o = o := by simp
  rw [← Prod.mk.injEq, read, readLines, Session.finish_origin]
  exact (originProjection.view_read path trivial text).1.trans (hkeep _ _)

theorem read_path (text path : String) : (read text path).path = path := (read_origin text path).1

theorem read_metadata (text path : String) : (read text path).metadata = [] :=
  (read_origin text path).2

end Document

end FeatureAudit
