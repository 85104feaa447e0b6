import FeatureAudit.Proofs.Document.Frame
import FeatureAudit.Proofs.Document.Paragraphs

/-!
# The free text of a document

The free text of an element is the lines of its description together with the lines that wait to be
added to it, gaps left out. Giving collected lines to their owner and closing a table leave it as it
is; a line of a document adds itself to it, turns to another element, or does nothing
(`prose_take`). What makes this so is an invariant of all sessions on the way (`Tidy`): nothing is
ever collected while a table is open.
-/

set_option autoImplicit false

namespace FeatureAudit.Document

/-! ## Lines of descriptions -/

/-- The lines of a description that are not empty. -/
def proseLines (d : String) : List String :=
  ((d.toList.splitOn '\n').map String.ofList).filter (· ≠ "")

theorem proseLines_empty : proseLines "" = [] := by decide

theorem proseLines_describe (d p : String) :
    proseLines (Session.describe d p) = proseLines d ++ proseLines p := by
  unfold Session.describe Session.addParagraph
  by_cases hp : p = ""
  · rw [if_pos hp, hp, proseLines_empty, List.append_nil]
  · rw [if_neg hp]
    by_cases hd : d = ""
    · rw [if_pos hd, hd, proseLines_empty, List.nil_append]
    · have htext : (d ++ "\n\n" ++ p).toList = d.toList ++ '\n' :: ([] ++ '\n' :: p.toList) := by
        simp
      rw [if_neg hd, proseLines, htext, List.splitOn_append_cons_self,
        List.splitOn_append_cons_self, List.splitOn_nil]
      simp [proseLines]

theorem proseLines_joinWith {ls : List String} (h : ∀ l ∈ ls, '\n' ∉ l.toList) :
    proseLines (Text.joinWith "\n" ls) = ls.filter (· ≠ "") := by
  cases ls with
  | nil => exact proseLines_empty
  | cons l ls =>
    have hsplit : ((Text.joinWith "\n" (l :: ls)).toList).splitOn '\n' =
        (l :: ls).map String.toList := by
      rw [Text.toList_joinWith, show "\n".toList = ['\n'] from rfl]
      refine List.splitOn_intercalate '\n' ?_ (by simp)
      intro m hm
      obtain ⟨s, hs, rfl⟩ := List.mem_map.1 hm
      exact h s hs
    rw [proseLines, hsplit, List.map_map]
    simp

/-! ## The free text of a session -/

/-- The free text of a document, read up to some line. -/
structure Prose where
  /-- The free text of the feature. -/
  feature : List String
  /-- The free text of the scenarios before the open one. -/
  closed : List (List String)
  /-- The free text of the scenario opened last. -/
  last : Option (List String)
  /-- The element that further free text goes to. -/
  owner : Owner

namespace Prose

/-- The free text of a document of which nothing is read. -/
def start : Prose := ⟨[], [], none, .feature⟩

/-- The free text of the scenarios in order. -/
def scenarios (pr : Prose) : List (List String) := pr.closed ++ pr.last.toList

/-- A further line for the element in hand. -/
def add (pr : Prose) (line : String) : Prose :=
  match pr.owner with
  | .feature => { pr with feature := pr.feature ++ [line] }
  | .scenario => { pr with last := pr.last.map (· ++ [line]) }

/-- What a line outside fenced blocks does to the free text, in a document with a frame. -/
def step (fr : Frame) (pr : Prose) (l : NumberedLine) : Prose :=
  let line := String.ofList l.text
  match Line.classify l.text with
  | .step => if fr.last.isSome then pr else pr.add line
  | .feature _ => if fr.opened then pr.add line else { pr with owner := .feature }
  | .scenario _ _ =>
    { pr with closed := pr.closed ++ pr.last.toList, last := some [], owner := .scenario }
  | .examples _ =>
    if fr.last.any Scenario.isOutline then { pr with owner := .scenario } else pr.add line
  | .text => pr.add line
  | _ => pr

end Prose

namespace Session

/-- The collected lines for an owner, without gaps. -/
def collected (s : Session) (o : Owner) : List String :=
  if s.phase.owner? = some o then s.buffer.filter (· ≠ "") else []

/-- The free text of what has been read. While a table is open, further text goes to its
scenario. -/
def prose (s : Session) : Prose where
  feature := proseLines s.head.description ++ s.collected .feature
  closed := s.closed.map fun sc => proseLines sc.description
  last := s.scenario.map fun sc => proseLines sc.description ++ s.collected .scenario
  owner := s.phase.owner?.getD .scenario

/-! ## The invariant -/

/-- What holds of every session on the way: nothing is collected while a table is open, and all
free text is in good order. -/
structure Tidy (s : Session) : Prop where
  table : s.phase.owner? = none → s.buffer = []
  buffer : Collected s.buffer
  head : IsDescription s.head.description
  closed : ∀ sc ∈ s.closed, IsDescription sc.description
  scenario : ∀ sc ∈ s.scenario, IsDescription sc.description

theorem tidy_start (path : String) : (start path).Tidy :=
  ⟨fun _ => rfl, .nil, Or.inl rfl, by simp [start], by simp [start]⟩

theorem Tidy.flush {s : Session} (h : s.Tidy) : s.flush.Tidy := by
  have hp : IsDescription s.paragraph := h.buffer.isDescription
  rw [flush_eq]
  refine ⟨fun _ => rfl, .nil, ?_, h.closed, ?_⟩
  · dsimp only
    split
    · exact h.head.describe hp
    · exact h.head
  · intro sc hsc
    obtain ⟨sc', hsc', rfl⟩ := Option.map_eq_some_iff.1 hsc
    dsimp only
    split
    · exact (h.scenario sc' hsc').describe hp
    · exact h.scenario sc' hsc'

theorem Tidy.closeTable {s : Session} (h : s.Tidy) : s.closeTable.Tidy := by
  cases ht : s.phase.table? with
  | none => rwa [closeTable_of_table?_eq_none ht]
  | some t =>
    rw [closeTable_of_table?_eq_some ht]
    refine ⟨fun _ => rfl, .nil, h.head, h.closed, ?_⟩
    intro sc hsc
    obtain ⟨sc', hsc', rfl⟩ := Option.map_eq_some_iff.1 hsc
    exact h.scenario sc' hsc'

theorem owner?_ne_none {s : Session} (h : s.phase.table? = none) : s.phase.owner? ≠ none := by
  cases hp : s.phase <;> simp_all [Phase.table?, Phase.owner?]

theorem Tidy.addText {s : Session} (h : s.Tidy) (ht : s.phase.table? = none) {line : String}
    (hline : IsProseLine line.toList) : (s.addText line).Tidy :=
  ⟨fun hnone => absurd hnone (owner?_ne_none ht), h.buffer.line hline, h.head, h.closed,
    h.scenario⟩

/-- What a line that is neither empty nor a comment nor a row keeps. -/
theorem Tidy.content {s : Session} (h : s.Tidy) (ht : s.phase.table? = none) (number : Nat)
    {text : String} (htext : IsProseLine text.toList) (line : Line) :
    (s.content number text line).Tidy := by
  have hflush := h.flush
  have hadd := h.addText ht htext
  cases line with
  | step =>
    rw [Session.content]
    split
    · refine ⟨hflush.table, hflush.buffer, hflush.head, hflush.closed, ?_⟩
      intro sc hsc
      obtain ⟨sc', hsc', rfl⟩ := Option.map_eq_some_iff.1 hsc
      exact hflush.scenario sc' hsc'
    · exact hadd
  | tags names => exact ⟨h.table, h.buffer, h.head, h.closed, h.scenario⟩
  | feature name =>
    rw [Session.content]
    split
    · exact hadd
    · exact ⟨fun _ => s.flush_buffer, hflush.buffer, hflush.head, hflush.closed, hflush.scenario⟩
  | scenario kind name =>
    refine ⟨fun _ => s.flush_buffer, hflush.buffer, hflush.head, ?_, ?_⟩
    · intro sc hsc
      rcases List.mem_append.1 hsc with hsc | hsc
      · exact hflush.closed sc hsc
      · exact hflush.scenario sc (Option.mem_toList.1 hsc)
    · intro sc hsc
      rw [← Option.some.inj hsc]
      exact Or.inl rfl
  | examples name =>
    rw [Session.content]
    split
    · exact ⟨fun _ => s.flush_buffer, hflush.buffer, hflush.head, hflush.closed, hflush.scenario⟩
    · exact hadd
  | fence f =>
    exact ⟨hflush.table, hflush.buffer, hflush.head, hflush.closed, hflush.scenario⟩
  | blank | comment | row | text => exact hadd

/-- What every line keeps. -/
theorem Tidy.take {s : Session} (h : s.Tidy) (number : Nat) {cs : List Char}
    (hcs : Text.Unbroken cs) : (s.take number cs).Tidy := by
  have hcontent : cs ≠ [] → ∀ line,
      (s.closeTable.content number (String.ofList cs) line).Tidy := by
    intro hne line
    refine h.closeTable.content s.closeTable_phase_table? number ⟨?_, ?_⟩ line
    · simpa using hne
    · simpa using hcs.lineFeed_notMem
  have hne : Line.classify cs ≠ .blank → cs ≠ [] := fun hc hnil =>
    hc (Line.classify_eq_blank_iff.2 hnil)
  cases hc : Line.classify cs with
  | blank =>
    simp only [Session.take, hc, addGap_eq]
    refine ⟨?_, h.buffer.gap, h.head, h.closed, h.scenario⟩
    intro hnone
    simp [withGap, h.table hnone]
  | comment => simpa only [Session.take, hc] using h
  | row =>
    simp only [Session.take, hc, addRow_eq]
    refine ⟨?_, h.buffer, h.head, h.closed, h.scenario⟩
    intro hnone
    refine h.table ?_
    cases hp : s.phase <;> simp_all [rowPhase, Phase.owner?]
  | _ =>
    simp only [Session.take, hc]
    exact hcontent (hne (by simp [hc])) _

/-! ## What leaves the free text as it is -/

theorem proseLines_paragraph {s : Session} (h : s.Tidy) :
    proseLines s.paragraph = s.buffer.filter (· ≠ "") := by
  have hno : ∀ l ∈ dropGaps s.buffer, '\n' ∉ l.toList := by
    intro l hl
    refine h.buffer.lineFeed_notMem l ?_
    rcases h.buffer.eq_dropGaps with heq | heq
    · rwa [heq]
    · rw [heq]
      exact List.mem_append_left _ hl
  rw [paragraph, proseLines_joinWith hno, filter_dropGaps]

/-- An owner's description after `flush` holds what it held and what was collected for it. -/
theorem proseLines_flushed {s : Session} (h : s.Tidy) (o : Owner) (d : String) :
    proseLines (if s.phase.owner? = some o then describe d s.paragraph else d) =
      proseLines d ++ s.collected o := by
  unfold collected
  split
  · rw [proseLines_describe, proseLines_paragraph h]
  · rw [List.append_nil]

theorem collected_of_buffer_eq_nil {s : Session} (h : s.buffer = []) (o : Owner) :
    s.collected o = [] := by
  simp [collected, h]

theorem prose_flush {s : Session} (h : s.Tidy) : s.flush.prose = s.prose := by
  have hnil := collected_of_buffer_eq_nil s.flush_buffer
  unfold prose
  rw [hnil, hnil, flush_eq]
  simp only [proseLines_flushed h, List.append_nil, Option.map_map, Function.comp_def]

theorem prose_closeTable {s : Session} (h : s.Tidy) : s.closeTable.prose = s.prose := by
  cases ht : s.phase.table? with
  | none => rw [closeTable_of_table?_eq_none ht]
  | some t =>
    have hnone : s.phase.owner? = none := by
      cases hp : s.phase <;> simp_all [Phase.table?, Phase.owner?]
    have hprose : s.prose = ⟨proseLines s.head.description,
        s.closed.map fun sc => proseLines sc.description,
        s.scenario.map fun sc => proseLines sc.description, .scenario⟩ := by
      simp [prose, collected_of_buffer_eq_nil (h.table hnone), hnone]
    rw [hprose, closeTable_of_table?_eq_some ht]
    simp [prose, collected, Phase.owner?, Function.comp_def]

/-! ## What each operation does to the free text -/

theorem prose_addText {s : Session} (ht : s.phase.table? = none) {line : String}
    (hline : line ≠ "") : (s.addText line).prose = s.prose.add line := by
  unfold prose Prose.add addText collected
  cases howner : s.phase.owner? with
  | none => exact absurd howner (owner?_ne_none ht)
  | some o => cases o <;> simp [hline, Function.comp_def]

theorem prose_addStep {s : Session} (h : s.Tidy) (line : String) :
    (s.addStep line).prose = s.prose := by
  rw [← prose_flush h]
  simp only [addStep, prose, Option.map_map]
  rfl

theorem prose_openFeature {s : Session} (h : s.Tidy) (name : String) :
    (s.openFeature name).prose = { s.prose with owner := .feature } := by
  have hnil := collected_of_buffer_eq_nil s.flush_buffer
  rw [← prose_flush h]
  simp only [openFeature, prose, hnil]
  simp [collected, Phase.owner?]

theorem prose_openScenario {s : Session} (h : s.Tidy) (number : Nat) (kind : ScenarioKind)
    (name : String) : (s.openScenario number kind name).prose =
      { s.prose with
        closed := s.prose.closed ++ s.prose.last.toList
        last := some []
        owner := .scenario } := by
  have hnil := collected_of_buffer_eq_nil s.flush_buffer
  rw [← prose_flush h]
  simp only [openScenario, prose, hnil]
  simp [collected, Phase.owner?, proseLines_empty, Option.toList_map]

theorem prose_openExamples {s : Session} (h : s.Tidy) (name : String) :
    (s.openExamples name).prose = { s.prose with owner := .scenario } := by
  have hnil := collected_of_buffer_eq_nil s.flush_buffer
  rw [← prose_flush h]
  simp only [openExamples, prose, hnil]
  simp [collected, Phase.owner?]

theorem prose_addGap (s : Session) : s.addGap.prose = s.prose := by
  have hfilter : (withGap s.buffer).filter (· ≠ "") = s.buffer.filter (· ≠ "") := by
    unfold withGap
    split <;> simp
  rw [addGap_eq]
  simp only [prose, collected, hfilter]

theorem prose_addRow (s : Session) (line : String) : (s.addRow line).prose = s.prose := by
  have howner : (rowPhase line s.phase).owner? = s.phase.owner? := by
    cases s.phase <;> rfl
  rw [addRow_eq]
  simp only [prose, collected, howner]

/-- What a line that is neither empty nor a comment nor a row does to the free text. -/
theorem prose_content {s : Session} (h : s.Tidy) (ht : s.phase.table? = none) (number : Nat)
    (cs : List Char) (hblank : Line.classify cs ≠ .blank) (hcomment : Line.classify cs ≠ .comment)
    (hrow : Line.classify cs ≠ .row) :
    (s.content number (String.ofList cs) (Line.classify cs)).prose =
      s.prose.step s.frame ⟨number, cs⟩ := by
  have hne : String.ofList cs ≠ "" := by
    simpa using fun hnil => hblank (Line.classify_eq_blank_iff.2 hnil)
  have hadd := prose_addText ht hne
  cases hc : Line.classify cs with
  | step =>
    simp only [content, Prose.step, hc, frame, Option.isSome_map]
    split
    · exact prose_addStep h _
    · exact hadd
  | tags names =>
    simp only [content, Prose.step, hc]
    rfl
  | feature name =>
    simp only [content, Prose.step, hc, show s.frame.opened = s.opened from rfl]
    split
    · exact hadd
    · exact prose_openFeature h name
  | scenario kind name =>
    simp only [content, Prose.step, hc]
    exact prose_openScenario h number kind name
  | examples name =>
    simp only [content, Prose.step, hc, any_isOutline_frame]
    split
    · exact prose_openExamples h name
    · exact hadd
  | fence f =>
    simp only [content, Prose.step, hc]
    exact prose_flush h
  | text =>
    simp only [content, Prose.step, hc]
    exact hadd
  | blank => exact absurd hc hblank
  | comment => exact absurd hc hcomment
  | row => exact absurd hc hrow

/-- What a line outside fenced blocks does to the free text. -/
theorem prose_take {s : Session} (h : s.Tidy) (number : Nat) (cs : List Char) :
    (s.take number cs).prose = s.prose.step s.frame ⟨number, cs⟩ := by
  have hcontent := prose_content h.closeTable s.closeTable_phase_table? number cs
  rw [frame_closeTable, prose_closeTable h] at hcontent
  cases hc : Line.classify cs with
  | blank => simp only [take, hc, Prose.step, prose_addGap]
  | comment => simp only [take, hc, Prose.step]
  | row => simp only [take, hc, Prose.step, prose_addRow]
  | _ => simpa only [take, hc] using hcontent (by simp [hc]) (by simp [hc]) (by simp [hc])

end Session

/-- The frame and the free text as a view of sessions. -/
def proseProjection : Projection (Frame × Prose) where
  view s := (s.frame, s.prose)
  step st l := (st.1.step l, st.2.step st.1 l)
  Inv := Session.Tidy
  inv_fence _ h := ⟨h.table, h.buffer, h.head, h.closed, h.scenario⟩
  inv_take number _ h hcs := h.take number hcs
  view_fence _ _ := rfl
  view_block {s} number {cs f} h hf := by
    have hc : Line.classify cs = .fence f := Line.classify_eq_fence_iff.2 hf
    rw [s.frame_take, Session.prose_take h, Frame.step, Prose.step, hc]
  view_take {s} number {cs} h _ _ := by rw [s.frame_take, Session.prose_take h]

/-! ## The free text of a document -/

/-- The free text of the lines of a document. -/
def proseOf (ls : List NumberedLine) : Prose :=
  (ls.foldl (fun st l => (st.1.step l, st.2.step st.1 l)) (Frame.start, Prose.start)).2

theorem prose_start (path : String) : (Session.start path).prose = Prose.start := by
  simp [Session.prose, Session.start, Session.collected, Feature.blank, Prose.start,
    Phase.owner?, proseLines_empty]

theorem prose_read (text path : String) :
    ((Session.start path).feedAll 1 (Text.lines text)).prose = proseOf (outsideLines text) := by
  have h := congrArg Prod.snd (proseProjection.view_read path (Session.tidy_start path) text).1
  simp only [proseProjection, prose_start] at h
  exact h

theorem tidy_read (text path : String) :
    ((Session.start path).feedAll 1 (Text.lines text)).Tidy :=
  (proseProjection.view_read path (Session.tidy_start path) text).2

/-- The descriptions that are read hold exactly the free text of the document. -/
theorem read_prose (text path : String) :
    proseLines (read text path).description = (proseOf (outsideLines text)).feature ∧
      (read text path).scenarios.map (fun sc => proseLines sc.description) =
        (proseOf (outsideLines text)).scenarios := by
  have htidy := tidy_read text path
  rw [← prose_read text path, ← Session.prose_flush htidy, read, readLines, Session.finish]
  generalize hs : (Session.start path).feedAll 1 (Text.lines text) = s
  have hnil := Session.collected_of_buffer_eq_nil s.flush_buffer
  simp only [Session.feature, Session.prose, Prose.scenarios, hnil, List.append_nil,
    List.map_append, Session.openScenario?, Option.toList_map, List.map_map, Function.comp_def,
    and_self]

/-- Every description that is read is in good order. -/
theorem isDescription_read (text path : String) :
    IsDescription (read text path).description ∧
      ∀ sc ∈ (read text path).scenarios, IsDescription sc.description := by
  have htidy := (tidy_read text path).flush
  rw [read, readLines, Session.finish]
  generalize ((Session.start path).feedAll 1 (Text.lines text)).flush = s at htidy
  refine ⟨htidy.head, ?_⟩
  intro sc hsc
  rcases List.mem_append.1 hsc with hsc | hsc
  · exact htidy.closed sc hsc
  · obtain ⟨sc', hsc', rfl⟩ := Option.map_eq_some_iff.1 (Option.mem_toList.1 hsc)
    exact htidy.scenario sc' hsc'

end FeatureAudit.Document
