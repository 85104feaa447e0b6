import FeatureAudit.Proofs.Document.Boundary

/-!
# Comments and layout carry no meaning

A comment that is put between the lines of a document moves the scenarios behind it one line down
and changes nothing else, wherever it stands. White space around lines and the way in which lines
are ended change nothing at all (`read_of_layout`).

* `Session.feed_renumber`: a session counts lines and never looks at the numbers, so that reading
  commutes with every renumbering; `Session.feedAll_renumber` says so of all lines.
* `Session.feed_comment`: a comment leaves a session as it is, also within a fenced block.
* `Session.feed_congr`: of a line, only what is left after trimming is read.
-/

set_option autoImplicit false

namespace FeatureAudit

/-- A scenario with another line number. -/
def Scenario.renumber (f : Int → Int) (sc : Scenario) : Scenario := { sc with line := f sc.line }

namespace Document

namespace Session

/-! ## Renumbered lines -/

/-- A session with other numbers for the lines that it has read. -/
def renumber (f : Int → Int) (s : Session) : Session :=
  { s with
    closed := s.closed.map (Scenario.renumber f)
    scenario := s.scenario.map (Scenario.renumber f) }

variable (f : Int → Int)

theorem flush_renumber (s : Session) : (s.renumber f).flush = s.flush.renumber f := by
  rw [flush_eq, flush_eq]
  simp only [renumber, Option.map_map]
  rfl

theorem openScenario?_renumber (s : Session) :
    (s.renumber f).openScenario? = s.openScenario?.map (Scenario.renumber f) := by
  simp only [openScenario?, renumber, Option.map_map]
  rfl

theorem closeTable_renumber (s : Session) :
    (s.renumber f).closeTable = s.closeTable.renumber f := by
  have hphase : (s.renumber f).phase = s.phase := rfl
  rw [closeTable, closeTable, hphase]
  cases s.phase.table? with
  | none => rfl
  | some t =>
    simp only [openScenario?_renumber]
    rfl

theorem openScenario_renumber (s : Session) {number number' : Nat} (h : f number = number')
    (kind : ScenarioKind) (name : String) :
    (s.renumber f).openScenario number' kind name =
      (s.openScenario number kind name).renumber f := by
  simp only [openScenario, flush_renumber]
  simp [renumber, Scenario.renumber, Option.toList_map, h]

theorem content_renumber (s : Session) {number number' : Nat} (h : f number = number')
    (text : String) (line : Line) :
    (s.renumber f).content number' text line = (s.content number text line).renumber f := by
  have hopen : (s.renumber f).scenario.isSome = s.scenario.isSome := Option.isSome_map
  have houtline : (s.renumber f).scenario.any Scenario.isOutline =
      s.scenario.any Scenario.isOutline := by
    rw [renumber, Option.any_map]
    rfl
  have hopened : (s.renumber f).opened = s.opened := rfl
  cases line with
  | fence g =>
    simp only [content, flush_renumber]
    rfl
  | step =>
    simp only [content, hopen]
    split
    · simp only [addStep, flush_renumber]
      simp only [renumber, Option.map_map]
      rfl
    · rfl
  | feature name =>
    simp only [content, hopened]
    split
    · rfl
    · simp only [openFeature, flush_renumber]
      rfl
  | scenario kind name => exact openScenario_renumber f s h kind name
  | examples name =>
    simp only [content, houtline]
    split
    · simp only [openExamples, flush_renumber]
      rfl
    · rfl
  | _ => rfl

theorem take_renumber (s : Session) {number number' : Nat} (h : f number = number')
    (cs : List Char) : (s.renumber f).take number' cs = (s.take number cs).renumber f := by
  have hcontent := s.closeTable.content_renumber f h (String.ofList cs) (Line.classify cs)
  rw [← closeTable_renumber] at hcontent
  cases hc : Line.classify cs with
  | blank => simp only [take, hc, addGap_eq]; rfl
  | comment => simp only [take, hc]
  | row => simp only [take, hc, addRow_eq]; rfl
  | _ => simpa only [take, hc] using hcontent

/-- Reading a line commutes with renumbering. -/
theorem feed_renumber (s : Session) {number number' : Nat} (h : f number = number')
    (raw : String) : (s.renumber f).feed number' raw = (s.feed number raw).renumber f := by
  have hfence : (s.renumber f).fence = s.fence := rfl
  cases hf : s.fence with
  | some g =>
    rw [feed_of_fence_eq_some hf, feed_of_fence_eq_some (hfence.trans hf)]
    rfl
  | none =>
    rw [feed_of_fence_eq_none hf, feed_of_fence_eq_none (hfence.trans hf), take_renumber f s h]

/-- Reading lines commutes with renumbering. -/
theorem feedAll_renumber (s : Session) {number number' : Nat} {ls : List String}
    (h : ∀ i < ls.length, f (number + i) = number' + i) :
    (s.renumber f).feedAll number' ls = (s.feedAll number ls).renumber f := by
  induction ls generalizing s number number' with
  | nil => rfl
  | cons raw ls ih =>
    have hfirst : f number = number' := by simpa using h 0 (Nat.zero_lt_succ _)
    have hrest : ∀ i < ls.length, f ((number + 1 : Nat) + i) = (number' + 1 : Nat) + i := by
      intro i hi
      have hnumber : ((number + 1 : Nat) : Int) + i = number + (i + 1 : Nat) := by omega
      rw [hnumber, h (i + 1) (Nat.succ_lt_succ hi)]
      omega
    rw [feedAll, feedAll, feed_renumber f s hfirst, ih _ hrest]

theorem finish_renumber (s : Session) :
    (s.renumber f).finish =
      { s.finish with scenarios := s.finish.scenarios.map (Scenario.renumber f) } := by
  rw [finish, flush_renumber, feature, openScenario?_renumber, finish, feature]
  simp [renumber, Option.toList_map]

/-! ## Lines without meaning -/

/-- A comment changes nothing, inside a fenced block as well as outside. -/
theorem feed_comment (s : Session) (number : Nat) {raw : String}
    (h : (Text.trimChars raw.toList).head? = some '#') : s.feed number raw = s := by
  cases hf : s.fence with
  | some g =>
    have hopens : g.opens (Text.trimChars raw.toList) = false := by
      obtain ⟨cs, hcs⟩ := List.head?_eq_some_iff.1 h
      cases g <;> rw [hcs] <;> rfl
    rw [feed_of_fence_eq_some hf, hopens, if_neg Bool.false_ne_true, ← hf]
  | none => rw [feed_of_fence_eq_none hf, take, Line.classify_eq_comment_iff.2 h]

/-- An empty line at the end leaves no trace. -/
theorem finish_feed_empty (s : Session) (number : Nat) : (s.feed number "").finish = s.finish := by
  cases hf : s.fence with
  | some g =>
    have hopens : g.opens (Text.trimChars "".toList) = false := by cases g <;> rfl
    rw [feed_of_fence_eq_some hf, hopens, if_neg Bool.false_ne_true, ← hf]
  | none => rw [feed_emptyLine hf, ← addGap_eq, finish_eq, settle_addGap, ← finish_eq]

/-- Of a line, only what is left after trimming is read. -/
theorem feed_congr (s : Session) (number : Nat) {raw raw' : String}
    (h : Text.trimChars raw.toList = Text.trimChars raw'.toList) :
    s.feed number raw = s.feed number raw' := by
  rw [feed, feed, h]

theorem feedAll_congr (s : Session) (number : Nat) {ls ms : List String}
    (h : List.Forall₂ Text.Repadded ls ms) : s.feedAll number ls = s.feedAll number ms := by
  induction h generalizing s number with
  | nil => rfl
  | cons hraw _ ih =>
    rw [feedAll, feedAll, feed_congr s number (Text.trimChars_eq_of_repadded hraw), ih]

end Session

/-! ## Documents -/

/-- A text is read by its lines. -/
theorem read_of_hasLines {text : String} {ls : List String} (h : Text.HasLines text ls)
    (path : String) : read text path = readLines path ls := by
  rcases h with rfl | rfl
  · rfl
  · rw [read, readLines, readLines, Session.feedAll_append, Session.feedAll, Session.feedAll,
      Session.finish_feed_empty]

/-- The numbers of lines after a line has been put in behind the first `n` of them. -/
def pastLine (n : Nat) (number : Int) : Int := if n < number then number + 1 else number

/-- A comment between lines moves the scenarios behind it. -/
theorem readLines_comment (path : String) (front back : List String) {comment : String}
    (h : (Text.trimChars comment.toList).head? = some '#') :
    readLines path (front ++ comment :: back) =
      { readLines path (front ++ back) with
        scenarios := (readLines path (front ++ back)).scenarios.map
          (Scenario.renumber (pastLine front.length)) } := by
  have hkept : ∀ i < front.length, pastLine front.length ((1 : Nat) + i) = (1 : Nat) + i := by
    intro i hi
    rw [pastLine]
    omega
  -- a session that has read nothing has nothing to renumber
  have hfront : (Session.start path).feedAll 1 front =
      ((Session.start path).feedAll 1 front).renumber (pastLine front.length) :=
    Session.feedAll_renumber (pastLine front.length) (Session.start path) hkept
  have hback : ∀ i < back.length, pastLine front.length ((1 + front.length : Nat) + i) =
      (1 + front.length + 1 : Nat) + i := by
    intro i _
    rw [pastLine]
    omega
  rw [readLines, readLines, Session.feedAll_append, Session.feedAll_append, Session.feedAll,
    Session.feed_comment _ _ h, ← Session.finish_renumber, ← Session.feedAll_renumber _ _ hback,
    ← hfront]

/-- **Comments and layout carry no meaning.** A comment that is put in anywhere raises the line
numbers behind it by one and changes nothing else. Lines that differ in white space at their ends
alone are read alike, and so are the same lines however they are ended. -/
theorem read_of_layout (path : String) :
    (∀ (front back : List String) (comment text text' : String),
        Text.HasLines text (front ++ back) → Text.HasLines text' (front ++ comment :: back) →
        (Text.trimChars comment.toList).head? = some '#' →
        read text' path = { read text path with
          scenarios := (read text path).scenarios.map
            (Scenario.renumber (pastLine front.length)) }) ∧
      (∀ (ls ms : List String) (text text' : String),
        Text.HasLines text ls → Text.HasLines text' ms → List.Forall₂ Text.Repadded ls ms →
        read text' path = read text path) ∧
      ∀ ls : List String, (∀ l ∈ ls, Text.Unbroken l.toList) →
        ∀ e e' : Text.LineEnd, ∀ text ∈ e.texts ls, ∀ text' ∈ e'.texts ls,
          Text.HasLines text ls ∧ read text' path = read text path := by
  refine ⟨?_, ?_, ?_⟩
  · intro front back comment text text' htext htext' hcomment
    rw [read_of_hasLines htext', read_of_hasLines htext, readLines_comment path front back hcomment]
  · intro ls ms text text' htext htext' hrepadded
    rw [read_of_hasLines htext', read_of_hasLines htext, readLines, readLines,
      Session.feedAll_congr _ _ hrepadded]
  · intro ls hls e e' text htext text' htext'
    have hlines := e.hasLines_of_mem_texts hls htext
    rw [read_of_hasLines hlines, read_of_hasLines (e'.hasLines_of_mem_texts hls htext')]
    exact ⟨hlines, rfl⟩

/-- Lines up to the header of a table of examples. -/
def ledgerFront : List String := ["Scenario Outline: pay", "Examples:", "| n |"]

/-- The rest of the table, and a scenario. -/
def ledgerBack : List String := ["| 3 |", "Example: go"]

/-- The same lines with other white space at their ends. -/
def ledgerPadded : List String :=
  ["\tScenario Outline: pay ", "Examples:", "| n |", "  | 3 |", "Example: go\x1f"]

theorem read_of_layout_ledger :
    Text.HasLines (Text.joinWith "\n" (ledgerFront ++ ledgerBack)) (ledgerFront ++ ledgerBack) ∧
      Text.HasLines (Text.joinWith "\n" (ledgerFront ++ " # odd" :: ledgerBack))
        (ledgerFront ++ " # odd" :: ledgerBack) ∧
      (Text.trimChars " # odd".toList).head? = some '#' ∧
      read (Text.joinWith "\n" (ledgerFront ++ " # odd" :: ledgerBack)) "" =
        { read (Text.joinWith "\n" (ledgerFront ++ ledgerBack)) "" with
          scenarios := (read (Text.joinWith "\n" (ledgerFront ++ ledgerBack)) "").scenarios.map
            (Scenario.renumber (pastLine 3)) } ∧
      (read (Text.joinWith "\n" (ledgerFront ++ " # odd" :: ledgerBack)) "").scenarios.map
          (fun sc => (sc.name, sc.line, sc.examples.map Example.rows)) =
        [("pay", 1, [[["3"]]]), ("go", 6, [])] ∧
      Text.HasLines (Text.joinWith "\n" ledgerPadded) ledgerPadded ∧
      List.Forall₂ Text.Repadded (ledgerFront ++ ledgerBack) ledgerPadded ∧
      read (Text.joinWith "\n" ledgerPadded) "" =
        read (Text.joinWith "\n" (ledgerFront ++ ledgerBack)) "" ∧
      read (Text.joinWith "\r" (ledgerFront ++ ledgerBack)) "" =
        read (Text.joinWith "\n" (ledgerFront ++ ledgerBack)) "" := by
  obtain ⟨hcomments, hpadding, hends⟩ := read_of_layout ""
  have hplain : Text.HasLines (Text.joinWith "\n" (ledgerFront ++ ledgerBack))
      (ledgerFront ++ ledgerBack) := by decide +kernel
  have hodd : Text.HasLines (Text.joinWith "\n" (ledgerFront ++ " # odd" :: ledgerBack))
      (ledgerFront ++ " # odd" :: ledgerBack) := by decide +kernel
  have hpadded : Text.HasLines (Text.joinWith "\n" ledgerPadded) ledgerPadded := by
    decide +kernel
  have hrepadded : List.Forall₂ Text.Repadded (ledgerFront ++ ledgerBack) ledgerPadded := by
    have hsame : ∀ l : String, Text.Repadded l l := fun l => ⟨l.toList, [], [], [], [], by simp⟩
    refine .cons ⟨"Scenario Outline: pay".toList, [], [], ['\t'], [' '], by decide, rfl, rfl⟩
      (.cons (hsame _) (.cons (hsame _) (.cons ⟨"| 3 |".toList, [], [], [' ', ' '], [],
        by decide, rfl, rfl⟩ (.cons ⟨"Example: go".toList, [], [], [], ['\x1f'], by decide, rfl,
        rfl⟩ .nil))))
  refine ⟨hplain, hodd, rfl, hcomments _ _ _ _ _ hplain hodd rfl, by decide +kernel, hpadded,
    hrepadded, hpadding _ _ _ _ hplain hpadded hrepadded, ?_⟩
  exact (hends (ledgerFront ++ ledgerBack) (by decide) .lineFeed .carriageReturn _
    (Text.LineEnd.mem_texts_iff _ |>.2 (Or.inr rfl)) _
    (Text.LineEnd.mem_texts_iff _ |>.2 (Or.inr rfl))).2

end Document

end FeatureAudit
