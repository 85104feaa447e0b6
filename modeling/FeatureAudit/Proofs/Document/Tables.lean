import FeatureAudit.Proofs.Document.Outside

/-!
# Tables of examples are the rows under their keyword lines

The tables of a document are read off its lines without any state: a table belongs to every keyword
line of examples under an outline, and its rows are those that follow the keyword line with nothing
but empty lines and comments between them. Reading a document gives these tables and no others
(`tables_read`). The beginning of a fenced block ends a table as every other line does, so the first
lines of blocks count here (`visible`).

* `Session.unfenced_feedAll`: a session follows the visible lines, one after the other.
* `Session.tables_take`: what a line does to the tables of a session, where the rows and tables that
  are still to come are given. `Session.tables_foldl` says it of all lines.
-/

set_option autoImplicit false

namespace FeatureAudit

/-- The kind of a scenario and its tables. -/
def Scenario.tabled (sc : Scenario) : ScenarioKind × List Example := (sc.kind, sc.examples)

/-- A table whose columns are named and whose rows are as wide as it is. -/
structure Example.Rectangular (e : Example) : Prop where
  named : ∀ header ∈ e.headers, header ≠ ""
  width : ∀ row ∈ e.rows, row.length = e.headers.length

namespace Document

/-! ## Visible lines -/

/-- The lines outside fenced blocks, together with the first line of every block. -/
def visible : Option Fence → Nat → List String → List NumberedLine
  | _, _, [] => []
  | none, number, raw :: ls =>
    let cs := Text.trimChars raw.toList
    ⟨number, cs⟩ :: visible (fence? cs) (number + 1) ls
  | some f, number, raw :: ls =>
    visible (if f.opens (Text.trimChars raw.toList) then none else some f) (number + 1) ls

/-- The visible lines of a text. -/
def visibleLines (text : String) : List NumberedLine := visible none 1 (Text.lines text)

/-- The lines outside fenced blocks are the visible lines that open no block. -/
theorem outside_eq_filter (fence : Option Fence) (number : Nat) (ls : List String) :
    outside fence number ls =
      (visible fence number ls).filter fun l => (fence? l.text).isNone := by
  fun_induction outside fence number ls with
  | case1 => simp [visible]
  | case2 number raw ls cs f hopen ih =>
    rw [visible, hopen, ih, List.filter_cons_of_neg]
    simp [hopen, cs]
  | case3 number raw ls cs hopen ih =>
    rw [visible, hopen, ih, List.filter_cons_of_pos]
    simp [hopen, cs]
  | case4 number raw ls f hend ih => rw [visible, if_pos hend, ih]
  | case5 number raw ls f hend ih => rw [visible, if_neg hend, ih]

/-! ## Tables in a document -/

/-- A line that a table does not see: an empty one or a comment. -/
def NumberedLine.isPassedOver (l : NumberedLine) : Bool :=
  l.text.isEmpty || l.text.head? == some '#'

/-- The rows at the beginning of some lines, apart from lines that are passed over. -/
def leadingRows (ls : List NumberedLine) : List String :=
  ((ls.takeWhile fun l => l.isPassedOver || isRow l.text).filter fun l => isRow l.text).map
    fun l => String.ofList l.text

/-- A table of examples as it stands in a document. -/
structure TableText where
  /-- The name on the keyword line, possibly empty. -/
  name : String
  /-- The rows as they are written. -/
  rows : List String
  deriving DecidableEq, Repr

/-- The table that is read: the first row names the columns, where empty names are left out, and the
others are padded with empty cells or cut to the number of columns. -/
def TableText.read (t : TableText) : Example :=
  match t.rows with
  | [] => ⟨t.name, [], []⟩
  | header :: rows =>
    let headers := (cells header).filter (· ≠ "")
    ⟨t.name, headers, rows.map fun row => Session.fit headers.length (cells row)⟩

/-- The tables in front of the next keyword line of a scenario: one for each keyword line of
examples, with the rows that follow it. -/
def leadingTables : List NumberedLine → List TableText
  | [] => []
  | l :: ls =>
    if (scenarioHeadline? l.text).isSome then []
    else
      match examplesHeadline? l.text with
      | some name => ⟨name, leadingRows ls⟩ :: leadingTables ls
      | none => leadingTables ls

/-- The tables of the scenarios of some lines: an outline has those up to the next keyword line of a
scenario, and no other scenario has any. -/
def scenarioTables : List NumberedLine → List (ScenarioKind × List TableText)
  | [] => []
  | l :: ls =>
    match scenarioHeadline? l.text with
    | some (kind, _) =>
      (kind, if kind = .outline then leadingTables ls else []) :: scenarioTables ls
    | none => scenarioTables ls

theorem isPassedOver_eq_classify (l : NumberedLine) : l.isPassedOver =
    match Line.classify l.text with
    | .blank | .comment => true
    | _ => false := by
  have hblank : l.text.isEmpty = decide (Line.classify l.text = .blank) := by
    rw [Bool.eq_iff_iff, decide_eq_true_iff, Line.classify_eq_blank_iff, List.isEmpty_iff]
  have hcomment : (l.text.head? == some '#') = decide (Line.classify l.text = .comment) := by
    rw [beq_eq_decide, decide_eq_decide.2 Line.classify_eq_comment_iff.symm]
  rw [NumberedLine.isPassedOver, hblank, hcomment]
  cases Line.classify l.text <;> simp

theorem leadingRows_cons (l : NumberedLine) (ls : List NumberedLine) : leadingRows (l :: ls) =
    match Line.classify l.text with
    | .blank | .comment => leadingRows ls
    | .row => String.ofList l.text :: leadingRows ls
    | _ => [] := by
  have hpassed := isPassedOver_eq_classify l
  have hrow := isRow_eq_classify l.text
  rw [leadingRows, List.takeWhile_cons]
  cases hc : Line.classify l.text <;> simp [hpassed, hrow, hc, leadingRows]

theorem leadingTables_cons (l : NumberedLine) (ls : List NumberedLine) : leadingTables (l :: ls) =
    match Line.classify l.text with
    | .scenario _ _ => []
    | .examples name => ⟨name, leadingRows ls⟩ :: leadingTables ls
    | _ => leadingTables ls := by
  rw [leadingTables, scenarioHeadline?_eq_classify, examplesHeadline?_eq_classify]
  cases Line.classify l.text <;> simp [Line.scenario?, Line.examples?]

theorem scenarioTables_cons (l : NumberedLine) (ls : List NumberedLine) :
    scenarioTables (l :: ls) =
      match Line.classify l.text with
      | .scenario kind _ =>
        (kind, if kind = .outline then leadingTables ls else []) :: scenarioTables ls
      | _ => scenarioTables ls := by
  rw [scenarioTables, scenarioHeadline?_eq_classify]
  cases Line.classify l.text <;> simp [Line.scenario?]

/-- The table of a phase with further rows. -/
def Phase.withRows (rows : List String) : Phase → Option Example
  | .examplesHeader name => some (TableText.read ⟨name, rows⟩)
  | .examplesRows t =>
    some { t with rows := t.rows ++ rows.map fun row => Session.fit t.headers.length (cells row) }
  | _ => none

theorem Phase.withRows_nil (phase : Phase) : phase.withRows [] = phase.table? := by
  cases phase <;> simp [withRows, table?, TableText.read]

theorem Phase.withRows_of_table?_eq_none {phase : Phase} (h : phase.table? = none)
    (rows : List String) : phase.withRows rows = none := by
  cases phase <;> simp_all [withRows, table?]

namespace Session

theorem withRows_rowPhase (phase : Phase) (row : String) (rows : List String) :
    (rowPhase row phase).withRows rows = phase.withRows (row :: rows) := by
  cases phase <;> simp [rowPhase, Phase.withRows, TableText.read]

/-! ## Sessions follow the visible lines -/

/-- A session that is in no fenced block. -/
def unfenced (s : Session) : Session := { s with fence := none }

/-- What a visible line does to a session. -/
def view (s : Session) (l : NumberedLine) : Session := (s.take l.number l.text).unfenced

theorem unfenced_of_fence_eq_none {s : Session} (h : s.fence = none) : s.unfenced = s := by
  rw [unfenced, ← h]

/-- Reading lines comes to the same as reading the visible ones. -/
theorem unfenced_feedAll (s : Session) (number : Nat) (ls : List String) :
    (s.feedAll number ls).unfenced = (visible s.fence number ls).foldl view s.unfenced := by
  induction ls generalizing s number with
  | nil => simp [feedAll, visible]
  | cons raw ls ih =>
    rw [feedAll, ih]
    cases h : s.fence with
    | some f =>
      rw [feed_of_fence_eq_some h, visible]
      rfl
    | none =>
      rw [feed_of_fence_eq_none h, take_fence h, visible, List.foldl_cons,
        unfenced_of_fence_eq_none h]
      rfl

/-! ## Tables of a session -/

/-- The kinds and tables of the scenarios, where `rows` are still to come to the table being read
and `more` are the tables that follow it. -/
def tables (s : Session) (rows : List String) (more : List TableText) :
    List (ScenarioKind × List Example) :=
  s.closed.map Scenario.tabled ++
    ((s.scenario.map Scenario.tabled).map fun p =>
      (p.1, p.2 ++ (s.phase.withRows rows).toList ++
        if p.1 = .outline then more.map TableText.read else [])).toList

theorem tables_nil (s : Session) : s.tables [] [] = s.feature.scenarios.map Scenario.tabled := by
  rw [tables, feature, List.map_append, openScenario?, Phase.withRows_nil, Option.map_map]
  cases s.scenario <;> simp [Scenario.tabled]

variable (rows : List String) (more : List TableText)

/-- Only scenarios and the table being read have an effect on the tables. -/
theorem tables_congr {s t : Session} (hclosed : t.closed = s.closed)
    (hscenario : t.scenario.map Scenario.tabled = s.scenario.map Scenario.tabled)
    (hphase : t.phase.withRows rows = s.phase.withRows rows) :
    t.tables rows more = s.tables rows more := by
  rw [tables, hclosed, hscenario, hphase, tables]

/-- A table that is closed takes no further rows. -/
theorem tables_closeTable (s : Session) : s.closeTable.tables rows more = s.tables [] more := by
  cases h : s.phase.table? with
  | none =>
    rw [closeTable_of_table?_eq_none h, tables, tables, Phase.withRows_nil, h,
      Phase.withRows_of_table?_eq_none h]
  | some t =>
    rw [closeTable_of_table?_eq_some h, tables, tables, Phase.withRows_nil, h]
    cases s.scenario <;> simp [Phase.withRows, Scenario.tabled]

theorem tabled_flush (s : Session) :
    s.flush.scenario.map Scenario.tabled = s.scenario.map Scenario.tabled :=
  map_scenario_flush Scenario.tabled (fun _ _ => rfl) s

/-- The keyword line of a scenario ends the tables before it. -/
theorem tables_openScenario {s : Session} (hs : s.phase.table? = none) (number : Nat)
    (kind : ScenarioKind) (name : String) :
    (s.openScenario number kind name).tables rows more =
      s.tables [] [] ++ [(kind, if kind = .outline then more.map TableText.read else [])] := by
  have hnone : s.phase.withRows [] = none := Phase.withRows_of_table?_eq_none hs []
  have hended : s.tables [] [] =
      s.closed.map Scenario.tabled ++ (s.scenario.map Scenario.tabled).toList := by
    rw [tables, hnone]
    cases s.scenario <;> simp
  rw [hended, ← s.tabled_flush, Option.toList_map]
  simp [tables, openScenario, Scenario.tabled, Phase.withRows]

/-- A line that opens neither a scenario nor a table leaves the tables as they are. -/
theorem tables_content {s : Session} (hs : s.phase.table? = none) (number : Nat) (text : String)
    {line : Line} (hscenario : line.scenario? = none) (hexamples : line.examples? = none) :
    (s.content number text line).tables rows more = s.tables rows more := by
  have hnone : s.phase.withRows rows = none := Phase.withRows_of_table?_eq_none hs rows
  cases line with
  | scenario kind name => simp [Line.scenario?] at hscenario
  | examples name => simp [Line.examples?] at hexamples
  | fence f =>
    exact tables_congr rows more s.flush_closed s.tabled_flush
      (congrArg (Phase.withRows rows) s.flush_phase)
  | step =>
    rw [content]
    split
    · have hstep : (s.addStep text).scenario.map Scenario.tabled =
          s.flush.scenario.map Scenario.tabled := by
        rw [addStep, Option.map_map]
        rfl
      exact tables_congr rows more s.flush_closed (hstep.trans s.tabled_flush)
        (congrArg (Phase.withRows rows) s.flush_phase)
    · rfl
  | feature name =>
    rw [content]
    split
    · rfl
    · exact tables_congr rows more s.flush_closed s.tabled_flush hnone.symm
  | blank | comment | row | tags names | text => rfl

/-- The keyword line of examples opens a table under an outline, and nothing elsewhere. -/
theorem tables_content_examples {s : Session} (hs : s.phase.table? = none) (number : Nat)
    (text name : String) : (s.content number text (.examples name)).tables rows more =
      s.tables [] (⟨name, rows⟩ :: more) := by
  have hnone : s.phase.withRows [] = none := Phase.withRows_of_table?_eq_none hs []
  have hrows : s.phase.withRows rows = none := Phase.withRows_of_table?_eq_none hs rows
  rw [content]
  cases hsc : s.scenario with
  | none => simp [tables, addText, hsc]
  | some sc =>
    by_cases hkind : sc.kind = .outline
    · have hopen : (s.openExamples name).scenario.map Scenario.tabled =
          some (.outline, sc.examples) := by
        rw [← hkind]
        exact s.tabled_flush.trans (congrArg (Option.map Scenario.tabled) hsc)
      have hheader : (s.openExamples name).phase.withRows rows =
          some (TableText.read ⟨name, rows⟩) := rfl
      have hclosed : (s.openExamples name).closed = s.closed := s.flush_closed
      rw [if_pos (by simp [Scenario.isOutline, hkind]), tables, tables, hopen, hheader, hclosed,
        hnone, hsc]
      simp [Scenario.tabled, hkind]
    · rw [if_neg (by simp [Scenario.isOutline, hkind])]
      simp [tables, addText, hsc, Scenario.tabled, hkind, hrows, hnone]

/-! ## One line after the other -/

/-- What a line outside fenced blocks does to the tables: rows go to the table being read, a keyword
line of examples opens the next one, a keyword line of a scenario ends them, and every other line
that is not passed over ends the table. -/
theorem tables_take (s : Session) (number : Nat) (cs : List Char) :
    (s.take number cs).tables rows more =
      match Line.classify cs with
      | .blank | .comment => s.tables rows more
      | .row => s.tables (String.ofList cs :: rows) more
      | .scenario kind _ =>
        s.tables [] [] ++ [(kind, if kind = .outline then more.map TableText.read else [])]
      | .examples name => s.tables [] (⟨name, rows⟩ :: more)
      | _ => s.tables [] more := by
  have hclosed := s.closeTable_phase_table?
  cases h : Line.classify cs with
  | blank => simp only [take, h, addGap_eq]; rfl
  | comment => simp only [take, h]
  | row =>
    simp only [take, h, addRow_eq]
    rw [tables, withRows_rowPhase]
    rfl
  | scenario kind name =>
    simp only [take, h, content]
    rw [tables_openScenario rows more hclosed, tables_closeTable]
  | examples name =>
    simp only [take, h]
    rw [tables_content_examples rows more hclosed, tables_closeTable]
  | fence | step | tags | feature | text =>
    simp only [take, h]
    rw [tables_content rows more hclosed number _ rfl rfl, tables_closeTable]

/-- Visible lines add their tables to those of a session. -/
theorem tables_foldl (s : Session) (ls : List NumberedLine) :
    (ls.foldl view s).tables [] [] =
      s.tables (leadingRows ls) (leadingTables ls) ++
        (scenarioTables ls).map (Prod.map id (List.map TableText.read)) := by
  induction ls generalizing s with
  | nil => exact (List.append_nil _).symm
  | cons l ls ih =>
    have hview : (s.view l).tables (leadingRows ls) (leadingTables ls) =
        (s.take l.number l.text).tables (leadingRows ls) (leadingTables ls) := rfl
    rw [List.foldl_cons, ih, hview, tables_take, leadingRows_cons, leadingTables_cons,
      scenarioTables_cons]
    cases Line.classify l.text with
    | scenario kind name =>
      cases kind <;> simp
    | _ => rfl

end Session

/-! ## The tables of a document -/

/-- The kinds and tables of the scenarios that are read. -/
theorem tabled_read (text path : String) :
    (read text path).scenarios.map Scenario.tabled =
      (scenarioTables (visibleLines text)).map (Prod.map id (List.map TableText.read)) := by
  have hrun := Session.unfenced_feedAll (Session.start path) 1 (Text.lines text)
  generalize hs : (Session.start path).feedAll 1 (Text.lines text) = s at hrun
  have hflush : s.flush.tables [] [] = s.unfenced.tables [] [] :=
    Session.tables_congr [] [] s.flush_closed s.tabled_flush
      (congrArg (Phase.withRows []) s.flush_phase)
  rw [read, readLines, hs, Session.finish, ← Session.tables_nil, hflush, hrun,
    Session.tables_foldl]
  exact List.nil_append _

theorem length_fit (width : Nat) (cs : List String) : (Session.fit width cs).length = width := by
  rw [Session.fit, List.length_take, List.length_append, List.length_replicate]
  omega

/-- A table that is read has names for its columns, and its rows are as wide as it is. -/
theorem TableText.rectangular_read (t : TableText) : t.read.Rectangular := by
  obtain ⟨name, _ | ⟨header, rows⟩⟩ := t
  · exact ⟨by simp [read], by simp [read]⟩
  · refine ⟨fun h hh => by simpa using List.of_mem_filter hh, fun row hrow => ?_⟩
    obtain ⟨line, -, rfl⟩ := List.mem_map.1 hrow
    exact length_fit _ _

example : TableText.read ⟨"", ["| a | b | |", "| 1 |", "| 1 | 2 | 3 |"]⟩ =
    ⟨"", ["a", "b"], [["1", ""], ["1", "2"]]⟩ := by
  decide +kernel

/-- Only outlines have tables. -/
theorem tables_of_mem_scenarioTables {ls : List NumberedLine}
    {p : ScenarioKind × List TableText} (hp : p ∈ scenarioTables ls) (hkind : p.1 ≠ .outline) :
    p.2 = [] := by
  induction ls with
  | nil => simp [scenarioTables] at hp
  | cons l ls ih =>
    rw [scenarioTables] at hp
    split at hp
    · rcases List.mem_cons.1 hp with rfl | hp
      · exact if_neg hkind
      · exact ih hp
    · exact ih hp

/-- Every table has the name of a keyword line of examples. -/
theorem exists_of_mem_leadingTables {ls : List NumberedLine} {t : TableText}
    (ht : t ∈ leadingTables ls) : ∃ l ∈ ls, examplesHeadline? l.text = some t.name := by
  induction ls with
  | nil => simp [leadingTables] at ht
  | cons l ls ih =>
    have hrest : t ∈ leadingTables ls → ∃ m ∈ l :: ls, examplesHeadline? m.text = some t.name := by
      intro h
      obtain ⟨m, hm, hname⟩ := ih h
      exact ⟨m, List.mem_cons_of_mem _ hm, hname⟩
    rw [leadingTables] at ht
    split at ht
    · simp at ht
    · split at ht
      · rename_i name hname
        rcases List.mem_cons.1 ht with rfl | ht
        · exact ⟨l, List.mem_cons_self .., hname⟩
        · exact hrest ht
      · exact hrest ht

/-- The tables of a scenario have trimmed names. -/
theorem trimmed_of_mem_scenarioTables {ls : List NumberedLine}
    {p : ScenarioKind × List TableText} (hp : p ∈ scenarioTables ls) {t : TableText}
    (ht : t ∈ p.2) : Text.Trimmed t.name.toList := by
  induction ls with
  | nil => simp [scenarioTables] at hp
  | cons l ls ih =>
    rw [scenarioTables] at hp
    split at hp
    · rcases List.mem_cons.1 hp with rfl | hp
      · have hleading : t ∈ leadingTables ls := by
          split at ht
          · exact ht
          · simp at ht
        obtain ⟨m, -, hname⟩ := exists_of_mem_leadingTables hleading
        exact trimmed_of_examplesHeadline? hname
      · exact ih hp
    · exact ih hp

/-- Reading a document gives the tables of its lines, in the scenarios to which they belong: only an
outline has tables, names are trimmed, columns are named and rows are as wide as their table. The
lines from which the tables are taken are those outside fenced blocks besides the first lines of the
blocks. -/
theorem tables_read (text path : String) :
    (read text path).scenarios.map (fun sc => (sc.kind, sc.examples)) =
        (scenarioTables (visibleLines text)).map (Prod.map id (List.map TableText.read)) ∧
      (∀ sc ∈ (read text path).scenarios, (sc.kind ≠ .outline → sc.examples = []) ∧
        ∀ e ∈ sc.examples, Text.Trimmed e.name.toList ∧ e.Rectangular) ∧
      (visibleLines text).filter (fun l => (fence? l.text).isNone) = outsideLines text := by
  have htabled := tabled_read text path
  refine ⟨htabled, fun sc hsc => ?_, (outside_eq_filter none 1 (Text.lines text)).symm⟩
  have hmem := List.mem_map_of_mem (f := Scenario.tabled) hsc
  rw [htabled] at hmem
  obtain ⟨⟨kind, ts⟩, hp, heq⟩ := List.mem_map.1 hmem
  obtain ⟨rfl, hexamples⟩ := Prod.mk.inj heq
  refine ⟨fun hkind => ?_, fun e he => ?_⟩
  · have hnil : ts = [] := tables_of_mem_scenarioTables hp hkind
    rw [← hexamples, hnil]
    rfl
  · rw [← hexamples] at he
    obtain ⟨t, ht, rfl⟩ := List.mem_map.1 he
    have hname : t.read.name = t.name := by
      obtain ⟨name, _ | ⟨header, rows⟩⟩ := t <;> rfl
    rw [hname]
    exact ⟨trimmed_of_mem_scenarioTables hp ht, t.rectangular_read⟩

end Document

end FeatureAudit
