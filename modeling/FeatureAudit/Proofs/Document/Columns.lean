import Mathlib.Data.List.Forall2
import FeatureAudit.Proofs.Document.Cells
import FeatureAudit.Proofs.Document.Tables

/-!
# The columns of a table

A header leaves out its empty cells, and the rows below it are cut to the number of those that
remain. So the values of a named column are taken from the column that stands as far to the left as
if the empty cells of the header had not been there (`position`), which need not be the column under
the name. It is for every row exactly if no empty cell stands before a name
(`even_forall_iff_gapless`); `columns_read` says this of the tables of a document.
-/

set_option autoImplicit false

namespace FeatureAudit.Document

/-! ## Columns -/

/-- The value of a row in a column; beyond its end a row is empty. -/
def cellAt (row : List String) (column : Nat) : String := row[column]?.getD ""

/-- A column with a name. -/
structure NamedColumn (header : List String) (column : Nat) (name : String) : Prop where
  getElem? : header[column]? = some name
  ne_empty : name ≠ ""

/-- The position of a column among the named ones. -/
def position (header : List String) (column : Nat) : Nat :=
  (header.take column).countP (· ≠ "")

/-- No empty cell stands before a name. -/
def Gapless (header : List String) : Prop :=
  ∀ column name, NamedColumn header column name → ∀ cell ∈ header.take column, cell ≠ ""

/-- The names that are kept stand at their positions. -/
theorem NamedColumn.getElem?_filter {header : List String} {column : Nat} {name : String}
    (h : NamedColumn header column name) :
    (header.filter (· ≠ ""))[position header column]? = some name := by
  obtain ⟨hlt, hname⟩ := List.getElem?_eq_some_iff.1 h.getElem?
  have hsplit : header = header.take column ++ name :: header.drop (column + 1) := by
    rw [← hname, ← List.drop_eq_getElem_cons hlt, List.take_append_drop]
  have hfilter : header.filter (· ≠ "") = (header.take column).filter (· ≠ "") ++
      name :: (header.drop (column + 1)).filter (· ≠ "") := by
    conv_lhs => rw [hsplit]
    rw [List.filter_append, List.filter_cons_of_pos (by simpa using h.ne_empty)]
  rw [hfilter, position, List.countP_eq_length_filter, List.getElem?_append_right (le_refl _),
    Nat.sub_self]
  rfl

theorem position_le (header : List String) (column : Nat) : position header column ≤ column :=
  List.countP_le_length.trans (List.length_take_le _ _)

/-- A named column keeps its place exactly if no empty cell stands before it. -/
theorem NamedColumn.position_eq_iff {header : List String} {column : Nat} {name : String}
    (h : NamedColumn header column name) :
    position header column = column ↔ ∀ cell ∈ header.take column, cell ≠ "" := by
  obtain ⟨hlt, -⟩ := List.getElem?_eq_some_iff.1 h.getElem?
  have hlength : (header.take column).length = column := List.length_take_of_le hlt.le
  have hall := List.countP_eq_length (p := (· ≠ "")) (l := header.take column)
  rw [hlength] at hall
  simpa [position] using hall

theorem getElem?_fit {width column : Nat} (h : column < width) (cs : List String) :
    (Session.fit width cs)[column]? = some (cellAt cs column) := by
  rw [Session.fit, List.getElem?_take_of_lt h, cellAt]
  by_cases hlt : column < cs.length
  · rw [List.getElem?_append_left hlt, List.getElem?_eq_getElem hlt, Option.getD_some]
  · have hle : cs.length ≤ column := Nat.le_of_not_lt hlt
    rw [List.getElem?_append_right hle, List.getElem?_eq_none hle, Option.getD_none,
      List.getElem?_replicate, if_pos (by omega)]

/-! ## Where values are taken from -/

namespace TableText

/-- A table keeps the names of its columns, and the value of a row in a named column is the cell of
the row in the source column. -/
def StoredFrom (source : List String → Nat → Nat) (t : TableText) (e : Example) : Prop :=
  ∀ header rows, t.rows = header :: rows → ∀ column name, NamedColumn (cells header) column name →
    e.headers[position (cells header) column]? = some name ∧
      List.Forall₂ (fun row values => values[position (cells header) column]? =
        some (cellAt (cells row) (source (cells header) column))) rows e.rows

/-- Each row has the same cell under a name as at the position of the name. -/
def Even (t : TableText) : Prop :=
  ∀ header rows, t.rows = header :: rows → ∀ column name, NamedColumn (cells header) column name →
    ∀ row ∈ rows, cellAt (cells row) (position (cells header) column) = cellAt (cells row) column

/-- The values of a named column are the cells at its position. -/
theorem values_read_iff {title header : String} {rows : List String} {column : Nat} {name : String}
    (hnamed : NamedColumn (cells header) column name) (source : Nat) :
    List.Forall₂ (fun row values => values[position (cells header) column]? =
        some (cellAt (cells row) source)) rows (read ⟨title, header :: rows⟩).rows ↔
      ∀ row ∈ rows,
        cellAt (cells row) (position (cells header) column) = cellAt (cells row) source := by
  obtain ⟨hlt, -⟩ := List.getElem?_eq_some_iff.1 hnamed.getElem?_filter
  show List.Forall₂ _ rows (rows.map _) ↔ _
  rw [List.forall₂_map_right_iff, List.forall₂_same]
  simp only [getElem?_fit hlt, Option.some.injEq]

/-- A table keeps the names of its columns, and where their values are taken from is told by the
cells at their positions. -/
theorem storedFrom_read_iff (source : List String → Nat → Nat) (t : TableText) :
    t.StoredFrom source t.read ↔
      ∀ header rows, t.rows = header :: rows → ∀ column name,
        NamedColumn (cells header) column name → ∀ row ∈ rows,
          cellAt (cells row) (position (cells header) column) =
            cellAt (cells row) (source (cells header) column) := by
  obtain ⟨title, lines⟩ := t
  constructor
  · intro hstored header rows hrows column name hnamed
    obtain ⟨-, hvalues⟩ := hstored header rows hrows column name hnamed
    obtain rfl : lines = header :: rows := hrows
    exact (values_read_iff hnamed _).1 hvalues
  · intro hsame header rows hrows column name hnamed
    have hcells := hsame header rows hrows column name hnamed
    obtain rfl : lines = header :: rows := hrows
    exact ⟨hnamed.getElem?_filter, (values_read_iff hnamed _).2 hcells⟩

theorem storedFrom_position_read (t : TableText) : t.StoredFrom position t.read := by
  rw [storedFrom_read_iff]
  intro header rows _ column name _ row _
  rfl

end TableText

/-- Whatever the rows of a table, they are even exactly if no empty cell of the header stands before
a name: otherwise a row with a single cell under that name is not. -/
theorem even_forall_iff_gapless (header : String) :
    (∀ name rows, TableText.Even ⟨name, header :: rows⟩) ↔ Gapless (cells header) := by
  constructor
  · intro heven column name hnamed
    rw [← hnamed.position_eq_iff]
    by_contra hne
    have hlt : position (cells header) column < column :=
      lt_of_le_of_ne (position_le _ _) hne
    have hcells : cells (writeRow (List.replicate column "" ++ ["x"])) =
        List.replicate column "" ++ ["x"] := by
      refine cells_writeRow_eq (by simp) fun c hc => ?_
      rcases List.mem_append.1 hc with hc | hc
      · rw [List.eq_of_mem_replicate hc]
        decide
      · rw [List.mem_singleton.1 hc]
        decide
    have hsame := heven "" [writeRow (List.replicate column "" ++ ["x"])] header _ rfl column name
      hnamed _ (List.mem_singleton_self _)
    rw [hcells, cellAt, cellAt, List.getElem?_append_left (by simpa using hlt),
      List.getElem?_append_right (by simp)] at hsame
    simp [hlt] at hsame
  · intro hgapless name rows first rest hrows column title hnamed row _
    obtain ⟨rfl, -⟩ := List.cons.inj hrows
    rw [hnamed.position_eq_iff.2 (hgapless column title hnamed)]

/-! ## The tables of a document -/

/-- The tables of a document and what is read of them are related, one by one. -/
def EachTable (R : TableText → Example → Prop) (text path : String) : Prop :=
  List.Forall₂ (fun p sc => List.Forall₂ R p.2 sc.examples)
    (scenarioTables (visibleLines text)) (read text path).scenarios

theorem eachTable_of_read {R : TableText → Example → Prop} (h : ∀ t : TableText, R t t.read)
    (text path : String) : EachTable R text path := by
  have htabled : List.Forall₂ (· = ·)
      ((scenarioTables (visibleLines text)).map (Prod.map id (List.map TableText.read)))
      ((read text path).scenarios.map Scenario.tabled) := by
    rw [List.forall₂_eq_eq_eq]
    exact (tabled_read text path).symm
  rw [List.forall₂_map_left_iff, List.forall₂_map_right_iff] at htabled
  refine htabled.imp fun p sc hp => ?_
  have hexamples : p.2.map TableText.read = sc.examples := congrArg Prod.snd hp
  rw [← hexamples, List.forall₂_map_right_iff, List.forall₂_same]
  exact fun t _ => h t

/-- The values of a named column in a table that is read are the cells at the position of the column
among the named ones. They are the cells under its name exactly if the two agree in every row, and
for a header below which any rows may stand this means that it has no empty cell before a name. -/
theorem columns_read (text path : String) :
    EachTable (fun t e => t.StoredFrom position e ∧
        (t.StoredFrom (fun _ column => column) e ↔ t.Even)) text path ∧
      ∀ header, (∀ name rows, TableText.Even ⟨name, header :: rows⟩) ↔ Gapless (cells header) := by
  refine ⟨eachTable_of_read (fun t => ?_) text path, even_forall_iff_gapless⟩
  exact ⟨t.storedFrom_position_read, TableText.storedFrom_read_iff _ t⟩

/-- An outline whose table has an empty cell between two names. -/
def uneven : String := "Scenario Outline: s\nExamples:\n| a | | c |\n| 1 | 2 | 3 |\n"

/-- An empty cell between two names moves the values of the second one. -/
theorem columns_read_uneven :
    ¬ EachTable (TableText.StoredFrom fun _ column => column) uneven "uneven.feature" := by
  have htables : scenarioTables (visibleLines uneven) =
      [(.outline, [⟨"", ["| a | | c |", "| 1 | 2 | 3 |"]⟩])] := by decide +kernel
  have hread : (read uneven "uneven.feature").scenarios.map Scenario.examples =
      [[⟨"", ["a", "c"], [["1", "2"]]⟩]] := by decide +kernel
  intro heach
  rw [EachTable, htables] at heach
  obtain ⟨sc, rest, htable, -, hscenarios⟩ := List.forall₂_cons_left_iff.1 heach
  rw [hscenarios, List.map_cons] at hread
  rw [(List.cons.inj hread).1] at htable
  have hstored := (List.forall₂_cons.1 htable).1 _ _ rfl 2 "c" ⟨by decide, by decide⟩
  exact absurd (List.forall₂_cons.1 hstored.2).1 (by decide)

end FeatureAudit.Document
