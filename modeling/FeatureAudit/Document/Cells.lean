import FeatureAudit.Text.Blank

/-!
# Table rows and their cells

A row stands between bars and its cells are divided by bars. Inside a cell a backslash escapes a
bar or a backslash, and a backslash with `n` stands for a line feed.
-/

set_option autoImplicit false

namespace FeatureAudit.Document

/-- The character between cells. -/
def bar : Char := '|'

/-- Whether a trimmed line is a table row. -/
def isRow (cs : List Char) : Bool :=
  2 ≤ cs.length && cs.head? == some bar && cs.getLast? == some bar

/-- Puts a character in front of the first cell. -/
def consCell (c : Char) : List (List Char) → List (List Char)
  | [] => [[c]]
  | cell :: cells => (c :: cell) :: cells

/-- Cuts at bars that are not escaped, and resolves escapes. -/
def rawCells : List Char → List (List Char)
  | [] => [[]]
  | ['\\'] => [['\\']]
  | '\\' :: c :: cs =>
    if c = 'n' then consCell '\n' (rawCells cs)
    else if c = bar ∨ c = '\\' then consCell c (rawCells cs)
    else consCell '\\' (consCell c (rawCells cs))
  | c :: cs => if c = bar then [] :: rawCells cs else consCell c (rawCells cs)

/-- A row without its outer bars; a line that is no row is taken whole. -/
def rowBody (cs : List Char) : List Char := if isRow cs then (cs.drop 1).dropLast else cs

/-- The trimmed cells of a line. -/
def cells (line : String) : List String :=
  (rawCells (rowBody line.toList)).map fun cell => String.ofList (Text.trimChars cell)

/-! ## Writing rows -/

/-- A character of a cell as it is written. -/
def escapeCellChar (c : Char) : List Char :=
  if c = '\\' then ['\\', '\\']
  else if c = bar then ['\\', bar]
  else if c = '\n' then ['\\', 'n']
  else [c]

/-- A cell as it is written. -/
def escapeCell (cell : String) : List Char := cell.toList.flatMap escapeCellChar

/-- Cells as they are written after the opening bar: each between spaces and followed by a bar. -/
def writeCells : List String → List Char
  | [] => []
  | cell :: cells => [' '] ++ escapeCell cell ++ [' ', bar] ++ writeCells cells

/-- A row of cells. -/
def writeRow (cells : List String) : String := String.ofList (bar :: writeCells cells)

end FeatureAudit.Document
