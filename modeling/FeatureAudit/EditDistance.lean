/-!
# Edit distance

The least number of insertions, deletions and replacements of single characters that turn one
text into another. It is computed row by row: the row of a start of the first text holds its
distances to all starts of the second text, the empty one first. Each row needs the one above it
alone.
-/

set_option autoImplicit false

namespace FeatureAudit.EditDistance

/-- The rest of a row, from the rest of the row above. At hand are the last number of the row so
far and the one that stands above it. -/
def fill (a : Char) : List Char → List Nat → Nat → Nat → List Nat
  | b :: bs, above :: row, corner, last =>
    let next := min (min (above + 1) (last + 1)) (corner + if a = b then 0 else 1)
    next :: fill a bs row above next
  | _, _, _, _ => []

/-- The row of a text with one more character, from the row of the text. -/
def nextRow (bs : List Char) : List Nat → Char → List Nat
  | [], _ => []
  | corner :: row, a => (corner + 1) :: fill a bs row corner (corner + 1)

/-- The row of a whole text. The row of the empty text holds the lengths of the starts. -/
def row (as bs : List Char) : List Nat := as.foldl (nextRow bs) (List.range (bs.length + 1))

/-- The edit distance of two lists of characters. -/
def distance (as bs : List Char) : Nat :=
  if as = bs then 0
  else if as.isEmpty then bs.length
  else if bs.isEmpty then as.length
  else (row as bs).getLastD 0

end FeatureAudit.EditDistance
