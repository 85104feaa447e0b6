import FeatureAudit.Tag

/-!
# Tallies of tags

A tally gives tags a count. Tags that are the same share a count, and the spelling that came first
is kept; entries stand in the order in which tags came up. Beside it stand the unordered pairs of
a list, which counts of pairs are built on.
-/

set_option autoImplicit false

namespace FeatureAudit

namespace Tag

/-- Tags with their counts, in order of first mention. -/
abbrev Tally := List (Tag × Int)

namespace Tally

/-- Adds to the count of a tag. -/
def add : Tally → Tag → Int → Tally
  | [], t, n => [(t, n)]
  | (u, m) :: rest, t, n => if t.same u then (u, m + n) :: rest else (u, m) :: add rest t n

/-- Counts every mention once. -/
def ofTags (tags : List Tag) : Tally := tags.foldl (fun tally t => add tally t 1) []

/-- The entry of a tag. -/
def get? (tally : Tally) (t : Tag) : Option (Tag × Int) := tally.find? fun e => t.same e.1

/-- The count of a tag; zero if it has none. -/
def count (tally : Tally) (t : Tag) : Int := ((get? tally t).map Prod.snd).getD 0

/-- Whether a tag has a count. -/
def has (tally : Tally) (t : Tag) : Bool := tally.any fun e => t.same e.1

/-- Whether two tallies give the same tags the same counts. -/
def agrees (a b : Tally) : Bool :=
  a.length == b.length && a.all fun e => (get? b e.1).any fun f => f.2 == e.2

end Tally

/-- The pairs of a list whose first item stands in front of the second. -/
def pairs {α : Type} : List α → List (α × α)
  | [] => []
  | a :: as => as.map (fun b => (a, b)) ++ pairs as

end Tag

end FeatureAudit
