/-!
# Order of texts

Texts are ordered by their code points, the first difference deciding; a proper beginning comes
first. Lists are ordered in the same way from an order of their items.
-/

set_option autoImplicit false

namespace FeatureAudit.Text

/-- Lexicographic order of lists from an order of their items. -/
def compareLists {α : Type} (cmp : α → α → Ordering) : List α → List α → Ordering
  | [], [] => .eq
  | [], _ :: _ => .lt
  | _ :: _, [] => .gt
  | a :: as, b :: bs => (cmp a b).then (compareLists cmp as bs)

/-- Order of natural numbers. -/
def compareNats (m n : Nat) : Ordering := if m < n then .lt else if n < m then .gt else .eq

/-- Order of integers. -/
def compareInts (m n : Int) : Ordering := if m < n then .lt else if n < m then .gt else .eq

/-- Order of characters by code point. -/
def compareChars (c d : Char) : Ordering := compareNats c.toNat d.toNat

/-- Order of texts by code points. -/
def compareTexts (s t : String) : Ordering := compareLists compareChars s.toList t.toList

/-- Sorts by an order; items that the order does not tell apart keep their places. -/
def sortBy {α : Type} (cmp : α → α → Ordering) (xs : List α) : List α :=
  xs.mergeSort fun a b => (cmp a b).isLE

end FeatureAudit.Text
