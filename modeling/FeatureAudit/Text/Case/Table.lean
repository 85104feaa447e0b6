import FeatureAudit.Text.Ascending

/-!
# Case tables

A case mapping beyond ASCII consists of runs, in each of which every character is shifted by the
same distance, and of characters that map to several characters. Both are in ascending order, and
no two runs overlap.
-/

set_option autoImplicit false

namespace FeatureAudit.Text.Case

/-- The code points `first`, `first + step`, … up to `last`, all shifted by `shift`. -/
structure Run where
  /-- The first code point. -/
  first : Nat
  /-- The last code point. -/
  last : Nat
  /-- The distance of neighbours in the run. -/
  step : Nat
  /-- What is added to each. -/
  shift : Int

/-- Whether a code point belongs to a run. -/
def Run.covers (r : Run) (n : Nat) : Bool :=
  r.first ≤ n && n ≤ r.last && (n - r.first) % r.step == 0

/-- The code points of a run, each in front of its image. -/
def Run.pairs (r : Run) : List (Nat × Nat) :=
  (List.range ((r.last - r.first) / r.step + 1)).map fun i =>
    let n := r.first + i * r.step
    (n, Int.toNat (n + r.shift))

/-- A case mapping beyond ASCII. -/
structure Table where
  /-- Characters that map to one character. -/
  runs : Array Run
  /-- Characters that map to several characters. -/
  expansions : Array (Nat × List Nat)

/-- The image of a character; one that the table does not name is kept. -/
def Table.map (t : Table) (c : Char) : List Char :=
  match (lastUpTo? Prod.fst t.expansions c.toNat).filter (·.1 == c.toNat) with
  | some (_, ns) => ns.map Char.ofNat
  | none =>
    match (lastUpTo? Run.first t.runs c.toNat).filter (·.covers c.toNat) with
    | some r => [Char.ofNat (Int.toNat (c.toNat + r.shift))]
    | none => [c]

end FeatureAudit.Text.Case
