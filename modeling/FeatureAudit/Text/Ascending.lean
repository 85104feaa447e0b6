/-!
# Tables in ascending order

The entries of a table are ordered by a key, so that an entry is found by halving the table.
-/

set_option autoImplicit false

namespace FeatureAudit.Text

variable {α : Type}

/-- The place between `low` and `high` that parts the entries with a key of at most `n` from the
others. `fuel` bounds the number of halvings. -/
def partingPlace (key : α → Nat) (table : Array α) (n : Nat) : Nat → Nat → Nat → Nat
  | 0, low, _ => low
  | fuel + 1, low, high =>
    if low < high then
      let middle := (low + high) / 2
      if table[middle]?.any fun a => key a ≤ n then partingPlace key table n fuel (middle + 1) high
      else partingPlace key table n fuel low middle
    else low

/-- The number of entries with a key of at most `n`. -/
def countUpTo (key : α → Nat) (table : Array α) (n : Nat) : Nat :=
  partingPlace key table n (Nat.log2 table.size + 1) 0 table.size

/-- The last entry with a key of at most `n`. -/
def lastUpTo? (key : α → Nat) (table : Array α) (n : Nat) : Option α :=
  match countUpTo key table n with
  | 0 => none
  | k + 1 => table[k]?

/-- The entries of a key. -/
def entriesAt (key : α → Nat) (table : Array α) (n : Nat) : List α :=
  let stop := countUpTo key table n
  let start := if n == 0 then 0 else countUpTo key table (n - 1)
  (table.extract start stop).toList

end FeatureAudit.Text
