import FeatureAudit.Decimal.Binary64

/-!
# The shortest text of a number

A double is written with the fewest digits that read back as the same double, and of those with
the nearest. Numbers from `0.0001` up to sixteen digits in front of the point are written in full,
others with an exponent of at least two digits.
-/

set_option autoImplicit false

namespace FeatureAudit.Decimal

/-- A positive number `digits · 10 ^ exponent`. -/
structure Scientific where
  /-- The digits as a whole number. -/
  digits : Nat
  /-- The power of ten of the last digit. -/
  exponent : Int
  deriving DecidableEq, Repr

/-- The bits of the double that a decimal number reads as. -/
def Scientific.bits (s : Scientific) : Nat := scientificBits s.digits s.exponent

/-! ## Choice of digits -/

/-- The number of decimal digits of a whole number. -/
def digitCount (n : Nat) : Nat := (Nat.toDigits 10 n).length

/-- The exponent of the greatest power of ten that the positive number `m / d` reaches. -/
def leadingPlace (m d : Nat) : Int :=
  if d ≤ m then (digitCount (m / d) : Int) - 1 else -(digitCount ((d - 1) / m) : Int)

/-- The whole numbers around `m / d` in units of `10 ^ exponent`, the nearer one first. -/
def decimalUnits (m d : Nat) (exponent : Int) : List Nat :=
  let (m, d) := match exponent with
    | .ofNat e => (m, d * Nat.pow 10 e)
    | .negSucc e => (m * Nat.pow 10 (e + 1), d)
  let near := roundDiv m d
  let low := m / d
  [near, if near == low then low + 1 else low]

/-- The decimal number with `count` digits that is nearest to `m / d`, of those that read as
`bits`. -/
def withDigits? (bits m d count : Nat) : Option Scientific :=
  let exponent := leadingPlace m d + 1 - count
  ((decimalUnits m d exponent).map fun n => Scientific.mk n exponent).find? fun s => s.bits == bits

/-- The exact value of `m / 2 ^ k`, which has `k` decimal places. -/
def exactly (m k : Nat) : Scientific := ⟨m * Nat.pow 5 k, -(k : Int)⟩

/-- The decimal number with the fewest digits that reads as the double `m · 2 ^ exponent`. No double
needs more than seventeen. -/
def shortest (m : Nat) (exponent : Int) : Scientific :=
  let up := Nat.pow 2 exponent.toNat
  let down := (-exponent).toNat
  let bits := nearestBits (m * up) (Nat.pow 2 down)
  ((List.range 17).findSome? fun n => withDigits? bits (m * up) (Nat.pow 2 down) (n + 1)).getD
    (exactly (m * up) down)

/-! ## Layout -/

/-- An exponent with its sign and at least two digits. -/
def exponentText (e : Int) : String :=
  (if e < 0 then "e-" else "e+") ++ (if e.natAbs < 10 then "0" else "") ++ toString e.natAbs

/-- Significant digits with a point behind the first `n`, and a zero on a side that has none. -/
def withPoint (ds : List Char) (n : Nat) : String :=
  let padded := ds ++ List.replicate (n - ds.length) '0'
  let fraction := padded.drop n
  String.ofList (padded.take n ++ '.' :: if fraction.isEmpty then ['0'] else fraction)

/-- A decimal number: written in full if its first digit stands at one of the places from `-4` to
`15`, with an exponent otherwise. -/
def Scientific.text (s : Scientific) : String :=
  let all := Nat.toDigits 10 s.digits
  let ds := (all.reverse.dropWhile (· == '0')).reverse
  let place := s.exponent + all.length - 1
  if place < -4 || 15 < place then
    (match ds with
    | d :: rest@(_ :: _) => String.ofList (d :: '.' :: rest)
    | ds => String.ofList ds) ++ exponentText place
  else if place < 0 then withPoint ('0' :: (List.replicate ((-place).toNat - 1) '0' ++ ds)) 1
  else withPoint ds (place.toNat + 1)

/-- The shortest text of a double. -/
def shortestText (x : Float) : String :=
  match Binary64.ofFloat x with
  | .finite negative m e =>
    (if negative then "-" else "") ++ (if m == 0 then "0.0" else (shortest m e).text)
  | .infinite negative => if negative then "-inf" else "inf"
  | .undefined => "nan"

end FeatureAudit.Decimal
