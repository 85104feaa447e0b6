/-!
# Binary floating-point numbers

A double is taken apart into sign, mantissa and exponent, so that rounding and text are done on
whole numbers. A quotient of whole numbers is rounded to the nearest double.
-/

set_option autoImplicit false

namespace FeatureAudit.Decimal

/-- The exact value of a double. -/
inductive Binary64 where
  /-- The number `± mantissa · 2 ^ exponent`. -/
  | finite (negative : Bool) (mantissa : Nat) (exponent : Int)
  /-- An infinity. -/
  | infinite (negative : Bool)
  /-- No number. -/
  | undefined
  deriving DecidableEq, Repr

/-- The value that 64 bits stand for. -/
def Binary64.ofBits (bits : UInt64) : Binary64 :=
  let n := bits.toNat
  let negative := n / Nat.pow 2 63 == 1
  let exponent : Nat := n / Nat.pow 2 52 % 2048
  let fraction := n % Nat.pow 2 52
  if exponent == 2047 then
    if fraction == 0 then .infinite negative else .undefined
  else if exponent == 0 then .finite negative fraction (-1074)
  else .finite negative (Nat.pow 2 52 + fraction) ((exponent : Int) - 1075)

/-- The exact value of a double. -/
def Binary64.ofFloat (x : Float) : Binary64 := .ofBits x.toBits

/-- A whole number with a sign. -/
def signed (negative : Bool) (n : Nat) : Int := if negative then -(n : Int) else n

/-- The whole number in front of the point, if the value is finite. -/
def Binary64.truncate? : Binary64 → Option Int
  | .finite negative m (.ofNat e) => some (signed negative (m * Nat.pow 2 e))
  | .finite negative m (.negSucc e) => some (signed negative (m / Nat.pow 2 (e + 1)))
  | _ => none

/-- The value, if it is a whole number. -/
def Binary64.whole? : Binary64 → Option Int
  | .finite negative m (.ofNat e) => some (signed negative (m * Nat.pow 2 e))
  | .finite negative m (.negSucc e) =>
    if m % Nat.pow 2 (e + 1) == 0 then some (signed negative (m / Nat.pow 2 (e + 1))) else none
  | _ => none

/-- How a whole number compares with a value. Nothing compares with what is undefined. -/
def Binary64.compareInt? (n : Int) : Binary64 → Option Ordering
  | .finite negative m (.ofNat e) => some (Ord.compare n (signed negative (m * Nat.pow 2 e)))
  | .finite negative m (.negSucc e) =>
    some (Ord.compare (n * (Nat.pow 2 (e + 1) : Nat)) (signed negative m))
  | .infinite negative => some (if negative then .gt else .lt)
  | .undefined => none

/-! ## Rounding -/

/-- The quotient rounded to the nearest whole number, a half to the even one. -/
def roundDiv (n d : Nat) : Nat :=
  let q := n / d
  let r := n % d
  if 2 * r < d then q else if d < 2 * r then q + 1 else q + q % 2

/-- Whether `m / d` is at least `2 ^ k`. -/
def reaches (m d : Nat) : Int → Bool
  | .ofNat k => d * Nat.pow 2 k ≤ m
  | .negSucc k => d ≤ m * Nat.pow 2 (k + 1)

/-- The exponent of the greatest power of two that `m / d` reaches. The binary lengths of `m` and
`d` leave two candidates. -/
def leadingExponent (m d : Nat) : Int :=
  let k : Int := (Nat.log2 m : Int) - Nat.log2 d
  if reaches m d k then k else k - 1

/-- The exponent of the last binary digit of a double about as large as `m / d`: there are 53
digits, and none below `2 ^ -1074`. -/
def lastExponent (m d : Nat) : Int := max (leadingExponent m d - 52) (-1074)

/-- `m / d` in units of `2 ^ exponent`, rounded to a whole number. -/
def binaryUnits (m d : Nat) : Int → Nat
  | .ofNat e => roundDiv m (d * Nat.pow 2 e)
  | .negSucc e => roundDiv (m * Nat.pow 2 (e + 1)) d

/-- The bits of the double nearest to `m / d`. The mantissa is rounded once, at the place of its
last digit, and a mantissa that is rounded up to the next power of two carries into the exponent;
what goes beyond the largest double is infinite. -/
def nearestBits (m d : Nat) : Nat :=
  if m == 0 then 0
  else
    let e := lastExponent m d
    min (binaryUnits m d e + (e + 1074).toNat * Nat.pow 2 52) (2047 * Nat.pow 2 52)

/-- The double nearest to `n / d`. -/
def nearest (n : Int) (d : Nat) : Float :=
  let x := Float.ofBits (nearestBits n.natAbs d).toUInt64
  if n < 0 then -x else x

/-- The bits of the double nearest to `digits · 10 ^ exponent`. Exponents far outside the range of
doubles are answered without a power of ten. -/
def scientificBits (digits : Nat) : Int → Nat
  | .ofNat e => nearestBits (if e ≤ 400 then digits * Nat.pow 10 e else digits * Nat.pow 10 400) 1
  | .negSucc e =>
    if (Nat.log2 digits : Int) + 1100 < 3 * (e : Int) then 0
    else nearestBits digits (Nat.pow 10 (e + 1))

/-- The double nearest to `± digits · 10 ^ exponent`. -/
def ofScientific (negative : Bool) (digits : Nat) (exponent : Int) : Float :=
  let x := Float.ofBits (scientificBits digits exponent).toUInt64
  if negative then -x else x

end FeatureAudit.Decimal
