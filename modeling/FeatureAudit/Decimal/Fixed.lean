import FeatureAudit.Decimal.Binary64

/-!
# Numbers with a fixed number of places

The exact value of a double is rounded to a number of decimal places, a half going to the even
neighbour. The sign of a negative number stays, also when it is rounded to zero.
-/

set_option autoImplicit false

namespace FeatureAudit.Decimal

/-- `mantissa · 2 ^ exponent` in units of the last of `places` decimal places. -/
def scaledUnits (places mantissa : Nat) : Int → Nat
  | .ofNat e => mantissa * Nat.pow 2 e * Nat.pow 10 places
  | .negSucc e => roundDiv (mantissa * Nat.pow 10 places) (Nat.pow 2 (e + 1))

/-- A number of units written with `places` decimal places. -/
def unitsText (places units : Nat) : String :=
  let fraction := toString (units % Nat.pow 10 places)
  let zeros := String.ofList (List.replicate (places - fraction.length) '0')
  toString (units / Nat.pow 10 places) ++ "." ++ zeros ++ fraction

/-- A double with `places` decimal places. -/
def fixedText (places : Nat) (x : Float) : String :=
  match Binary64.ofFloat x with
  | .finite negative m e =>
    (if negative then "-" else "") ++ unitsText places (scaledUnits places m e)
  | .infinite negative => if negative then "-inf" else "inf"
  | .undefined => "nan"

/-- Figures of a report have twelve decimal places. -/
def figure (x : Float) : String := fixedText 12 x

end FeatureAudit.Decimal
