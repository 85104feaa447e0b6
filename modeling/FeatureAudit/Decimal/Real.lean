import FeatureAudit.Decimal.Binary64
import FeatureAudit.Decimal.Integer

/-!
# Floating-point numbers in text

A number has digits in front of the point or behind it, and possibly a power of ten. Infinity and
what is no number are written as words.
-/

set_option autoImplicit false

namespace FeatureAudit.Decimal

/-- Takes a sign off, and tells whether it is negative. -/
def takeSign : List Char → Bool × List Char
  | '-' :: cs => (true, cs)
  | '+' :: cs => (false, cs)
  | cs => (false, cs)

/-- The digits of a part that may be left out. -/
def partDigits? (cs : List Char) : Option (List Nat) :=
  if cs.isEmpty then some [] else digitsOf? cs

/-- Whether a character introduces the power of ten. -/
def isExponentMark (c : Char) : Bool := c == 'e' || c == 'E'

/-- The power of ten, with its mark in front; zero if there is none. -/
def powerOfTen? : List Char → Option Int
  | [] => some 0
  | _ :: cs =>
    let (negative, unsigned) := takeSign cs
    (digitsOf? unsigned).map fun ds => signed negative (ofDigits ds)

/-- Reads digits with an optional point, and a power of ten. -/
def readDecimal? (negative : Bool) (cs : List Char) : Option Float := do
  let mantissa := cs.takeWhile fun c => !isExponentMark c
  let whole ← partDigits? (mantissa.takeWhile (· != '.'))
  let fraction ← partDigits? ((mantissa.dropWhile (· != '.')).drop 1)
  let power ← powerOfTen? (cs.dropWhile fun c => !isExponentMark c)
  let ds := whole ++ fraction
  if ds.isEmpty then none
  else some (ofScientific negative (ofDigits ds) (power - fraction.length))

/-- A number with optional sign and surrounding white space, in the digits of any script. -/
def readReal? (s : String) : Option Float :=
  let (negative, cs) := takeSign (Text.trimPadding s.toList)
  let word := String.ofList (cs.map Char.toLower)
  if word == "inf" || word == "infinity" then some (if negative then -(1.0 / 0.0) else 1.0 / 0.0)
  else if word == "nan" then some (0.0 / 0.0)
  else readDecimal? negative cs

end FeatureAudit.Decimal
