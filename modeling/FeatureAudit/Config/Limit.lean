import FeatureAudit.Decimal.Integer

/-!
# Thresholds in text

A threshold can be written as text. The text is brought to a plain form, a whole number without
zeros in front, before it is read: white space around it and a plus sign are dropped, then zeros
in front together with the underscores among them, then a fraction of zeros, then underscores
between digits. What is left has to be a plain number.
-/

set_option autoImplicit false

namespace FeatureAudit.Config.Limit

/-- What can follow the zeros in front: a number, which may have a sign of its own. -/
def beginsNumber (c : Char) : Bool := c.isDigit || c == '-'

/-- Drops zeros and underscores after a zero. The last of them stays if nothing but a fraction
follows. -/
def afterZeros (last : Char) : List Char → Option (List Char)
  | [] => some [last]
  | c :: cs =>
    if c == '0' || c == '_' then afterZeros c cs
    else if c == '.' then some (last :: c :: cs)
    else if beginsNumber c then some (c :: cs)
    else none

/-- Drops the zeros in front. -/
def withoutZeros? : List Char → Option (List Char)
  | [] => none
  | c :: cs =>
    if c == '0' then afterZeros c cs else if beginsNumber c then some (c :: cs) else none

/-- Drops a fraction that is written as zeros. -/
def withoutFraction (cs : List Char) : List Char :=
  match cs.dropWhile (· != '.') with
  | _ :: c :: zeros => if (c :: zeros).all (· == '0') then cs.takeWhile (· != '.') else cs
  | _ => cs

/-- Whether two underscores stand side by side. -/
def hasDoubleUnderscore : List Char → Bool
  | '_' :: '_' :: _ => true
  | _ :: cs => hasDoubleUnderscore cs
  | [] => false

/-- Drops underscores that stand alone, unless one is at an end. -/
def withoutUnderscores (cs : List Char) : List Char :=
  if cs.head? == some '_' || cs.getLast? == some '_' || hasDoubleUnderscore cs then cs
  else cs.filter (· != '_')

/-- The digits of a plain number: a zero alone, or digits that begin with no zero and are not more
than a number in text may have. -/
def plainDigits? (cs : List Char) : Option Nat :=
  if cs == ['0'] then some 0
  else if cs.isEmpty || cs.head? == some '0' || !cs.all Char.isDigit then none
  else if Decimal.digitLimit < cs.length then none
  else some (Decimal.ofDigits (cs.map fun c => c.toNat - '0'.toNat))

/-- A plain number, which may have a minus sign. -/
def plainNumber? : List Char → Option Int
  | '-' :: ds => (plainDigits? ds).map fun n => -(n : Int)
  | ds => (plainDigits? ds).map Int.ofNat

/-- The plain form of an unsigned text. -/
def plain? (cs : List Char) : Option (List Char) :=
  (withoutZeros? cs).map fun ds => withoutUnderscores (withoutFraction ds)

/-- The threshold that a text writes. -/
def read? (s : String) : Option Int :=
  match Text.trimPadding s.toList with
  | '+' :: '-' :: _ => none
  | '+' :: cs => (plain? cs).bind plainNumber?
  | '-' :: cs => (plain? cs).bind fun ds => plainNumber? ('-' :: ds)
  | cs => (plain? cs).bind plainNumber?

end FeatureAudit.Config.Limit
