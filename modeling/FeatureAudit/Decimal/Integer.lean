import FeatureAudit.Text.Blank
import FeatureAudit.Text.Digit

/-!
# Whole numbers in text

Digits may be set apart by single underscores between digits. A number in text has a limited
number of digits, zeros in front included.
-/

set_option autoImplicit false

namespace FeatureAudit.Decimal

/-- The most digits that a number in text may have. -/
def digitLimit : Nat := 4300

/-- The least number with too many digits. -/
def digitBound : Nat := Nat.pow 10 digitLimit

/-- The number that digits write, the most significant first. -/
def ofDigits (ds : List Nat) : Nat := ds.foldl (fun n d => n * 10 + d) 0

/-- The values of the digits of a text of one or more digits, in any script. -/
def digitsOf? : List Char → Option (List Nat)
  | [] => none
  | [c] => (Text.digitValue? c).map fun d => [d]
  | c :: '_' :: cs => (Text.digitValue? c).bind fun d => (digitsOf? cs).map fun ds => d :: ds
  | c :: cs => (Text.digitValue? c).bind fun d => (digitsOf? cs).map fun ds => d :: ds

/-- The number that digits write, unless they are too many. -/
def readNatural? (cs : List Char) : Option Nat :=
  ((digitsOf? cs).filter fun ds => ds.length ≤ digitLimit).map ofDigits

/-- Reads an optional sign and the digits that follow it. -/
def readSigned? : List Char → Option Int
  | '-' :: cs => (readNatural? cs).map fun n => -(n : Int)
  | '+' :: cs => (readNatural? cs).map Int.ofNat
  | cs => (readNatural? cs).map Int.ofNat

/-- A whole number with optional sign and surrounding white space, in the digits of any script. -/
def readInteger? (s : String) : Option Int := readSigned? (Text.trimPadding s.toList)

end FeatureAudit.Decimal
