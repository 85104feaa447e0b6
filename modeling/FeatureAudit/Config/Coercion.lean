import FeatureAudit.Config.Document
import FeatureAudit.Config.Limit

/-!
# Forms of a field

Yes and no may come as a word, as zero or one; a threshold may come as a flag, as a number with a
fraction of zeros, or as text.
-/

set_option autoImplicit false

namespace FeatureAudit.Config

/-- Words for yes and no. -/
def readFlag? (s : String) : Option Bool :=
  let word := String.ofList (s.toList.map Char.toLower)
  if ["0", "off", "f", "false", "n", "no"].contains word then some false
  else if ["1", "on", "t", "true", "y", "yes"].contains word then some true
  else none

/-- Zero and one for no and yes. -/
def flagOfInt? (n : Int) : Option Bool :=
  if n = 0 then some false else if n = 1 then some true else none

/-- Yes or no, also as zero, one or a word. -/
def flag? : Value → Option Bool
  | .flag b => some b
  | .integer n => flagOfInt? n
  | .real x => (Decimal.Binary64.ofFloat x).whole?.bind flagOfInt?
  | .text s => readFlag? s
  | _ => none

/-- Whether a number that came as a floating-point number is in range. -/
def inRange (n : Int) : Bool := n.natAbs < Nat.pow 2 63

/-- A threshold: a whole number in one of its forms. -/
def limit? : Value → Option Int
  | .integer n => some n
  | .flag b => some (if b then 1 else 0)
  | .real x => (Decimal.Binary64.ofFloat x).whole?.filter inRange
  | .text s => Limit.read? s
  | _ => none

instance : FieldReader where
  flag?
  limit?
  flag?_flag _ := rfl
  limit?_integer _ := rfl

end FeatureAudit.Config
