import FeatureAudit.Text.Ascending

/-!
# Classes of characters

A class is given by the code points at which membership changes, in increasing order: a code
point is a member when an odd number of changes lies at or below it.
-/

set_option autoImplicit false

namespace FeatureAudit.Text

/-- A class of characters, as the increasing code points where membership changes. -/
structure CharClass where
  /-- The code points at which membership changes. -/
  changes : Array Nat

/-- Membership of a character. -/
def CharClass.has (k : CharClass) (c : Char) : Bool := countUpTo id k.changes c.toNat % 2 == 1

end FeatureAudit.Text
