import FeatureAudit.Text.Alphanumeric

/-!
# Word characters

The characters that patterns count as part of a word.
-/

set_option autoImplicit false

namespace FeatureAudit.Text

/-- A letter or a number of any script. -/
def isAlphanumeric (c : Char) : Bool :=
  if c.toNat < 128 then c.isAlphanum else alphanumerics.has c

/-- A letter, a number or an underscore. -/
def isWordChar (c : Char) : Bool := c == '_' || isAlphanumeric c

end FeatureAudit.Text
