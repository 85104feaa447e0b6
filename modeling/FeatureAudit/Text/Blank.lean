/-!
# Blank characters, trimming and words

White space is decided by one predicate on characters. Trimming removes it from both ends of a
text, and the words of a text are the longest runs without it.
-/

set_option autoImplicit false

namespace FeatureAudit.Text

/-- White space: tab to carriage return, the four information separators, and the spaces of all
scripts. The zero-width space and the byte order mark are not among them. -/
def isBlank (c : Char) : Bool :=
  let n := c.toNat
  (9 ≤ n && n ≤ 13) || (28 ≤ n && n ≤ 32) || n == 0x85 || n == 0xA0 || n == 0x1680 ||
    (0x2000 ≤ n && n ≤ 0x200A) || n == 0x2028 || n == 0x2029 || n == 0x202F || n == 0x205F ||
    n == 0x3000

/-- White space that may stand around a number: the information separators are left out. -/
def isPadding (c : Char) : Bool := isBlank c && !(28 ≤ c.toNat && c.toNat ≤ 31)

/-- Drops the white space around a number. -/
def trimPadding (cs : List Char) : List Char :=
  ((cs.dropWhile isPadding).reverse.dropWhile isPadding).reverse

/-- Drops leading white space. -/
def trimStart (cs : List Char) : List Char := cs.dropWhile isBlank

/-- Drops trailing white space. -/
def trimEnd (cs : List Char) : List Char := (cs.reverse.dropWhile isBlank).reverse

/-- Drops white space at both ends. -/
def trimChars (cs : List Char) : List Char := trimEnd (trimStart cs)

/-- Drops white space at both ends of a text. -/
def trim (s : String) : String := String.ofList (trimChars s.toList)

/-- The longest runs without white space, in order. -/
def wordsOf (cs : List Char) : List (List Char) :=
  (cs.splitOnP isBlank).filter fun w => !w.isEmpty

/-- The longest runs without white space of a text. -/
def words (s : String) : List String := (wordsOf s.toList).map String.ofList

end FeatureAudit.Text
