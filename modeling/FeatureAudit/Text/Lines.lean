/-!
# Lines

A text is cut into lines at every line break. A carriage return followed by a line feed is one
break, and a break at the very end does not open another line.
-/

set_option autoImplicit false

namespace FeatureAudit.Text

/-- Characters that end a line: line feed to carriage return, the file, group and record
separators, the next-line control, and the line and paragraph separators. -/
def isBreak (c : Char) : Bool :=
  let n := c.toNat
  (10 ≤ n && n ≤ 13) || (28 ≤ n && n ≤ 30) || n == 0x85 || n == 0x2028 || n == 0x2029

/-- Puts a character in front of the first line. -/
def consLine (c : Char) : List (List Char) → List (List Char)
  | [] => [[c]]
  | l :: ls => (c :: l) :: ls

/-- The lines of a list of characters, without their breaks. -/
def linesOf : List Char → List (List Char)
  | [] => []
  | '\r' :: '\n' :: cs => [] :: linesOf cs
  | c :: cs => if isBreak c then [] :: linesOf cs else consLine c (linesOf cs)

/-- The lines of a text, without their breaks. -/
def lines (s : String) : List String := (linesOf s.toList).map String.ofList

end FeatureAudit.Text
