import FeatureAudit.Text.Blank

/-!
# Words, quotations and placeholders

A word is made of ASCII letters, apostrophes and hyphens and begins with a letter. A quotation
stands between two quotes of one kind, and a placeholder between angle brackets.
-/

set_option autoImplicit false

namespace FeatureAudit.Step

/-- A letter that words are made of. -/
def isLetter (c : Char) : Bool := c.isAlpha

/-- A character that can go on with a word. -/
def isWordPart (c : Char) : Bool := isLetter c || c == '\x27' || c == '-'

/-- The lower case of a word. -/
def lowerWord (cs : List Char) : String := String.ofList (cs.map Char.toLower)

/-- The words of a text in lower case. -/
def wordsOf (cs : List Char) : List String :=
  (((cs.splitOnP fun c => !isWordPart c).map fun run => run.dropWhile fun c => !isLetter c).filter
    fun w => !w.isEmpty).map lowerWord

/-! ## Quotations and placeholders -/

/-- What follows the next quote `q`. -/
def afterQuote? (q : Char) (cs : List Char) : Option (List Char) :=
  match cs.dropWhile fun c => c != q with
  | [] => none
  | _ :: rest => some rest

/-- What follows a quotation at the beginning. -/
def afterQuotation? : List Char → Option (List Char)
  | [] => none
  | c :: cs => if c == '\x22' || c == '\x27' then afterQuote? c cs else none

/-- An angle bracket. -/
def isAngle (c : Char) : Bool := c == '<' || c == '>'

/-- What follows a placeholder at the beginning. -/
def afterPlaceholder? : List Char → Option (List Char)
  | '<' :: cs =>
    match cs.takeWhile (fun c => !isAngle c), cs.dropWhile (fun c => !isAngle c) with
    | _ :: _, '>' :: rest => some rest
    | _, _ => none
  | _ => none

/-- What follows a quotation or placeholder at the beginning. -/
def afterLiteral? (cs : List Char) : Option (List Char) :=
  match afterQuotation? cs with
  | some rest => some rest
  | none => afterPlaceholder? cs

/-- Puts `fill` in place of every piece that `after?` finds, from left to right; `fuel` bounds the
number of characters. -/
def substituteFrom (after? : List Char → Option (List Char)) (fill : List Char) :
    Nat → List Char → List Char
  | _, [] => []
  | 0, cs => cs
  | fuel + 1, c :: cs =>
    match after? (c :: cs) with
    | some rest => fill ++ substituteFrom after? fill fuel rest
    | none => c :: substituteFrom after? fill fuel cs

/-- Puts `fill` in place of every piece that `after?` finds. -/
def substitute (after? : List Char → Option (List Char)) (fill cs : List Char) : List Char :=
  substituteFrom after? fill cs.length cs

/-! ## Tokens -/

/-- A word in lower case, or a quotation or placeholder. -/
inductive Token where
  /-- A quotation or placeholder. -/
  | literal
  /-- A word. -/
  | word (w : String)
  deriving DecidableEq, Repr

/-- The tokens of a text; `fuel` bounds the number of characters. -/
def tokensFrom : Nat → List Char → List Token
  | _, [] => []
  | 0, _ => []
  | fuel + 1, c :: cs =>
    match afterLiteral? (c :: cs) with
    | some rest => .literal :: tokensFrom fuel rest
    | none =>
      if isLetter c then
        .word (lowerWord (c :: cs.takeWhile isWordPart)) :: tokensFrom fuel (cs.dropWhile isWordPart)
      else tokensFrom fuel cs

/-- The tokens of a text. -/
def tokens (cs : List Char) : List Token := tokensFrom cs.length cs

end FeatureAudit.Step
