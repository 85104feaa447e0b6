import FeatureAudit.Toml.Number

/-!
# Texts and keys of a document

Texts stand between quotes, with escapes between double quotes and without between single ones; a
text between triple quotes may go over several lines. A key is a path of bare or quoted names.
-/

set_option autoImplicit false

namespace FeatureAudit.Toml

/-- Space and tab. -/
def isSpace (c : Char) : Bool := c == ' ' || c == '\t'

/-- Drops spaces and tabs. -/
def skipSpace (cs : List Char) : List Char := cs.dropWhile isSpace

/-- Space, tab and line feed. -/
def isGap (c : Char) : Bool := isSpace c || c == '\n'

/-- Control characters besides the tab. They are allowed nowhere. -/
def isControl (c : Char) : Bool := (c.toNat < 32 && c != '\t') || c.toNat == 127

/-- The quote of texts with escapes. -/
def doubleQuote : Char := '\x22'

/-- The quote of texts without escapes. -/
def singleQuote : Char := '\x27'

/-! ## Escapes -/

/-- The character of a code point, if there is one. -/
def charOf? (n : Nat) : Option Char :=
  if n < 0xD800 || (0xDFFF < n && n < 0x110000) then some (Char.ofNat n) else none

/-- The character of an exact number of digits to the base sixteen. -/
def hexChar? (count : Nat) (cs : List Char) : Option (List Char × List Char) :=
  let ds := cs.take count
  if ds.length == count && ds.all (isDigitOf 16) then
    (charOf? (ofDigits 16 ds)).map fun c => ([c], cs.drop count)
  else none

/-- What an escape of one letter stands for. -/
def letterEscape? (c : Char) : Option Char :=
  if c == 'b' then some '\x08'
  else if c == 't' then some '\t'
  else if c == 'n' then some '\n'
  else if c == 'f' then some '\x0c'
  else if c == 'r' then some '\r'
  else if c == doubleQuote || c == '\\' then some c
  else none

/-- What follows a line end that is escaped: spaces up to the line end and all gaps after it are
left out. -/
def afterLineEnd? (cs : List Char) : Option (List Char) :=
  match skipSpace cs with
  | [] => some []
  | '\n' :: rest => some (rest.dropWhile isGap)
  | _ => none

/-- What the escape after a backslash stands for, with the rest. -/
def escape? (multiline : Bool) : List Char → Option (List Char × List Char)
  | 'u' :: cs => hexChar? 4 cs
  | 'U' :: cs => hexChar? 8 cs
  | c :: cs =>
    if multiline && isGap c then (afterLineEnd? (c :: cs)).map fun rest => ([], rest)
    else (letterEscape? c).map fun d => ([d], cs)
  | [] => none

/-! ## Texts -/

/-- Three times a character. -/
def triple (c : Char) : List Char := [c, c, c]

/-- The text up to a double quote, with escapes replaced. -/
def escapedText (multiline : Bool) : Nat → List Char → Option (List Char × List Char)
  | 0, _ => none
  | _, [] => none
  | fuel + 1, c :: cs =>
    if c == doubleQuote then
      if multiline then
        match (triple doubleQuote).isPrefixOf? (c :: cs) with
        | some rest => some ([], rest)
        | none => (escapedText multiline fuel cs).map fun (s, rest) => (c :: s, rest)
      else some ([], cs)
    else if c == '\\' then
      (escape? multiline cs).bind fun (d, cs) =>
        (escapedText multiline fuel cs).map fun (s, rest) => (d ++ s, rest)
    else if isControl c && !(multiline && c == '\n') then none
    else (escapedText multiline fuel cs).map fun (s, rest) => (c :: s, rest)

/-- The text up to a single quote, or three of them, as it stands. -/
def plainText (multiline : Bool) : List Char → Option (List Char × List Char)
  | [] => none
  | c :: cs =>
    if c == singleQuote && !multiline then some ([], cs)
    else
      match if multiline then (triple singleQuote).isPrefixOf? (c :: cs) else none with
      | some rest => some ([], rest)
      | none =>
        if isControl c && !(multiline && c == '\n') then none
        else (plainText multiline cs).map fun (s, rest) => (c :: s, rest)

/-- The text after an opening quote. -/
def textAfter (quote : Char) (multiline : Bool) (cs : List Char) :
    Option (List Char × List Char) :=
  if quote == doubleQuote then escapedText multiline (cs.length + 1) cs else plainText multiline cs

/-- Up to two quotes more that belong to a text between triple quotes. -/
def extraQuotes (quote : Char) (rest : List Char) : List Char × List Char :=
  let extra := (rest.take 2).takeWhile fun c => c == quote
  (extra, rest.drop extra.length)

/-- A text of several lines, after its opening quotes; a line feed there is left out. -/
def multilineText (quote : Char) (cs : List Char) : Option (List Char × List Char) :=
  (textAfter quote true ((mark? '\n' cs).getD cs)).map fun (s, rest) =>
    let (extra, rest) := extraQuotes quote rest
    (s ++ extra, rest)

/-- A text on one line. -/
def lineText? : List Char → Option (List Char × List Char)
  | c :: cs =>
    if c == doubleQuote || c == singleQuote then textAfter c false cs else none
  | [] => none

/-- A text in any of its forms. -/
def text? (cs : List Char) : Option (List Char × List Char) :=
  match (triple doubleQuote).isPrefixOf? cs, (triple singleQuote).isPrefixOf? cs with
  | some rest, _ => multilineText doubleQuote rest
  | none, some rest => multilineText singleQuote rest
  | none, none => lineText? cs

/-! ## Keys -/

/-- A path of names. -/
abbrev Path := List String

/-- Characters of bare names. -/
def isBare (c : Char) : Bool := c.isAlphanum || c == '-' || c == '_'

/-- A name, bare or quoted. -/
def name? (cs : List Char) : Option (String × List Char) :=
  let bare := cs.takeWhile isBare
  if bare.isEmpty then (lineText? cs).map fun (s, rest) => (String.ofList s, rest)
  else some (String.ofList bare, cs.dropWhile isBare)

/-- A key: names with points between them. -/
def keyFrom : Nat → List Char → Option (Path × List Char)
  | 0, _ => none
  | fuel + 1, cs =>
    (name? cs).bind fun (name, rest) =>
      match skipSpace rest with
      | '.' :: rest => (keyFrom fuel (skipSpace rest)).map fun (key, rest) => (name :: key, rest)
      | rest => some ([name], rest)

/-- A key with the rest after it. -/
def key? (cs : List Char) : Option (Path × List Char) := keyFrom (cs.length + 1) cs

end FeatureAudit.Toml
