import FeatureAudit.Toml.Tables

/-!
# Configuration documents in text form

The reader of TOML documents. A document is a sequence of lines with entries and headers; entries
go to the table of the header above them. Tables keep the order in which entries appear.
-/

set_option autoImplicit false

namespace FeatureAudit.Toml

/-- Why a text gives no document. -/
inductive Fault where
  /-- It is not well formed. -/
  | malformed
  /-- A decimal number has more digits than can be read. -/
  | tooManyDigits
  deriving DecidableEq, Repr

/-- What is not there is not well formed. -/
def required {α : Type} : Option α → Except Fault α
  | some a => .ok a
  | none => .error .malformed

/-! ## Gaps and comments -/

/-- Drops gaps and comments; `inComment` tells whether a comment is open. -/
def skipGaps (inComment : Bool) : List Char → Option (List Char)
  | [] => some []
  | c :: cs =>
    if inComment then
      if c == '\n' then skipGaps false cs
      else if isControl c then none
      else skipGaps true cs
    else if isGap c then skipGaps false cs
    else if c == '#' then skipGaps true cs
    else some (c :: cs)

/-- The rest of a line after a statement: spaces and a comment, with the lines below it. -/
def endOfLine? (cs : List Char) : Option (List Char) :=
  match skipSpace cs with
  | [] => some []
  | '\n' :: rest => some rest
  | '#' :: rest =>
    if (rest.takeWhile fun c => c != '\n').any isControl then none
    else some ((rest.dropWhile fun c => c != '\n').drop 1)
  | _ => none

/-! ## Values -/

/-- A value without parts. -/
def scalar? (cs : List Char) : Option (Value × List Char) :=
  ((text? cs).map fun (s, rest) => (Value.text (String.ofList s), rest)).or <|
    (("true".toList.isPrefixOf? cs).map fun rest => (Value.flag true, rest)).or <|
      (("false".toList.isPrefixOf? cs).map fun rest => (Value.flag false, rest)).or <|
        (moment? cs).or <| (number? cs).or (specialNumber? cs)

/-- Whether a decimal number with too many digits stands at the beginning. Numbers of other bases
have as many digits as they like. -/
def hasTooManyDigits (cs : List Char) : Bool :=
  match basedInteger? cs, decimal? cs with
  | none, some (.integer n, _) => Decimal.digitBound ≤ n.natAbs
  | _, _ => false

/-- A value without parts, unless it is a number with too many digits. -/
def scalar (cs : List Char) : Except Fault (Value × List Char) :=
  match scalar? cs with
  | some (.integer n, rest) =>
    if hasTooManyDigits cs then .error .tooManyDigits else .ok (.integer n, rest)
  | found => required found

/-- A key and the characters of its value. -/
def keyAndSign? (cs : List Char) : Option (Path × List Char) :=
  (key? cs).bind fun (key, rest) => (mark? '=' rest).map fun rest => (key, skipSpace rest)

mutual

/-- A value: an array, an inline table, or a value without parts. -/
def value (fuel : Nat) (cs : List Char) : Except Fault (Value × List Char) :=
  match fuel with
  | 0 => .error .malformed
  | fuel + 1 =>
    match cs with
    | '[' :: cs => (items fuel cs).map fun (vs, rest) => (.list vs, rest)
    | '\x7b' :: cs =>
      match skipSpace cs with
      | '\x7d' :: rest => .ok (.table [], rest)
      | rest => (members fuel ⟨[], []⟩ rest).map fun (table, rest) => (.table table, rest)
    | cs => scalar cs

/-- The items of an array up to its end. -/
def items (fuel : Nat) (cs : List Char) : Except Fault (List Value × List Char) :=
  match fuel with
  | 0 => .error .malformed
  | fuel + 1 => do
    match ← required (skipGaps false cs) with
    | ']' :: rest => .ok ([], rest)
    | rest =>
      let (v, rest) ← value fuel rest
      match ← required (skipGaps false rest) with
      | ']' :: rest => .ok ([v], rest)
      | ',' :: rest =>
        let (vs, rest) ← items fuel rest
        .ok (v :: vs, rest)
      | _ => .error .malformed

/-- The entries of an inline table up to its end. -/
def members (fuel : Nat) (draft : InlineDraft) (cs : List Char) :
    Except Fault (Entries × List Char) :=
  match fuel with
  | 0 => .error .malformed
  | fuel + 1 => do
    let (key, rest) ← required (keyAndSign? cs)
    let (v, rest) ← value fuel rest
    let draft ← required (draft.assign key v)
    match skipSpace rest with
    | '\x7d' :: rest => .ok (draft.root, rest)
    | ',' :: rest => members fuel draft (skipSpace rest)
    | _ => .error .malformed

end

/-! ## Statements -/

/-- The header after its opening brackets. -/
def header? (closing : List Char) (cs : List Char) : Option (Path × List Char) :=
  (key? (skipSpace cs)).bind fun (key, rest) =>
    (closing.isPrefixOf? rest).map fun rest => (key, rest)

/-- Applies the statement that opens the characters, if it is one, and gives the rest. -/
def statement (d : Draft) : List Char → Except Fault (Draft × List Char)
  | '[' :: '[' :: cs => required <|
    (header? [']', ']'] cs).bind fun (key, rest) =>
      (d.settle.openArrayTable key).map fun d => (d, rest)
  | '[' :: cs => required <|
    (header? [']'] cs).bind fun (key, rest) => (d.settle.openTable key).map fun d => (d, rest)
  | cs =>
    if cs.isEmpty || cs.head? == some '\n' || cs.head? == some '#' then .ok (d, cs)
    else do
      let (key, rest) ← required (keyAndSign? cs)
      let (v, rest) ← value (2 * rest.length + 2) rest
      let d ← required (d.assign key v)
      .ok (d, rest)

/-- Applies all statements. -/
def statements (d : Draft) : Nat → List Char → Except Fault Draft
  | 0, _ => .error .malformed
  | _, [] => .ok d
  | fuel + 1, cs => do
    let (d, rest) ← statement d (skipSpace cs)
    let rest ← required (endOfLine? rest)
    statements d fuel rest

/-- A carriage return before a line feed is left out. -/
def joinLineEnds : List Char → List Char
  | '\r' :: '\n' :: cs => '\n' :: joinLineEnds cs
  | c :: cs => c :: joinLineEnds cs
  | [] => []

/-- Reads a document. The first fault counts. -/
def read (s : String) : Except Fault Entries :=
  let cs := joinLineEnds s.toList
  (statements .empty (cs.length + 1) cs).map Draft.root

end FeatureAudit.Toml
