import FeatureAudit.Abort
import FeatureAudit.Decimal.Integer
import FeatureAudit.Pattern.Choice
import FeatureAudit.Text.Identifier

/-!
# Reading patterns

The written form of patterns: alternatives, groups, classes in brackets, repetitions, anchors,
escapes and looks ahead. A pattern that is not well formed is refused, and so are looks behind,
references to groups, escapes by number or name, and groups that are conditional, atomic, a comment
or change how the rest is read. A text is read from left to right, and its first fault is the one
that counts.
-/

set_option autoImplicit false

namespace FeatureAudit.Pattern

/-- What is not there is not well formed. -/
def required {α : Type} : Option α → Except Fault α
  | some a => .ok a
  | none => .error .malformed

/-- An anchor, which cannot be repeated. -/
def isAnchor : Pattern → Bool
  | .textStart | .lineEnd | .textEnd | .wordEdge _ => true
  | _ => false

/-- A repetition, which cannot be repeated again. -/
def isTimes : Pattern → Bool
  | .times .. => true
  | _ => false

/-! ## Escapes and classes -/

/-- The kind of an escape. -/
def kindEscape? : Char → Option ClassItem
  | 's' => some (.kind .blank false)
  | 'S' => some (.kind .blank true)
  | 'd' => some (.kind .digit false)
  | 'D' => some (.kind .digit true)
  | 'w' => some (.kind .word false)
  | 'W' => some (.kind .word true)
  | _ => none

/-- The character of an escape; letters and digits without a meaning are refused. -/
def charEscape? : Char → Option Char
  | 'n' => some '\n'
  | 't' => some '\t'
  | 'r' => some '\r'
  | 'f' => some '\x0c'
  | 'v' => some '\x0b'
  | 'a' => some '\x07'
  | c => if c.isAlphanum then none else some c

/-- An escape outside a class. -/
def escape? (c : Char) : Option Pattern :=
  match kindEscape? c with
  | some item => some (.set false [item])
  | none =>
    match c with
    | 'b' => some (.wordEdge false)
    | 'B' => some (.wordEdge true)
    | 'A' => some .textStart
    | 'Z' => some .textEnd
    | c => (charEscape? c).map .char

/-- A member of a class, and the rest. -/
def classMember? : List Char → Option (ClassItem × List Char)
  | [] => none
  | ['\\'] => none
  | '\\' :: 'b' :: cs => some (.single '\x08', cs)
  | '\\' :: c :: cs =>
    match kindEscape? c with
    | some item => some (item, cs)
    | none => (charEscape? c).map fun d => (.single d, cs)
  | c :: cs => some (.single c, cs)

/-- The members of a class up to the closing bracket; the first member can be a bracket itself.
`isFirst` tells that no member stands before, and `fuel` bounds their number. -/
def classItems : Nat → Bool → List Char → Option (List ClassItem × List Char)
  | 0, _, _ => none
  | fuel + 1, isFirst, cs =>
    match cs, isFirst with
    | ']' :: rest, false => some ([], rest)
    | cs, _ => do
      let (item, rest) ← classMember? cs
      match rest with
      | '-' :: ']' :: rest => some ([item, .single '-'], rest)
      | '-' :: rest =>
        let (last, rest) ← classMember? rest
        match item, last with
        | .single low, .single high =>
          if high.toNat < low.toNat then none
          else (classItems fuel false rest).map fun (items, rest) =>
            (.range low high :: items, rest)
        | _, _ => none
      | rest => (classItems fuel false rest).map fun (items, rest) => (item :: items, rest)

/-- A class after its opening bracket. -/
def class? (cs : List Char) : Option (Pattern × List Char) :=
  let (negated, members) := match cs with
    | '^' :: rest => (true, rest)
    | rest => (false, rest)
  (classItems (members.length + 1) true members).map fun (items, rest) =>
    (ofClass negated items, rest)

/-! ## Repetitions -/

/-- Bounds have to be below this number of turns. -/
def maxTurns : Nat := 4294967295

/-- The bound that digits write, if there are any. -/
def bound (digits : List Char) : Except Fault (Option Nat) :=
  let n := Decimal.ofDigits (digits.map fun c => c.toNat - '0'.toNat)
  if digits.isEmpty then .ok none
  else if Decimal.digitLimit < digits.length then .error .longBound
  else if maxTurns ≤ n then .error .hugeBound
  else .ok (some n)

/-- The digits of the bounds of a repetition after its opening brace, and the rest after the
closing brace. -/
def boundDigits? (cs : List Char) : Option ((List Char × List Char) × List Char) :=
  let low := cs.takeWhile Char.isDigit
  match cs.dropWhile Char.isDigit with
  | ',' :: rest =>
    match rest.dropWhile Char.isDigit with
    | '\x7d' :: after => some ((low, rest.takeWhile Char.isDigit), after)
    | _ => none
  | '\x7d' :: after => if low.isEmpty then none else some ((low, low), after)
  | _ => none

/-- The mark of a repetition at the beginning, if there is one: its bounds and the rest. A brace
that gives no bounds is an ordinary character. A backslash that ends the text comes to light before
the bounds are read. -/
def repetition : List Char → Except Fault (Option ((Nat × Option Nat) × List Char))
  | '*' :: cs => .ok (some ((0, none), cs))
  | '+' :: cs => .ok (some ((1, none), cs))
  | '?' :: cs => .ok (some ((0, some 1), cs))
  | '\x7b' :: cs =>
    match boundDigits? cs with
    | none => .ok none
    | some (_, ['\\']) => .error .malformed
    | some ((lowDigits, highDigits), rest) => do
      let low ← bound lowDigits
      let high ← bound highDigits
      .ok (some ((low.getD 0, high), rest))
  | _ => .ok none

/-- The preference that follows a repetition, and the rest. -/
def greed : List Char → Greed × List Char
  | '?' :: cs => (.lazy, cs)
  | '+' :: cs => (.possessive, cs)
  | cs => (.greedy, cs)

/-- A part of a sequence that is being read. -/
inductive Part where
  /-- A pattern. -/
  | piece (p : Pattern)
  /-- The patterns of a group without a name or number. They become parts of the sequence, unless
  the group is repeated. -/
  | bundle (ps : List Pattern)

/-- The patterns of a part. -/
def Part.pieces : Part → List Pattern
  | .piece p => [p]
  | .bundle ps => ps

/-- Whether a part can be repeated. -/
def Part.isRepeatable : Part → Bool
  | .piece p => !isAnchor p && !isTimes p
  | .bundle _ => true

/-- Repeats the last of the parts, which are in reverse. -/
def repeatLast (low : Nat) (high : Option Nat) (g : Greed) : List Part → Option (List Part)
  | [] => none
  | part :: parts =>
    if !part.isRepeatable || high.any (· < low) then none
    else some (.piece (.times g low high (sequence part.pieces)) :: parts)

/-! ## Groups and sequences -/

/-- How a parenthesis opens. -/
inductive Opening where
  /-- A group, possibly with a name. -/
  | group (name : Option String)
  /-- A group that only holds its patterns together. -/
  | bundle
  /-- A look ahead. -/
  | ahead (negated : Bool)
  /-- The mark that case is ignored, which stands alone. -/
  | ignoreCase

/-- Reads what follows a parenthesis. -/
def opening? : List Char → Option (Opening × List Char)
  | '?' :: ':' :: cs => some (.bundle, cs)
  | '?' :: '=' :: cs => some (.ahead false, cs)
  | '?' :: '!' :: cs => some (.ahead true, cs)
  | '?' :: 'i' :: ':' :: cs => some (.group none, cs)
  | '?' :: 'i' :: ')' :: cs => some (.ignoreCase, cs)
  | '?' :: 'P' :: '<' :: cs =>
    let name := cs.takeWhile (· != '>')
    match cs.dropWhile (· != '>') with
    | '>' :: rest =>
      if Text.isIdentifier name then some (.group (some (String.ofList name)), rest) else none
    | _ => none
  | '?' :: _ => none
  | cs => some (.group none, cs)

/-- The part that a parenthesis makes of its contents. -/
def Opening.part (contents : List Pattern) : Opening → Part
  | .group name => .piece (.group name (sequence contents))
  | .bundle => .bundle contents
  | .ahead negated => .piece (.ahead negated (sequence contents))
  | .ignoreCase => .bundle contents

/-- A single character that is no operator. -/
def plain : Char → Pattern
  | '.' => .any
  | '^' => .textStart
  | '$' => .lineEnd
  | c => .char c

/-- What is left of a text, with the names of the groups that were opened before. -/
structure Scan where
  /-- The names of groups, the last one first. -/
  names : List String
  /-- The rest of the text. -/
  rest : List Char

/-- The scan after an opening, before the given rest. A name is given to one group only. -/
def Scan.entering? (s : Scan) (rest : List Char) : Opening → Option Scan
  | .group (some name) => if s.names.contains name then none else some ⟨name :: s.names, rest⟩
  | _ => some { s with rest }

mutual

/-- Alternatives up to a closing parenthesis or the end, as patterns one after the other. `first`
tells that nothing of the pattern stands before. -/
def readChoice : Nat → Bool → Scan → Except Fault (List Pattern × Scan)
  | 0, _, _ => .error .malformed
  | fuel + 1, first, s => do
    let (ps, s) ← readSequence fuel first [] s
    let (others, s) ← readOthers fuel s
    .ok (choice ps others, s)

/-- Further alternatives, each behind a bar. -/
def readOthers : Nat → Scan → Except Fault (List (List Pattern) × Scan)
  | 0, _ => .error .malformed
  | fuel + 1, ⟨names, '|' :: rest⟩ => do
    let (ps, s) ← readSequence fuel false [] ⟨names, rest⟩
    let (others, s) ← readOthers fuel s
    .ok (ps :: others, s)
  | _, s => .ok ([], s)

/-- A sequence up to a bar, a closing parenthesis or the end; `parts` holds its parts so far in
reverse. -/
def readSequence : Nat → Bool → List Part → Scan → Except Fault (List Pattern × Scan)
  | 0, _, _, _ => .error .malformed
  | fuel + 1, first, parts, s => do
    match ← repetition s.rest with
    | some ((low, high), rest) =>
      let (g, rest) := greed rest
      let parts ← required (repeatLast low high g parts)
      readSequence fuel first parts { s with rest }
    | none =>
      match s.rest with
      | [] => .ok (parts.reverse.flatMap Part.pieces, s)
      | '|' :: _ => .ok (parts.reverse.flatMap Part.pieces, s)
      | ')' :: _ => .ok (parts.reverse.flatMap Part.pieces, s)
      | ['\\'] => .error .malformed
      | '\\' :: c :: rest =>
        let p ← required (escape? c)
        readSequence fuel first (.piece p :: parts) { s with rest }
      | '[' :: rest =>
        let (p, rest) ← required (class? rest)
        readSequence fuel first (.piece p :: parts) { s with rest }
      | '(' :: rest =>
        let (o, rest) ← required (opening? rest)
        match o with
        | .ignoreCase =>
          if first && parts.isEmpty then readSequence fuel first parts { s with rest }
          else .error .malformed
        | o =>
          let inner ← required (s.entering? rest o)
          match ← readChoice fuel false inner with
          | (contents, ⟨names, ')' :: rest⟩) =>
            readSequence fuel first (o.part contents :: parts) ⟨names, rest⟩
          | _ => .error .malformed
      | c :: rest => readSequence fuel first (.piece (plain c) :: parts) { s with rest }

end

/-- The pattern that a text writes. -/
def read (text : String) : Except Fault Pattern :=
  let cs := text.toList
  match readChoice (2 * cs.length + 4) true ⟨[], cs⟩ with
  | .ok (ps, ⟨_, []⟩) => .ok (sequence ps)
  | .ok _ => .error .malformed
  | .error fault => .error fault

end FeatureAudit.Pattern
