import FeatureAudit.Text.Blank
import FeatureAudit.Text.Case
import FeatureAudit.Text.Digit
import FeatureAudit.Text.Order
import FeatureAudit.Text.WordChar

/-!
# Patterns

Patterns describe phrases regardless of case. A pattern is matched by trying its alternatives in
order and going back where the rest does not match; the leftmost place where it matches counts,
and at that place the first way to match.
-/

set_option autoImplicit false

namespace FeatureAudit

namespace Pattern

/-- Kinds of characters that have an escape of their own. -/
inductive CharKind where
  /-- White space. -/
  | blank
  /-- Decimal digits. -/
  | digit
  /-- Letters, numbers and the underscore. -/
  | word
  deriving DecidableEq, Repr

/-- Whether a character is of a kind. -/
def CharKind.has : CharKind → Char → Bool
  | .blank, c => Text.isBlank c
  | .digit, c => Text.isDecimalDigit c
  | .word, c => Text.isWordChar c

/-- A member of a class of characters. -/
inductive ClassItem where
  /-- A character. -/
  | single (c : Char)
  /-- All characters between two. -/
  | range (low high : Char)
  /-- All characters of a kind, or all others. -/
  | kind (k : CharKind) (negated : Bool)
  deriving DecidableEq, Repr

/-- How a repetition prefers its number of turns. -/
inductive Greed where
  /-- As many as possible. -/
  | greedy
  /-- As few as possible. -/
  | lazy
  /-- As many as possible and never fewer, each matched in its first way only. -/
  | possessive
  deriving DecidableEq, Repr

end Pattern

/-- A pattern. -/
inductive Pattern where
  /-- Matches the empty text. -/
  | empty
  /-- A character, in any case. -/
  | char (c : Char)
  /-- Any character but one, in any case. -/
  | other (c : Char)
  /-- Any character but a line feed. -/
  | any
  /-- A character of a class, or one outside it. -/
  | set (negated : Bool) (items : List Pattern.ClassItem)
  /-- The beginning of the text. -/
  | textStart
  /-- The end of the text, or a line feed at the end. -/
  | lineEnd
  /-- The end of the text. -/
  | textEnd
  /-- An edge of a word, or a place that is none. An empty text has neither. -/
  | wordEdge (negated : Bool)
  /-- One after the other. -/
  | seq (first second : Pattern)
  /-- The first, or else the second. -/
  | alt (first second : Pattern)
  /-- Repetition, at least `low` and at most `high` times. -/
  | times (greed : Pattern.Greed) (low : Nat) (high : Option Nat) (body : Pattern)
  /-- A part in parentheses, possibly with a name. -/
  | group (name : Option String) (body : Pattern)
  /-- A look at what follows, which has to match or must not. -/
  | ahead (negated : Bool) (body : Pattern)
  deriving DecidableEq, Repr

namespace Pattern

/-- The characters beyond ASCII that have another lower case, each behind that lower case. -/
def capitals : Array (Nat × Nat) :=
  let pairs := Text.Case.loweringRuns.toList.flatMap Text.Case.Run.pairs ++
    Text.Case.loweringExpansions.toList.map fun (n, image) => (n, image.headD n)
  (Text.sortBy (fun a b => Text.compareNats a.1 b.1) (pairs.map Prod.swap)).toArray

/-- Capital letters whose lower case is `c`. -/
def capitalsOf (c : Char) : List Char :=
  (if c.isLower then [c.toUpper] else []) ++
    (Text.entriesAt Prod.fst capitals c.toNat).map fun e => Char.ofNat e.2

/-- All characters that are alike but for case. -/
def variants (c : Char) : List Char :=
  let l := Text.simpleLower c
  c :: (l :: (Text.kindred l).map Char.ofNat).flatMap fun d => d :: capitalsOf d

/-- Whether a character lies in one of the supplementary planes. -/
def isSupplementary (c : Char) : Bool := 0xFFFF < c.toNat

/-- The characters that stand for `d` in a range up to `high`. A range that reaches into the
supplementary planes also counts the first character of the upper case. -/
def standIns (high d : Char) : List Char :=
  if isSupplementary high then Text.simpleUpper (Text.simpleLower d) :: variants d else variants d

/-- Whether a character is a member, where case is ignored. A supplementary character that is a
member by itself stands for its small form only, so as a capital letter it stands for nothing. -/
def ClassItem.has : ClassItem → Char → Bool
  | .single c, d => if isSupplementary c then Text.simpleLower d == c else Text.alike c d
  | .range low high, d =>
    let within (v : Char) : Bool := low.toNat ≤ v.toNat && v.toNat ≤ high.toNat
    if d.toNat < 128 && high.toNat < 128 then within d.toLower || within d.toUpper
    else (standIns high d).any within
  | .kind k negated, d => k.has d != negated

/-! ## Matching

A place in a text is the number of characters before it. -/

/-- What is tried at the place where a part has matched; gives the place where all ends. -/
abbrev Next := Nat → Option Nat

/-- Whether a character with a property stands behind a place. -/
def stands (text : Array Char) (p : Char → Bool) (i : Nat) : Bool :=
  if h : i < text.size then p text[i] else false

/-- Whether a character with a property stands before a place. -/
def stood (text : Array Char) (p : Char → Bool) : Nat → Bool
  | 0 => false
  | i + 1 => stands text p i

/-- Whether a place is at the edge of a word. -/
def atWordEdge (text : Array Char) (i : Nat) : Bool :=
  stood text Text.isWordChar i != stands text Text.isWordChar i

/-- Whether a place is at the end, or before a line feed at the end. -/
def atLineEnd (text : Array Char) (i : Nat) : Bool :=
  i == text.size || (i + 1 == text.size && stands text (· == '\n') i)

/-- The property of the one character that a pattern matches, if it matches one at all times. -/
def single? : Pattern → Option (Char → Bool)
  | .char c => some (Text.alike c)
  | .other c => some fun d => !Text.alike c d
  | .any => some fun d => d != '\n'
  | .set negated items => some fun d => items.any (·.has d) != negated
  | .group _ p => single? p
  | _ => none

/-! ### Repetition of one character

The turns of such a repetition are the places of a run of characters, so they are tried one after
the other without going back into the body. -/

/-- The number of characters with a property behind a place, counted up to a bound. -/
def runLength (text : Array Char) (p : Char → Bool) : Nat → Nat → Nat → Nat
  | 0, _, count => count
  | bound + 1, i, count =>
    if stands text p i then runLength text p bound (i + 1) (count + 1) else count

/-- The first success at the places from `i + n` down to `i`. -/
def downwards (k : Next) (i : Nat) : Nat → Option Nat
  | 0 => k i
  | n + 1 =>
    match k (i + n + 1) with
    | some stop => some stop
    | none => downwards k i n

/-- The first success at the `n + 1` places from `i` on. -/
def upwards (k : Next) : Nat → Nat → Option Nat
  | 0, i => k i
  | n + 1, i =>
    match k i with
    | some stop => some stop
    | none => upwards k n (i + 1)

/-- Repetition of one character. -/
def repeatOne (text : Array Char) (p : Char → Bool) (greed : Greed) (low : Nat) (high : Option Nat)
    (k : Next) (i : Nat) : Option Nat :=
  let left := text.size - i
  let count := runLength text p ((high.map (min left)).getD left) i 0
  if count < low then none
  else
    match greed with
    | .greedy => downwards k (i + low) (count - low)
    | .lazy => upwards k (count - low) (i + low)
    | .possessive => k (i + count)

/-! ### Repetition of a part -/

/-- Matches a part a number of times. -/
def exactly (body : Next → Next) : Nat → Next → Next
  | 0, k, i => k i
  | n + 1, k, i => body (exactly body n k) i

/-- Whether another turn of a repetition is allowed. -/
def hasRoom : Option Nat → Bool
  | some 0 => false
  | _ => true

/-- Further turns of a repetition, as many as possible first. A turn over no text is the last.
`fuel` bounds the number of turns. -/
def greedily (body : Next → Next) (k : Next) : Nat → Option Nat → Next
  | 0, _, i => k i
  | fuel + 1, room, i =>
    if hasRoom room then
      let again : Next := fun j =>
        if j == i then k j else greedily body k fuel (room.map (· - 1)) j
      match body again i with
      | some stop => some stop
      | none => k i
    else k i

/-- Further turns of a repetition, as few as possible first. -/
def lazily (body : Next → Next) (k : Next) : Nat → Option Nat → Next
  | 0, _, i => k i
  | fuel + 1, room, i =>
    match k i with
    | some stop => some stop
    | none =>
      if hasRoom room then
        body (fun j => if j == i then none else lazily body k fuel (room.map (· - 1)) j) i
      else none

/-- The place after a number of turns, each of which is matched in its first way only. -/
def steadily (body : Next → Next) : Nat → Next
  | 0, i => some i
  | n + 1, i => (body some i).bind (steadily body n)

/-- The place after as many turns of a repetition as possible, each in its first way. -/
def greatest (body : Next → Next) : Nat → Option Nat → Nat → Nat
  | 0, _, i => i
  | fuel + 1, room, i =>
    if hasRoom room then
      match body some i with
      | some j => if j == i then j else greatest body fuel (room.map (· - 1)) j
      | none => i
    else i

/-- Repetition of a part. -/
def repeatPart (text : Array Char) (body : Next → Next) (greed : Greed) (low : Nat)
    (high : Option Nat) (k : Next) (i : Nat) : Option Nat :=
  let room := high.map (· - low)
  let turns (j : Nat) : Nat := text.size - j + 1
  match greed with
  | .greedy => exactly body low (fun j => greedily body k (turns j) room j) i
  | .lazy => exactly body low (fun j => lazily body k (turns j) room j) i
  | .possessive => (steadily body low i).bind fun j => k (greatest body (turns j) room j)

/-! ### Patterns -/

/-- Matches a pattern at a place and then what comes next; gives the place where all ends. -/
def run (text : Array Char) : Pattern → Next → Next
  | .empty, k, i => k i
  | .char c, k, i => if stands text (Text.alike c) i then k (i + 1) else none
  | .other c, k, i => if stands text (fun d => !Text.alike c d) i then k (i + 1) else none
  | .any, k, i => if stands text (fun d => d != '\n') i then k (i + 1) else none
  | .set negated items, k, i =>
    if stands text (fun d => items.any (·.has d) != negated) i then k (i + 1) else none
  | .textStart, k, i => if i == 0 then k i else none
  | .lineEnd, k, i => if atLineEnd text i then k i else none
  | .textEnd, k, i => if i == text.size then k i else none
  | .wordEdge negated, k, i =>
    if atWordEdge text i != negated && !text.isEmpty then k i else none
  | .seq p q, k, i => run text p (fun j => run text q k j) i
  | .alt p q, k, i =>
    match run text p k i with
    | some stop => some stop
    | none => run text q k i
  | .times greed low high p, k, i =>
    match single? p with
    | some c => repeatOne text c greed low high k i
    | none => repeatPart text (fun k j => run text p k j) greed low high k i
  | .group _ p, k, i => run text p k i
  | .ahead negated p, k, i => if (run text p some i).isSome != negated then k i else none

/-- The first of `n + 1` places from `i` on where a pattern matches, with the place where it ends. -/
def searchFrom (text : Array Char) (p : Pattern) : Nat → Nat → Option (Nat × Nat)
  | 0, i => (run text p some i).map fun stop => (i, stop)
  | n + 1, i =>
    match run text p some i with
    | some stop => some (i, stop)
    | none => searchFrom text p n (i + 1)

/-- The first match in a text. -/
def search? (p : Pattern) (text : String) : Option String :=
  let cs := text.toList
  (searchFrom cs.toArray p cs.length 0).map fun (start, stop) =>
    String.ofList ((cs.drop start).take (stop - start))

end Pattern

end FeatureAudit
