/-!
# UTF-8

Encoding of characters as octets, and decoding that reports the first fault with the octets it
covers. A file is read with a leading byte order mark removed and every line end turned into a
line feed.
-/

set_option autoImplicit false

namespace FeatureAudit.Text.Utf8

/-! ## Encoding -/

/-- A continuation octet that carries the six lowest bits of `n`. -/
def tail (n : Nat) : UInt8 := UInt8.ofNat (0x80 + n % 64)

/-- The octets of a character. -/
def encodeChar (c : Char) : List UInt8 :=
  let n := c.toNat
  if n < 0x80 then [UInt8.ofNat n]
  else if n < 0x800 then [UInt8.ofNat (0xC0 + n / 64), tail n]
  else if n < 0x10000 then [UInt8.ofNat (0xE0 + n / 4096), tail (n / 64), tail n]
  else [UInt8.ofNat (0xF0 + n / 262144), tail (n / 4096), tail (n / 64), tail n]

/-- The octets of a list of characters. -/
def encode (cs : List Char) : List UInt8 := cs.flatMap encodeChar

/-! ## Decoding -/

/-- Why octets are no text. -/
inductive Reason where
  /-- The octet cannot open a character. -/
  | invalidStart
  /-- The octets are followed by one that cannot continue them. -/
  | invalidContinuation
  /-- The octets end within a character. -/
  | unexpectedEnd
  deriving DecidableEq, Repr

/-- The wording of a reason. -/
def Reason.text : Reason → String
  | .invalidStart => "invalid start byte"
  | .invalidContinuation => "invalid continuation byte"
  | .unexpectedEnd => "unexpected end of data"

/-- A fault: the octets from position `start` on that are to blame, and why. -/
structure Fault where
  /-- The position of the first octet. -/
  start : Nat
  /-- The octets to blame; there is at least one. -/
  octets : List UInt8
  /-- What is wrong with them. -/
  reason : Reason
  deriving DecidableEq, Repr

/-- How a character goes on after its first octet: the number of further octets and the bounds
of the next one. -/
structure Lead where
  /-- The bits that the first octet carries. -/
  bits : Nat
  /-- The number of further octets. -/
  more : Nat
  /-- The least value of the next octet. -/
  low : Nat
  /-- The greatest value of the next octet. -/
  high : Nat
  deriving DecidableEq, Repr

/-- The role of a first octet beyond ASCII. Overlong forms, surrogates and values past the last
code point are ruled out by the bounds of the second octet. -/
def lead? (b : Nat) : Option Lead :=
  if b < 0xC2 then none
  else if b < 0xE0 then some ⟨b - 0xC0, 1, 0x80, 0xBF⟩
  else if b < 0xF0 then
    some ⟨b - 0xE0, 2, if b == 0xE0 then 0xA0 else 0x80, if b == 0xED then 0x9F else 0xBF⟩
  else if b < 0xF5 then
    some ⟨b - 0xF0, 3, if b == 0xF0 then 0x90 else 0x80, if b == 0xF4 then 0x8F else 0xBF⟩
  else none

/-- Reads the remaining octets of a character; `seen` holds those read so far in reverse. -/
def tails : Lead → List UInt8 → List UInt8 → Except (List UInt8 × Reason) (Nat × List UInt8)
  | ⟨bits, 0, _, _⟩, _, rest => .ok (bits, rest)
  | ⟨_, _ + 1, _, _⟩, seen, [] => .error (seen.reverse, .unexpectedEnd)
  | ⟨bits, more + 1, low, high⟩, seen, b :: rest =>
    if low ≤ b.toNat && b.toNat ≤ high then
      tails ⟨bits * 64 + (b.toNat - 0x80), more, 0x80, 0xBF⟩ (b :: seen) rest
    else .error (seen.reverse, .invalidContinuation)
  termination_by _ _ rest => rest.length

/-- Reads characters from position `start` on; `fuel` bounds their number. -/
def decodeFrom : Nat → Nat → List UInt8 → Except Fault (List Char)
  | _, _, [] => .ok []
  | 0, _, _ :: _ => .ok []
  | fuel + 1, start, b :: rest =>
    if b.toNat < 0x80 then
      (decodeFrom fuel (start + 1) rest).map (Char.ofNat b.toNat :: ·)
    else
      match lead? b.toNat with
      | none => .error ⟨start, [b], .invalidStart⟩
      | some l =>
        match tails l [b] rest with
        | .error (octets, reason) => .error ⟨start, octets, reason⟩
        | .ok (n, rest') =>
          (decodeFrom fuel (start + 1 + l.more) rest').map (Char.ofNat n :: ·)

/-- The characters of octets, or the first fault. -/
def decode (bytes : List UInt8) : Except Fault (List Char) := decodeFrom bytes.length 0 bytes

/-! ## Files of text -/

/-- The byte order mark. -/
def byteOrderMark : List UInt8 := [0xEF, 0xBB, 0xBF]

/-- Removes one byte order mark; octets that are only the beginning of one are removed as well. -/
def dropMark (bytes : List UInt8) : List UInt8 :=
  match byteOrderMark.isPrefixOf? bytes with
  | some rest => rest
  | none => if bytes.isPrefixOf byteOrderMark then [] else bytes

/-- Turns every line end, a carriage return with or without a line feed, into a line feed. -/
def unifyNewlines : List Char → List Char
  | [] => []
  | '\r' :: '\n' :: cs => '\n' :: unifyNewlines cs
  | c :: cs => (if c == '\r' then '\n' else c) :: unifyNewlines cs

/-- The text of a file. -/
def readText (bytes : List UInt8) : Except Fault String :=
  (decode bytes).map fun cs => String.ofList (unifyNewlines cs)

/-- The text of a file that may open with a byte order mark. -/
def readMarkedText (bytes : List UInt8) : Except Fault String := readText (dropMark bytes)

end FeatureAudit.Text.Utf8
