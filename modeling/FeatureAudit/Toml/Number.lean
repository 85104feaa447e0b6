import FeatureAudit.Decimal.Binary64
import FeatureAudit.Decimal.Integer
import FeatureAudit.Value

/-!
# Numbers and moments of a document

Each reader takes the characters of a document and gives a value with the rest of the characters,
or nothing if no such value stands there. Digits are plain digits, set apart by single
underscores.
-/

set_option autoImplicit false

namespace FeatureAudit.Toml

/-! ## Digits -/

/-- A plain digit. -/
def isDigit (c : Char) : Bool := '0' ≤ c && c ≤ '9'

/-- The value of a digit of a base up to sixteen. -/
def hexValue? (c : Char) : Option Nat :=
  if isDigit c then some (c.toNat - '0'.toNat)
  else if 'a' ≤ c && c ≤ 'f' then some (c.toNat - 'a'.toNat + 10)
  else if 'A' ≤ c && c ≤ 'F' then some (c.toNat - 'A'.toNat + 10)
  else none

/-- A digit of a base. -/
def isDigitOf (base : Nat) (c : Char) : Bool := (hexValue? c).any fun d => d < base

/-- The number that digits of a base write. -/
def ofDigits (base : Nat) (ds : List Char) : Nat :=
  ds.foldl (fun n c => n * base + (hexValue? c).getD 0) 0

/-- Further digits of a run, each with at most one underscore in front. -/
def moreDigits (base : Nat) : List Char → List Char × List Char
  | '_' :: c :: cs =>
    if isDigitOf base c then
      let (ds, rest) := moreDigits base cs
      (c :: ds, rest)
    else ([], '_' :: c :: cs)
  | c :: cs =>
    if isDigitOf base c then
      let (ds, rest) := moreDigits base cs
      (c :: ds, rest)
    else ([], c :: cs)
  | [] => ([], [])

/-- A run of at least one digit. -/
def digits? (base : Nat) : List Char → Option (List Char × List Char)
  | c :: cs =>
    if isDigitOf base c then
      let (ds, rest) := moreDigits base cs
      some (c :: ds, rest)
    else none
  | [] => none

/-! ## Numbers -/

/-- A whole number of another base. -/
def basedInteger? : List Char → Option (Value × List Char)
  | '0' :: mark :: cs =>
    let base := if mark == 'x' then 16 else if mark == 'o' then 8 else if mark == 'b' then 2 else 0
    (digits? base cs).map fun (ds, rest) => (.integer (ofDigits base ds), rest)
  | _ => none

/-- An optional sign; whether it is a minus. -/
def sign : List Char → Bool × List Char
  | '-' :: cs => (true, cs)
  | '+' :: cs => (false, cs)
  | cs => (false, cs)

/-- The digits in front of the point: a zero, or a run without a leading zero. -/
def wholePart? : List Char → Option (List Char × List Char)
  | '0' :: cs => some (['0'], cs)
  | cs => digits? 10 cs

/-- The digits after a point. -/
def fractionPart : List Char → Option (List Char) × List Char
  | '.' :: cs =>
    match digits? 10 cs with
    | some (ds, rest) => (some ds, rest)
    | none => (none, '.' :: cs)
  | cs => (none, cs)

/-- A power of ten. -/
def exponentPart (cs : List Char) : Option Int × List Char :=
  match cs with
  | mark :: rest =>
    if mark == 'e' || mark == 'E' then
      let (negative, unsigned) := sign rest
      match digits? 10 unsigned with
      | some (ds, rest) => (some (Decimal.signed negative (ofDigits 10 ds)), rest)
      | none => (none, cs)
    else (none, cs)
  | [] => (none, cs)

/-- A decimal number: whole unless it has a fraction or a power of ten. -/
def decimal? (cs : List Char) : Option (Value × List Char) :=
  let (negative, cs) := sign cs
  (wholePart? cs).map fun (whole, cs) =>
    let (fraction, cs) := fractionPart cs
    let (exponent, cs) := exponentPart cs
    if fraction.isNone && exponent.isNone then
      (.integer (Decimal.signed negative (ofDigits 10 whole)), cs)
    else
      let ds := fraction.getD []
      (.real (Decimal.ofScientific negative (ofDigits 10 (whole ++ ds))
        (exponent.getD 0 - ds.length)), cs)

/-- A whole or decimal number. -/
def number? (cs : List Char) : Option (Value × List Char) := (basedInteger? cs).or (decimal? cs)

/-- An infinity or no number, by its name. -/
def specialNumber? (cs : List Char) : Option (Value × List Char) :=
  let (negative, unsigned) := sign cs
  match unsigned with
  | 'i' :: 'n' :: 'f' :: rest => some (.real (if negative then -(1.0 / 0.0) else 1.0 / 0.0), rest)
  | 'n' :: 'a' :: 'n' :: rest => some (.real (0.0 / 0.0), rest)
  | _ => none

/-! ## Moments -/

/-- A number of exactly two digits between bounds. -/
def pair? (low high : Nat) : List Char → Option (Nat × List Char)
  | a :: b :: cs =>
    if isDigit a && isDigit b then
      let n := ofDigits 10 [a, b]
      if low ≤ n && n ≤ high then some (n, cs) else none
    else none
  | _ => none

/-- A given character. -/
def mark? (c : Char) : List Char → Option (List Char)
  | d :: cs => if c == d then some cs else none
  | [] => none

/-- A day of the calendar. -/
def date? (cs : List Char) : Option (CalendarDate × List Char) := do
  let (century, cs) ← pair? 0 99 cs
  let (year, cs) ← pair? 0 99 cs
  let (month, cs) ← pair? 1 12 (← mark? '-' cs)
  let (day, cs) ← pair? 1 31 (← mark? '-' cs)
  some (⟨century * 100 + year, month, day⟩, cs)

/-- Millionths of a second; digits after the sixth have no effect. -/
def micros : List Char → Nat × List Char
  | '.' :: cs =>
    let ds := cs.takeWhile isDigit
    if ds.isEmpty then (0, '.' :: cs)
    else (ofDigits 10 ((ds ++ List.replicate 6 '0').take 6), cs.dropWhile isDigit)
  | cs => (0, cs)

/-- A time of day. -/
def clock? (cs : List Char) : Option (ClockTime × List Char) := do
  let (hour, cs) ← pair? 0 23 cs
  let (minute, cs) ← pair? 0 59 (← mark? ':' cs)
  let (second, cs) ← pair? 0 59 (← mark? ':' cs)
  let (micro, cs) := micros cs
  some (⟨hour, minute, second, micro⟩, cs)

/-- The distance from universal time in minutes. -/
def offset? (cs : List Char) : Option (Int × List Char) :=
  match cs with
  | c :: rest =>
    if c == 'Z' || c == 'z' then some (0, rest)
    else if c == '+' || c == '-' then do
      let (hours, rest) ← pair? 0 23 rest
      let (minutes, rest) ← pair? 0 59 (← mark? ':' rest)
      some (Decimal.signed (c == '-') (hours * 60 + minutes), rest)
    else none
  | [] => none

/-- The time that follows a date, with its distance from universal time. -/
def clockAfterDate? : List Char → Option ((ClockTime × Option Int) × List Char)
  | c :: cs =>
    if c == 'T' || c == 't' || c == ' ' then
      (clock? cs).map fun (time, cs) =>
        match offset? cs with
        | some (offset, rest) => ((time, some offset), rest)
        | none => ((time, none), cs)
    else none
  | [] => none

/-- A date, a time, or both. A date has to be a day of the calendar. -/
def moment? (cs : List Char) : Option (Value × List Char) :=
  match date? cs with
  | some (date, rest) =>
    if date.isValid then
      match clockAfterDate? rest with
      | some ((time, offset), rest) => some (.moment (.both date time offset), rest)
      | none => some (.moment (.day date), rest)
    else none
  | none => (clock? cs).map fun (time, rest) => (.moment (.clock time), rest)

end FeatureAudit.Toml
