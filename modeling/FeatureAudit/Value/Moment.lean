/-!
# Dates and times

Calendar dates, times of day and their combinations, with their written form.
-/

set_option autoImplicit false

namespace FeatureAudit

/-- A day of the calendar. -/
structure CalendarDate where
  /-- The year, from 1 to 9999. -/
  year : Nat
  /-- The month, from 1 to 12. -/
  month : Nat
  /-- The day, from 1 on. -/
  day : Nat
  deriving DecidableEq, Repr

/-- A time of day. -/
structure ClockTime where
  /-- The hour, from 0 to 23. -/
  hour : Nat
  /-- The minute, from 0 to 59. -/
  minute : Nat
  /-- The second, from 0 to 59. -/
  second : Nat
  /-- Millionths of a second. -/
  micro : Nat
  deriving DecidableEq, Repr

/-- A date, a time of day, or both with an optional distance from universal time in minutes. -/
inductive Moment where
  /-- A day. -/
  | day (date : CalendarDate)
  /-- A time of day. -/
  | clock (time : ClockTime)
  /-- A time on a day. -/
  | both (date : CalendarDate) (time : ClockTime) (offset : Option Int)
  deriving DecidableEq, Repr

/-- Whether a year has a 29th of February. -/
def isLeapYear (y : Nat) : Bool := y % 4 == 0 && (y % 100 != 0 || y % 400 == 0)

/-- The number of days of a month. -/
def daysInMonth (y m : Nat) : Nat :=
  if m == 2 then if isLeapYear y then 29 else 28
  else if m == 4 || m == 6 || m == 9 || m == 11 then 30
  else 31

/-- Whether a date is a day of the calendar. -/
def CalendarDate.isValid (d : CalendarDate) : Bool :=
  1 ≤ d.year && 1 ≤ d.month && d.month ≤ 12 && 1 ≤ d.day && d.day ≤ daysInMonth d.year d.month

/-- A number filled with zeros to a width. -/
def padded (width n : Nat) : String :=
  let digits := toString n
  String.ofList (List.replicate (width - digits.length) '0') ++ digits

/-- Year, month and day with dashes. -/
def CalendarDate.text (d : CalendarDate) : String :=
  padded 4 d.year ++ "-" ++ padded 2 d.month ++ "-" ++ padded 2 d.day

/-- Hour, minute and second with colons, and the fraction in six digits unless it is zero. -/
def ClockTime.text (t : ClockTime) : String :=
  padded 2 t.hour ++ ":" ++ padded 2 t.minute ++ ":" ++ padded 2 t.second ++
    (if t.micro == 0 then "" else "." ++ padded 6 t.micro)

/-- The distance from universal time as hours and minutes. -/
def offsetText (minutes : Int) : String :=
  (if minutes < 0 then "-" else "+") ++ padded 2 (minutes.natAbs / 60) ++ ":" ++
    padded 2 (minutes.natAbs % 60)

/-- The written form of a moment. -/
def Moment.text : Moment → String
  | .day d => d.text
  | .clock t => t.text
  | .both d t offset => d.text ++ "T" ++ t.text ++ (offset.map offsetText).getD ""

end FeatureAudit
