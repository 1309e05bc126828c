/-!
# `Wireframe.Document.Calendar` — dates in documents

A document may hold days of the calendar, and moments of a day with or without an offset from the
reference clock. A date that is not in the calendar is refused when it is read.

## Contents
- `Date`, `Moment`: the two kinds, with `Date.isValid` and `Moment.isValid`.
- `Date.dayNumber`, `Moment.instant?`: days in order, and moments that are the same on every clock.
- `Date.text`, `Moment.text`: how they are shown as texts.
-/

namespace Wireframe.Document

/-- A day of the calendar. -/
structure Date where
  year : Nat
  month : Nat
  day : Nat
  deriving DecidableEq, Repr, Inhabited

/-- A moment of a day; `offset` is in seconds east of the reference clock. -/
structure Moment where
  date : Date
  hour : Nat
  minute : Nat
  second : Nat
  micro : Nat
  offset : Option Int
  deriving DecidableEq, Repr, Inhabited

/-- Whether a year has a leap day. -/
def isLeap (year : Nat) : Bool := year % 4 == 0 && (year % 100 != 0 || year % 400 == 0)

/-- The number of days of a month. -/
def daysIn (year month : Nat) : Nat :=
  if month == 2 then (if isLeap year then 29 else 28)
  else if month == 4 || month == 6 || month == 9 || month == 11 then 30
  else 31

/-- Whether a date is in the calendar. -/
def Date.isValid (d : Date) : Bool :=
  1 ≤ d.year && d.year ≤ 9999 && 1 ≤ d.month && d.month ≤ 12 && 1 ≤ d.day &&
  d.day ≤ daysIn d.year d.month

/-- Whether a moment is in the calendar; an offset is less than a day. -/
def Moment.isValid (m : Moment) : Bool :=
  m.date.isValid && m.hour < 24 && m.minute < 60 && m.second < 60 && m.micro < 1000000 &&
  (m.offset.all fun s => s.natAbs < 86400)

/-- The number of days before a month in its year. -/
def daysBefore (year month : Nat) : Nat :=
  ((List.range month).drop 1).foldl (fun n m => n + daysIn year m) 0

/-- The number of a day, counted from the first day of the calendar. -/
def Date.dayNumber (d : Date) : Nat :=
  let years := d.year - 1
  365 * years + years / 4 - years / 100 + years / 400 + daysBefore d.year d.month + d.day

/-- The microseconds of the reference clock at a moment that has an offset from it. -/
def Moment.instant? (m : Moment) : Option Int :=
  m.offset.map fun offset =>
    let seconds : Int := ((m.date.dayNumber * 24 + m.hour) * 60 + m.minute) * 60 + m.second
    (seconds - offset) * 1000000 + m.micro

/-- A number with zeros before it. -/
def padded (width n : Nat) : String :=
  let ds := Nat.toDigits 10 n
  String.ofList (List.replicate (width - ds.length) '0' ++ ds)

/-- A date as `2001-12-14`. -/
def Date.text (d : Date) : String :=
  s!"{padded 4 d.year}-{padded 2 d.month}-{padded 2 d.day}"

/-- An offset as `+05:30`, with seconds only where there are any. -/
def offsetText (s : Int) : String :=
  let n := s.natAbs
  let sign := if s < 0 then "-" else "+"
  let hm := s!"{sign}{padded 2 (n / 3600)}:{padded 2 (n / 60 % 60)}"
  if n % 60 == 0 then hm else hm ++ ":" ++ padded 2 (n % 60)

/-- A moment as `2001-12-14 21:59:43.100000+05:30`. -/
def Moment.text (m : Moment) : String :=
  let clock := s!"{padded 2 m.hour}:{padded 2 m.minute}:{padded 2 m.second}"
  let fraction := if m.micro == 0 then "" else "." ++ padded 6 m.micro
  m.date.text ++ " " ++ clock ++ fraction ++ (m.offset.map offsetText).getD ""

end Wireframe.Document
