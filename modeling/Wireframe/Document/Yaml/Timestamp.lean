import Wireframe.Decimal.Reading
import Wireframe.Document.Calendar

/-!
# `Wireframe.Document.Yaml.Timestamp` — dates and moments in YAML

A date is `2001-12-14`. Behind it there may be a time of day, after a `T` or blanks, with a fraction of a
second and an offset from the reference clock.

## Contents
- `Timestamp`, `Timestamp.read?`, `Timestamp.readLine?`: the parts of a timestamp.
- `Timestamp.isImplicit`: whether a scalar without a tag is one.
- `Timestamp.date?`, `Timestamp.moment?`: what it stands for, if it is in the calendar.
-/

namespace Wireframe.Document.Yaml

/-- A time of day as it is written; `zone` is in seconds. -/
structure Clock where
  hour : Nat
  minute : Nat
  second : Nat
  fraction : List Char
  zone : Option Int

/-- A date and perhaps a time. -/
structure Timestamp where
  date : Date
  clock : Option Clock

namespace Timestamp

/-- Splits off a number of `least` digits and up to `most`. -/
def takeNumber (least most : Nat) (cs : List Char) : Option (Nat × List Char) :=
  let ds := (cs.take most).takeWhile Char.isDigit
  if ds.length < least then none else some (Decimal.digitsValue ds, cs.drop ds.length)

/-- Splits off a sign and a number behind it. -/
def takeAfter (sign : Char) (least most : Nat) : List Char → Option (Nat × List Char)
  | c :: rest => if c == sign then takeNumber least most rest else none
  | [] => none

/-- Splits off blanks. -/
def dropBlanks (cs : List Char) : List Char := cs.dropWhile fun c => c == ' ' || c == '\t'

/-- The offset of a time: nothing, `Z`, or a sign, hours and perhaps minutes. -/
def readZone (cs : List Char) : Option (Option Int) :=
  if cs.isEmpty then some none
  else
    match dropBlanks cs with
    | ['Z'] => some (some 0)
    | sign :: rest =>
      if sign == '+' || sign == '-' then do
        let (hours, rest) ← takeNumber 1 2 rest
        let (minutes, rest) ← if rest.isEmpty then some (0, rest) else takeAfter ':' 2 2 rest
        if rest.isEmpty then
          let s : Int := 3600 * hours + 60 * minutes
          return some (if sign == '-' then -s else s)
        else none
      else none
    | [] => none

/-- The time of day behind a date. -/
def readClock (cs : List Char) : Option Clock := do
  let rest ←
    match cs with
    | 'T' :: rest => some rest
    | 't' :: rest => some rest
    | cs => if (dropBlanks cs).length < cs.length then some (dropBlanks cs) else none
  let (hour, rest) ← takeNumber 1 2 rest
  let (minute, rest) ← takeAfter ':' 2 2 rest
  let (second, rest) ← takeAfter ':' 2 2 rest
  let (fraction, rest) :=
    match rest with
    | '.' :: r => (r.takeWhile Char.isDigit, r.dropWhile Char.isDigit)
    | r => ([], r)
  let zone ← readZone rest
  return ⟨hour, minute, second, fraction, zone⟩

/-- The parts of a timestamp. -/
def read? (cs : List Char) : Option Timestamp := do
  let (year, rest) ← takeNumber 4 4 cs
  let (month, rest) ← takeAfter '-' 1 2 rest
  let (day, rest) ← takeAfter '-' 1 2 rest
  if rest.isEmpty then return ⟨⟨year, month, day⟩, none⟩
  else return ⟨⟨year, month, day⟩, some (← readClock rest)⟩

/-- A text without a line break at its end. -/
def withoutBreak (cs : List Char) : List Char :=
  if cs.getLast? == some '\n' then cs.dropLast else cs

/-- The parts of a timestamp that a line break may follow. -/
def readLine? (cs : List Char) : Option Timestamp := read? (withoutBreak cs)

/-- Whether a scalar without a tag is a timestamp: a date alone has two digits for month and day. -/
def isImplicit (cs : List Char) : Bool :=
  match read? cs with
  | some t => t.clock.isSome || cs.length == 10
  | none => false

/-- The first six digits of a fraction as millionths. -/
def micros (fraction : List Char) : Nat :=
  Decimal.digitsValue ((fraction ++ List.replicate 6 '0').take 6)

/-- The moment with a time of day. -/
def momentOf (d : Date) (c : Clock) : Moment :=
  ⟨d, c.hour, c.minute, c.second, micros c.fraction, c.zone⟩

/-- The day, if it is in the calendar. -/
def date? (t : Timestamp) : Option Date := if t.date.isValid then some t.date else none

/-- The moment, if it is in the calendar. -/
def moment? (t : Timestamp) (c : Clock) : Option Moment :=
  let m := momentOf t.date c
  if m.isValid then some m else none

end Timestamp

end Wireframe.Document.Yaml
