import Wireframe.Text.Blank
import Wireframe.Text.Digit
import Wireframe.Decimal.Shortest

/-!
# `Wireframe.Decimal.Reading` — reading numbers

A number text may have blanks around it, a sign, digits of any script, and single underscores between
digits. `inf`, `infinity` and `nan` in any case are numbers as well.

## Contents
- `plainChar`, `plain`: digits of every script as ASCII digits, blanks as plain spaces.
- `joinDigits?`: a text without the underscores between digits.
- `ofDecimal`: the double nearest to a decimal, however far its exponent.
- `readFloat`, `readInt`, `readBase`, `readHex`: the readers.
-/

namespace Wireframe.Decimal

open Text

/-- A character of a number text: digits of every script become ASCII digits, blanks of every script become
spaces, and no other character beyond ASCII has a meaning. -/
def plainChar (c : Char) : Char :=
  if c.toNat < 0x7f then c
  else if isBlank c then ' '
  else match digit? c with
    | some d => Nat.digitChar d
    | none => '?'

/-- The characters of a number text. -/
def plain (s : List Char) : List Char := s.map plainChar

/-- A number text without the blanks around it. -/
def core (s : String) : List Char := trimBy isAsciiBlank (plain s.toList)

/-- Removes underscores, each of which must stand between two digits of the class; `before` says
whether a digit stands before the list. -/
def joinDigitsFrom? (isDigit : Char → Bool) (before : Bool) : List Char → Option (List Char)
  | [] => some []
  | '_' :: rest =>
    match rest with
    | d :: _ => if before && isDigit d then joinDigitsFrom? isDigit false rest else none
    | [] => none
  | c :: rest => (joinDigitsFrom? isDigit (isDigit c) rest).map (c :: ·)

/-- Removes the underscores between digits. -/
def joinDigits? (isDigit : Char → Bool) (s : List Char) : Option (List Char) :=
  joinDigitsFrom? isDigit false s

/-- The value of a list of ASCII digits. -/
def digitsValue (ds : List Char) : Nat := ds.foldl (fun n c => 10 * n + (c.toNat - 48)) 0

/-- The double nearest to `± digits · 10^exponent`. Beyond `10^400` and below `10^(-400)` nothing but
infinity and zero is near. -/
def ofDecimal (negative : Bool) (digits : Nat) (exponent : Int) : Float :=
  if digits == 0 then ofRatio negative 0 1
  else
    let x : Int := (Nat.toDigits 10 digits).length + exponent
    if x > 400 then ofRatio negative (2 ^ 1024) 1
    else if x < -400 then ofRatio negative 0 1
    else
      let (n, d) := scaledTen digits 1 (-exponent)
      ofRatio negative n d

/-- Splits off a sign; the flag says that it is a minus. -/
def takeSign : List Char → Bool × List Char
  | '-' :: rest => (true, rest)
  | '+' :: rest => (false, rest)
  | s => (false, s)

/-- The exponent after a mantissa: nothing, or `e`, a sign and digits. -/
def readExponent : List Char → Option Int
  | [] => some 0
  | c :: rest =>
    if c == 'e' || c == 'E' then
      let (negative, ds) := takeSign rest
      if ds.isEmpty || !ds.all isAsciiDigit then none
      else some (if negative then -(digitsValue ds : Int) else digitsValue ds)
    else none

/-- An unsigned number: digits with at most one point and at least one digit, then an exponent. -/
def readUnsigned (negative : Bool) (s : List Char) : Option Float :=
  let whole := s.takeWhile isAsciiDigit
  let rest := s.dropWhile isAsciiDigit
  let (places, rest) :=
    match rest with
    | '.' :: r => (r.takeWhile isAsciiDigit, r.dropWhile isAsciiDigit)
    | r => ([], r)
  if whole.isEmpty && places.isEmpty then none
  else
    (readExponent rest).map fun e =>
      ofDecimal negative (digitsValue (whole ++ places)) (e - places.length)

/-- ASCII lower case. -/
def asciiLower (c : Char) : Char :=
  if 'A' ≤ c && c ≤ 'Z' then Char.ofNat (c.toNat + 32) else c

/-- Reads a number text as a double. -/
def readFloat (s : String) : Option Float := do
  let cs ← joinDigits? isAsciiDigit (core s)
  let (negative, cs) := takeSign cs
  let word := String.ofList (cs.map asciiLower)
  if word == "inf" || word == "infinity" then
    return ofRatio negative (2 ^ 1024) 1
  else if word == "nan" then
    return (0.0 / 0.0 : Float)
  else
    readUnsigned negative cs

/-- Integer texts of more digits are refused. -/
def maxDigits : Nat := 4300

/-- Reads an integer text. -/
def readInt (s : String) : Option Int := do
  let (negative, cs) := takeSign (core s)
  let ds ← joinDigits? isAsciiDigit cs
  if ds.isEmpty || !ds.all isAsciiDigit || ds.length > maxDigits then none
  else
    let n : Int := digitsValue ds
    return if negative then -n else n

/-- The value of a hexadecimal digit. -/
def hexValue? (c : Char) : Option Nat :=
  if isAsciiDigit c then some (c.toNat - 48)
  else if 'a' ≤ c && c ≤ 'f' then some (c.toNat - 87)
  else if 'A' ≤ c && c ≤ 'F' then some (c.toNat - 55)
  else none

/-- Reads an integer text in the digits of a base up to sixteen, with or without `0` and the letter of
the base before them. -/
def readBase (base : Nat) (letter : Char) (s : String) : Option Int := do
  let (negative, cs) := takeSign (core s)
  let cs ←
    match cs with
    | '0' :: x :: r =>
      if asciiLower x == letter then
        match r with
        | '_' :: r' => some r'
        | r => some r
      else some cs
    | cs => some cs
  let ds ← joinDigits? (fun c => (hexValue? c).any (· < base)) cs
  if ds.isEmpty then none
  else
    let digits ← ds.mapM fun c => (hexValue? c).filter (· < base)
    let n : Nat := digits.foldl (fun n d => base * n + d) 0
    return if negative then -(n : Int) else n

/-- Reads an integer text in hexadecimal digits, with or without `0x` before them. -/
def readHex (s : String) : Option Int := readBase 16 'x' s

end Wireframe.Decimal
