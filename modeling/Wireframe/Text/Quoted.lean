import Wireframe.Text.Half
import Wireframe.Text.Printable

/-!
# `Wireframe.Text.Quoted` — quoted texts in messages

A text inside a message stands between single quotes, or between double quotes when it holds a single
quote and no double one. A backslash stands before the quote, before a backslash and before the
letters that name a line feed, a carriage return and a tab; a character that is not printable is shown
by its code point in two, four or eight hexadecimal digits, and half of a pair by its unit in four.

## Contents
- `hexDigits`: a number in hexadecimal digits, padded with zeros.
- `quote`: the quoted form of a text.
-/

namespace Wireframe.Text

/-- The last `width` hexadecimal digits of a number, in lower case. -/
def hexDigits : Nat → Nat → List Char
  | 0, _ => []
  | width + 1, n => hexDigits width (n / 16) ++ [Nat.digitChar (n % 16)]

/-- One character inside quotes of the given kind. -/
def quoteChar (mark c : Char) : List Char :=
  if c == mark || c == '\\' then ['\\', c]
  else if c == '\n' then ['\\', 'n']
  else if c == '\r' then ['\\', 'r']
  else if c == '\t' then ['\\', 't']
  else if isPrintable c then [c]
  else if c.toNat < 0x100 then '\\' :: 'x' :: hexDigits 2 c.toNat
  else if c.toNat < 0x10000 then '\\' :: 'u' :: hexDigits 4 c.toNat
  else
    match half? c with
    | some n => '\\' :: 'u' :: hexDigits 4 n
    | none => '\\' :: 'U' :: hexDigits 8 c.toNat

/-- The quotes around a text: single ones unless it holds a single quote and no double one. -/
def quoteMark (s : List Char) : Char :=
  if s.contains '\'' && !s.contains '"' then '"' else '\''

/-- The quoted form of a text. -/
def quote (s : String) : String :=
  let mark := quoteMark s.toList
  String.ofList (mark :: s.toList.flatMap (quoteChar mark) ++ [mark])

end Wireframe.Text
