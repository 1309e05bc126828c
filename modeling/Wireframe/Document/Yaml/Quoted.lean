import Wireframe.Decimal.Reading
import Wireframe.Document.Yaml.Plain

/-!
# `Wireframe.Document.Yaml.Quoted` — scalars in quotes

Between single quotes a quote is written twice and nothing else is special. Between double quotes a
backslash introduces a character by name or by number, and one at the end of a line joins the next line.
In both, line breaks are folded as in plain scalars.

## Contents
- `escape?`, `codeLength?`, `charOfCode`: the characters after a backslash.
- `scanQuoted`: the scalar after its opening quote.
-/

namespace Wireframe.Document.Yaml

open Source

/-- The character that a letter after a backslash stands for. -/
def escape? : Char → Option Char
  | '0' => some '\x00'
  | 'a' => some '\x07'
  | 'b' => some '\x08'
  | 't' => some '\t'
  | '\t' => some '\t'
  | 'n' => some '\n'
  | 'v' => some '\x0b'
  | 'f' => some '\x0c'
  | 'r' => some '\r'
  | 'e' => some '\x1b'
  | ' ' => some ' '
  | '"' => some '"'
  | '\\' => some '\\'
  | '/' => some '/'
  | 'N' => some '\x85'
  | '_' => some '\xa0'
  | 'L' => some '\u2028'
  | 'P' => some '\u2029'
  | _ => none

/-- The number of hexadecimal digits that follow a letter after a backslash. -/
def codeLength? : Char → Option Nat
  | 'x' => some 2
  | 'u' => some 4
  | 'U' => some 8
  | _ => none

/-- The character with a number. -/
def charOfCode (n : Nat) : Except Failure Char :=
  if n ≥ 2 ^ 31 then .error (.faulty .tooLarge)
  else if n > 0x10ffff then .error (.faulty .notNumber)
  else if Text.isHalf n then .ok (Text.half n)
  else .ok (Char.ofNat n)

/-- A number of hexadecimal digits. -/
def takeCode : Nat → Nat → Source → Option (Nat × Source)
  | 0, n, s => some (n, s)
  | _ + 1, _, [] => none
  | k + 1, n, p :: rest =>
    match Decimal.hexValue? p.char with
    | some d => takeCode k (16 * n + d) rest
    | none => none

/-- The line breaks at the start of a line and the blanks around them; a line that separates documents is
refused. The flag says that a line begins. -/
def quotedBreaks (lineBegins : Bool) : Source → Except Failure (List Char × Source)
  | [] => .ok ([], [])
  | p :: rest =>
    if lineBegins && atSeparator (p :: rest) then .error .malformed
    else if isBlankChar p.char then quotedBreaks false rest
    else if isBreak p.char then do
      let (breaks, rest) ← quotedBreaks true rest
      return (keptBreak p.char :: breaks, rest)
    else .ok ([], p :: rest)

/-- Blanks or line breaks inside quotes. -/
def quotedGap (s : Source) : Except Failure (List Char × Source) :=
  let (blanks, s) := span isBlankChar s
  match takeBreak s with
  | ([], _) => if peek s == endMark then .error .malformed else .ok (blanks, s)
  | (first, s) => do
    let (breaks, s) ← quotedBreaks true s
    return (foldBreaks first breaks, s)

/-- The characters that a backslash introduces, from behind it. -/
def takeEscape (s : Source) : Except Failure (List Char × Source) :=
  let c := peek s
  match escape? c with
  | some e => .ok ([e], s.drop 1)
  | none =>
    match codeLength? c with
    | some k =>
      match takeCode k 0 (s.drop 1) with
      | some (n, s) => do return ([← charOfCode n], s)
      | none => .error .malformed
    | none =>
      if isBreak c then quotedBreaks true (s.drop 1) else .error .malformed

/-- The rest of a scalar in quotes and what follows it. Every step takes a character at least. -/
def scanQuoted (quote : Char) : Nat → Source → Except Failure (List Char × Source)
  | 0, _ => .error .malformed
  | fuel + 1, s => do
    let c := peek s
    if isGap c then
      let (gap, s) ← quotedGap s
      let (more, s) ← scanQuoted quote fuel s
      return (gap ++ more, s)
    else if c == quote then
      if quote == '\'' && peekAt 1 s == quote then
        let (more, s) ← scanQuoted quote fuel (s.drop 2)
        return (quote :: more, s)
      else return ([], s.drop 1)
    else if quote == '"' && c == '\\' then
      let (cs, s) ← takeEscape (s.drop 1)
      let (more, s) ← scanQuoted quote fuel s
      return (cs ++ more, s)
    else
      let (more, s) ← scanQuoted quote fuel (s.drop 1)
      return (c :: more, s)

end Wireframe.Document.Yaml
