import Wireframe.Document.Yaml.Basic

/-!
# `Wireframe.Document.Yaml.Block` — scalars in lines of their own

After `|` the lines are kept; after `>` a line break between two lines that start with text becomes a
blank. The first line sets the indentation unless the header gives it. The header also says what becomes
of the line breaks at the end.

## Contents
- `Header`, `scanHeader`: signs behind the opening one.
- `firstIndent`, `blockBreaks`, `blockLines`: the lines.
- `scanBlock`: the scalar.
-/

namespace Wireframe.Document.Yaml

open Source

/-- What becomes of the line breaks at the end: all but one go, all go, or all stay. -/
inductive Chomping where
  | clip | strip | keep
  deriving DecidableEq

/-- The header of a scalar. -/
structure Header where
  chomping : Chomping
  increment : Option Nat

/-- The sign for the line breaks at the end. -/
def takeChomping (s : Source) : Chomping × Source :=
  if peek s == '+' then (.keep, s.drop 1)
  else if peek s == '-' then (.strip, s.drop 1)
  else (.clip, s)

/-- The digit for the indentation, which is not zero. -/
def takeIncrement (s : Source) : Except Failure (Option Nat × Source) :=
  let c := peek s
  if c == '0' then .error .malformed
  else if c.isDigit then .ok (some (c.toNat - 48), s.drop 1)
  else .ok (none, s)

/-- The rest of a line, which may hold nothing but a comment. -/
def skipLine (s : Source) : Except Failure Source :=
  let s := skip (· == ' ') s
  let s := if peek s == '#' then skip (fun c => !isEnd c) s else s
  if isEnd (peek s) then .ok (takeBreak s).2 else .error .malformed

/-- The header, up to the first line of the scalar: the two signs come in any order. -/
def scanHeader (s : Source) : Except Failure (Header × Source) := do
  let (chomping, s) := takeChomping s
  let (increment, s) ← takeIncrement s
  let (chomping, s) := if chomping = .clip && increment.isSome then takeChomping s else (chomping, s)
  if !(peek s == ' ' || isEnd (peek s)) then throw .malformed
  return (⟨chomping, increment⟩, ← skipLine s)

/-- The line breaks before the first line with text, and the greatest column among the blanks. -/
def firstIndent : Source → List Char × Nat × Source
  | [] => ([], 0, [])
  | p :: rest =>
    if p.char == ' ' then
      let (breaks, most, rest) := firstIndent rest
      (breaks, max (p.column + 1) most, rest)
    else if isBreak p.char then
      let (breaks, most, rest) := firstIndent rest
      (keptBreak p.char :: breaks, most, rest)
    else ([], 0, p :: rest)

/-- The line breaks up to the next line with text, whose indentation is skipped. -/
def blockBreaks (indent : Nat) : Source → List Char × Source
  | [] => ([], [])
  | p :: rest =>
    if p.char == ' ' && p.column < indent then blockBreaks indent rest
    else if isBreak p.char then
      let (breaks, rest) := blockBreaks indent rest
      (keptBreak p.char :: breaks, rest)
    else ([], p :: rest)

/-- The text of the lines, and the line breaks behind the last one: the first, and the others. -/
structure Lines where
  text : List Char
  last : List Char
  others : List Char
  rest : Source

/-- Whether a line of the scalar comes next. -/
def atLine (indent : Nat) (s : Source) : Bool := column s == indent && peek s != endMark

/-- The lines of a scalar, the first of which comes next. At most `fuel` lines are read. -/
def blockLines (folded : Bool) (indent : Nat) : Nat → Source → Lines
  | 0, s => ⟨[], [], [], s⟩
  | fuel + 1, s =>
    let startsWithText := !isBlankChar (peek s)
    let (line, s) := span (fun c => !isEnd c) s
    let (last, s) := takeBreak s
    let (breaks, s) := blockBreaks indent s
    if atLine indent s then
      let joint :=
        if folded && last == ['\n'] && startsWithText && !isBlankChar (peek s) then
          (if breaks.isEmpty then [' '] else [])
        else last
      let more := blockLines folded indent fuel s
      { more with text := line ++ joint ++ breaks ++ more.text }
    else ⟨line, last, breaks, s⟩

/-- A scalar from behind its opening sign; `parent` is the least indentation it can have. -/
def scanBlock (folded : Bool) (parent : Nat) (fuel : Nat) (s : Source) :
    Except Failure (List Char × Source) := do
  let (header, s) ← scanHeader s
  let least := max parent 1
  let (breaks, indent, s) :=
    match header.increment with
    | none =>
      let (breaks, most, s) := firstIndent s
      (breaks, max least most, s)
    | some k =>
      let indent := least + k - 1
      let (breaks, s) := blockBreaks indent s
      (breaks, indent, s)
  let lines :=
    if atLine indent s then
      let lines := blockLines folded indent fuel s
      { lines with text := breaks ++ lines.text }
    else ⟨[], [], breaks, s⟩
  let text :=
    match header.chomping with
    | .strip => lines.text
    | .clip => lines.text ++ lines.last
    | .keep => lines.text ++ lines.last ++ lines.others
  return (text, lines.rest)

end Wireframe.Document.Yaml
