import Wireframe.Document.Yaml.Basic

/-!
# `Wireframe.Document.Yaml.Plain` — scalars without quotes

A plain scalar consists of words on one or more lines. Blanks between words of one line are kept; a line
break between words becomes a blank, and further line breaks are kept. Inside brackets the signs of the
brackets end it as well.

## Contents
- `plainWord`, `plainGap`, `scanPlain`.
-/

namespace Wireframe.Document.Yaml

open Source

/-- Whether a colon before this character ends a plain scalar. -/
def endsColon (inFlow : Bool) (c : Char) : Bool :=
  isGap c || (inFlow && (c == ',' || c == '[' || c == ']' || c == '{' || c == '}'))

/-- Whether a character ends a plain scalar inside brackets. -/
def endsInFlow (c : Char) : Bool :=
  c == ',' || c == '?' || c == '[' || c == ']' || c == '{' || c == '}'

/-- One word of a plain scalar. -/
def plainWord (inFlow : Bool) : Source → List Char × Source
  | [] => ([], [])
  | p :: rest =>
    if isGap p.char || (p.char == ':' && endsColon inFlow (peek rest)) ||
        (inFlow && endsInFlow p.char) then ([], p :: rest)
    else
      let (word, rest) := plainWord inFlow rest
      (p.char :: word, rest)

/-- The line breaks and blanks that follow a line break, up to text or to a line that separates
documents; the flag says that there is such a line. -/
def plainBreaks : Source → List Char × Bool × Source
  | [] => ([], false, [])
  | p :: rest =>
    if p.char == ' ' then plainBreaks rest
    else if isBreak p.char then
      if atSeparator rest then ([], true, rest)
      else
        let (breaks, separator, rest) := plainBreaks rest
        (keptBreak p.char :: breaks, separator, rest)
    else ([], false, p :: rest)

/-- What a line break and those that follow it leave in a scalar. -/
def foldBreaks (first : List Char) (breaks : List Char) : List Char :=
  if first != ['\n'] then first ++ breaks
  else if breaks.isEmpty then [' '] else breaks

/-- What stands between two words. -/
structure Gap where
  text : List Char
  /-- A line break is part of it. -/
  crossesLine : Bool
  rest : Source

/-- The gap after a word; it is without text where the scalar ends. -/
def plainGap (s : Source) : Gap :=
  let (blanks, s) := span (· == ' ') s
  match takeBreak s with
  | ([], _) => ⟨blanks, false, s⟩
  | (first, s) =>
    if atSeparator s then ⟨[], true, s⟩
    else
      match plainBreaks s with
      | (_, true, s) => ⟨[], true, s⟩
      | (breaks, false, s) => ⟨foldBreaks first breaks, true, s⟩

/-- A plain scalar from its first word; the flag says that a line break stands behind its last word. At
most `fuel` words are read. -/
def scanPlain (inFlow : Bool) (indent : Nat) : Nat → Source → List Char × Bool × Source
  | 0, s => ([], false, s)
  | fuel + 1, s =>
    let (word, s) := plainWord inFlow s
    let gap := plainGap s
    if gap.text.isEmpty || peek gap.rest == '#' || (!inFlow && column gap.rest < indent) then
      (word, gap.crossesLine, gap.rest)
    else
      match scanPlain inFlow indent fuel gap.rest with
      | ([], _, _) => (word, gap.crossesLine, gap.rest)
      | (more, crosses, s) => (word ++ gap.text ++ more, crosses, s)

end Wireframe.Document.Yaml
