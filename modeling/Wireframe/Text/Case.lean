import Wireframe.Text.CaseTable

/-!
# `Wireframe.Text.Case` — changing the case of a text

Lower and upper case of whole texts. A capital sigma at the end of a word becomes the final form:
some letter with case stands before it and none after it, where marks and similar characters in
between are looked through.

## Contents
- `isUpper`: the class of upper-case characters.
- `lower`, `upper`: the two mappings.
-/

namespace Wireframe.Text

/-- Whether the character is an upper-case character. -/
def isUpper (c : Char) : Bool :=
  if c.toNat < 0x80 then 'A' ≤ c && c ≤ 'Z' else inRanges upperRanges c.toNat

/-- Whether the character is a letter with case that counts for the final sigma. -/
def isCased (c : Char) : Bool := inRanges casedRanges c.toNat

/-- Whether the rule of the final sigma looks through the character. -/
def isIgnorable (c : Char) : Bool := inRanges ignorableRanges c.toNat

/-- Lower case of one character, away from the rule of the final sigma. -/
def lowerChar (c : Char) : List Char :=
  if c.toNat < 0x80 then
    [if 'A' ≤ c && c ≤ 'Z' then Char.ofNat (c.toNat + 32) else c]
  else if c.toNat == 0x130 then
    ['i', Char.ofNat 0x307]
  else
    [((shift? lowerRuns c.toNat).map Char.ofNat).getD c]

/-- Upper case of one character. -/
def upperChar (c : Char) : List Char :=
  if c.toNat < 0x80 then
    [if 'a' ≤ c && c ≤ 'z' then Char.ofNat (c.toNat - 32) else c]
  else
    match upperLong.find? (·.1 == c.toNat) with
    | some (_, cs) => cs.map Char.ofNat
    | none => [((shift? upperRuns c.toNat).map Char.ofNat).getD c]

/-- Whether the next character that is not looked through is a letter with case. -/
def casedFollows (rest : List Char) : Bool :=
  match rest.dropWhile isIgnorable with
  | [] => false
  | c :: _ => isCased c

/-- Lower case of a list of characters; `inWord` says whether a letter with case stands before it. -/
def lowerFrom (inWord : Bool) : List Char → List Char
  | [] => []
  | c :: rest =>
    let here :=
      if c.toNat == 0x3a3 && inWord && !casedFollows rest then [Char.ofNat 0x3c2]
      else lowerChar c
    here ++ lowerFrom (if isIgnorable c then inWord else isCased c) rest

/-- Lower case of a text. -/
def lower (s : String) : String := String.ofList (lowerFrom false s.toList)

/-- Upper case of a text. -/
def upper (s : String) : String := String.ofList (s.toList.flatMap upperChar)

end Wireframe.Text
