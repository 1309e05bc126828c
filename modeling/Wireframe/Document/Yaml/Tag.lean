import Wireframe.Decimal.Reading
import Wireframe.Document.Yaml.Block
import Wireframe.Document.Yaml.Token

/-!
# `Wireframe.Document.Yaml.Tag` — names, tags and directives

Anchors and aliases have names. A tag is a handle between exclamation marks and a suffix, or a whole name
in angle brackets. A directive stands on a line of its own before a document.

## Contents
- `scanName`, `scanHandle`, `scanSuffix`, `scanTag`, `scanDirective`.
-/

namespace Wireframe.Document.Yaml

open Source

/-- The name behind the sign of an anchor or alias. -/
def scanName (s : Source) : Except Failure (String × Source) :=
  let (name, s) := span isNameChar s
  let c := peek s
  if name.isEmpty || !(isGap c || "?:,]\x7d%@`".contains c) then .error .malformed
  else .ok (String.ofList name, s)

/-- A handle: one exclamation mark, or a name between two. -/
def scanHandle (s : Source) : Except Failure (String × Source) :=
  if peek s != '!' then .error .malformed
  else if peekAt 1 s == ' ' then .ok ("!", s.drop 1)
  else
    let (name, s) := span isNameChar (s.drop 1)
    if peek s == '!' then .ok (String.ofList ('!' :: name ++ ['!']), s.drop 1) else .error .malformed

/-- The octets written as a percent sign and two hexadecimal digits. -/
def takeOctets : Source → Except Failure (List UInt8 × Source)
  | p :: a :: b :: rest =>
    if p.char == '%' then
      match Decimal.hexValue? a.char, Decimal.hexValue? b.char with
      | some x, some y => do
        let (octets, rest) ← takeOctets rest
        return (UInt8.ofNat (16 * x + y) :: octets, rest)
      | _, _ => .error .malformed
    else .ok ([], p :: a :: b :: rest)
  | s => if peek s == '%' then .error .malformed else .ok ([], s)

/-- The characters of a tag. -/
def isTagChar (c : Char) : Bool := c.isAlphanum || "-;/?:@&=+$,_.!~*'()[]%".contains c

/-- The characters of a suffix. -/
def suffixChars : Nat → Source → Except Failure (List Char × Source)
  | 0, _ => .error .malformed
  | fuel + 1, s => do
    let c := peek s
    if c == '%' then
      let (octets, s) ← takeOctets s
      match String.fromUTF8? ⟨octets.toArray⟩ with
      | none => throw .malformed
      | some text =>
        let (more, s) ← suffixChars fuel s
        return (text.toList ++ more, s)
    else if isTagChar c then
      let (more, s) ← suffixChars fuel (s.drop 1)
      return (c :: more, s)
    else return ([], s)

/-- The suffix of a tag, which is not empty. -/
def scanSuffix (fuel : Nat) (s : Source) : Except Failure (String × Source) := do
  let (cs, s) ← suffixChars fuel s
  if cs.isEmpty then throw .malformed else return (String.ofList cs, s)

/-- A tag from its exclamation mark on. -/
def scanTag (fuel : Nat) (s : Source) : Except Failure (Token × Source) := do
  let c := peekAt 1 s
  let (token, s) ←
    if c == '<' then do
      let (suffix, s) ← scanSuffix fuel (s.drop 2)
      if peek s != '>' then throw .malformed
      pure (Token.tag none suffix, s.drop 1)
    else if isGap c then pure (Token.tag none "!", s.drop 1)
    else do
      let (word, _) := span (fun c => !(c == ' ' || isEnd c)) (s.drop 1)
      let (handle, s) ← if word.contains '!' then scanHandle s else pure ("!", s.drop 1)
      let (suffix, s) ← scanSuffix fuel s
      pure (Token.tag (some handle) suffix, s)
  if peek s == ' ' || isEnd (peek s) then return (token, s) else throw .malformed

/-- Whether a word of a directive ends. -/
def endsWord (s : Source) : Bool := peek s == ' ' || isEnd (peek s)

/-- A number of a version. -/
def scanNumber (s : Source) : Except Failure (Nat × Source) :=
  let (digits, s) := span Char.isDigit s
  if digits.isEmpty then .error .malformed
  else if digits.length > Decimal.maxDigits then .error (.faulty .notNumber)
  else .ok (Decimal.digitsValue digits, s)

/-- The number of a version before its point. -/
def scanVersion (s : Source) : Except Failure (Token × Source) := do
  let (major, s) ← scanNumber (skip (· == ' ') s)
  if peek s != '.' then throw .malformed
  let (_, s) ← scanNumber (s.drop 1)
  if endsWord s then return (.version major, s) else throw .malformed

/-- A handle and what it stands for. -/
def scanTagHandle (fuel : Nat) (s : Source) : Except Failure (Token × Source) := do
  let (handle, s) ← scanHandle (skip (· == ' ') s)
  if peek s != ' ' then throw .malformed
  let (target, s) ← scanSuffix fuel (skip (· == ' ') s)
  if endsWord s then return (.tagHandle handle target, s) else throw .malformed

/-- A directive from behind its percent sign, with the end of its line. -/
def scanDirective (fuel : Nat) (s : Source) : Except Failure (Token × Source) := do
  let (name, s) := span isNameChar s
  if name.isEmpty || !endsWord s then throw .malformed
  let (token, s) ←
    match String.ofList name with
    | "YAML" => scanVersion s
    | "TAG" => scanTagHandle fuel s
    | _ => pure (Token.otherDirective, skip (fun c => !isEnd c) s)
  return (token, ← skipLine s)

end Wireframe.Document.Yaml
