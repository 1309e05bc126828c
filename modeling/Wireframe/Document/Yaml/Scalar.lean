import Wireframe.Text.Base64
import Wireframe.Text.Case
import Wireframe.Document.Yaml.Basic
import Wireframe.Document.Yaml.Node

/-!
# `Wireframe.Document.Yaml.Scalar` — what scalars stand for

The spelling of a scalar is read according to its tag. A tag may be given to a scalar whose spelling it
does not allow; then reading fails.

## Contents
- `boolOf`, `intOf`, `floatOf`, `timestampOf`, `binaryOf`: the readers.
- `floatAtom`: numbers that are not a number.
- `atomOf`: the value of a scalar.
-/

namespace Wireframe.Document.Yaml

/-- A failure with a cause. -/
def faulty {β : Type} (e : Error) : Except Failure β := .error (.faulty e)

/-- What a reader found, or a text that is no number. -/
def numberOr {β : Type} (r : Option β) : Except Failure β :=
  match r with
  | some b => .ok b
  | none => faulty .notNumber

/-- A truth value. -/
def boolOf (text : String) : Except Failure Atom :=
  match Text.lower text with
  | "yes" => .ok (.bool true)
  | "true" => .ok (.bool true)
  | "on" => .ok (.bool true)
  | "no" => .ok (.bool false)
  | "false" => .ok (.bool false)
  | "off" => .ok (.bool false)
  | _ => faulty (.outside .key)

/-- A text without underscores. -/
def withoutBars (text : String) : List Char := text.toList.filter (· != '_')

/-- The parts of a text between colons. -/
def colonParts (cs : List Char) : List String := (String.ofList cs).splitOn ":"

/-- A number without its sign: zero, in base 2, 16 or 8 by how it begins, in parts of sixty, or in base
ten. -/
def unsignedInt (cs : List Char) : Except Failure Int :=
  match cs with
  | [] => faulty .arrayIndex
  | ['0'] => .ok 0
  | '0' :: 'b' :: ds => numberOr (Decimal.readBase 2 'b' (String.ofList ds))
  | '0' :: 'x' :: ds => numberOr (Decimal.readBase 16 'x' (String.ofList ds))
  | '0' :: _ => numberOr (Decimal.readBase 8 'o' (String.ofList cs))
  | _ =>
    if cs.contains ':' then
      (numberOr ((colonParts cs).mapM Decimal.readInt)).map fun parts =>
        parts.foldl (fun n part => 60 * n + part) 0
    else numberOr (Decimal.readInt (String.ofList cs))

/-- Splits off a sign; no sign is a plus. -/
def splitSign (cs : List Char) : Bool × List Char :=
  match cs with
  | '-' :: rest => (true, rest)
  | '+' :: rest => (false, rest)
  | cs => (false, cs)

/-- A whole number. -/
def intOf (text : String) : Except Failure Int :=
  let (negative, cs) := splitSign (withoutBars text)
  (unsignedInt cs).map fun n => if negative then -n else n

/-- The sum of parts of sixty, the last part first; `base` is the weight of the next one. -/
def sumSixties (total : Float) (base : Nat) : List Float → Except Failure Float
  | [] => .ok total
  | x :: rest =>
    let weight := Decimal.ofInt base
    if weight.isFinite then sumSixties (total + x * weight) (60 * base) rest else faulty .tooLarge

/-- A number without its sign. -/
def unsignedFloat (cs : List Char) : Except Failure Float :=
  let word := String.ofList cs
  if word == ".inf" then .ok (1.0 / 0.0)
  else if word == ".nan" then .ok (0.0 / 0.0)
  else if cs.contains ':' then do
    let parts ← numberOr ((colonParts cs).mapM Decimal.readFloat)
    sumSixties 0.0 1 parts.reverse
  else numberOr (Decimal.readFloat word)

/-- A number with a point. -/
def floatOf (text : String) : Except Failure Float :=
  match (withoutBars text).map Decimal.asciiLower with
  | [] => faulty .arrayIndex
  | cs =>
    let (negative, cs) := splitSign cs
    (unsignedFloat cs).map fun x => if negative then -1.0 * x else x

/-- Whether a text spells the number that is not a number, with or without a sign. -/
def isNaNWord (text : String) : Bool :=
  (splitSign ((withoutBars text).map Decimal.asciiLower)).2 == ".nan".toList

/-- A number with a point. The number that is not a number is one and the same wherever it is spelled out;
one that comes about in another way is marked. -/
def floatAtom (mark : Nat) (text : String) : Except Failure Atom :=
  (floatOf text).map fun x => if x.isNaN && !isNaNWord text then .nan mark else .float x

/-- A date or moment. -/
def timestampOf (text : String) : Except Failure Atom :=
  match Timestamp.readLine? text.toList with
  | none => faulty .notMapping
  | some t =>
    match t.clock with
    | none => (numberOr t.date?).map .date
    | some c => (numberOr (t.moment? c)).map .moment

/-- Octets. -/
def binaryOf (text : String) : Except Failure Atom :=
  if text.toList.all fun c => c.toNat < 0x80 then
    match Text.Base64.decode text.toList with
    | some octets => .ok (.bytes octets)
    | none => .error .malformed
  else .error .malformed

/-- The value of a scalar; `mark` tells it apart from other scalars. -/
def atomOf (mark : Nat) (tag : Tag) (text : String) : Except Failure Atom :=
  match tag with
  | .null => .ok .null
  | .bool => boolOf text
  | .int => (intOf text).map .int
  | .float => floatAtom mark text
  | .binary => binaryOf text
  | .timestamp => timestampOf text
  | .text => .ok (.text text)
  | _ => .error .malformed

end Wireframe.Document.Yaml
