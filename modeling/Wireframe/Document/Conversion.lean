import Wireframe.Error
import Wireframe.Vec3
import Wireframe.Decimal.Reading

/-!
# `Wireframe.Document.Conversion` — values as numbers and points

Numbers of a program may be given as numbers, truth values or number texts, which may also be octets. A
point is a sequence of three of them.

## Contents
- `Value.toFloat`, `Value.toNumber`, `Value.toInteger`: numbers.
- `Value.whole`, `Value.isBelowZero`, `Value.isBelow`: numbers as they are.
- `Value.items?`, `Value.size?`: values with parts.
- `Value.toVec3`: points.
-/

namespace Wireframe.Document

/-- The double nearest to an integer, unless it is beyond the doubles. -/
def floatOfInt (n : Int) : Except Error Float :=
  let x := Decimal.ofInt n
  if x.isFinite then .ok x else .error .tooLarge

/-- Octets as the characters of a number text; those beyond ASCII have no meaning there. -/
def characters (b : List UInt8) : String :=
  String.ofList (b.map fun x => if x < 0x80 then Char.ofNat x.toNat else '?')

namespace Value

/-- The number that a value stands for. -/
def toFloat : Value → Except Error Float
  | .bool b => .ok (if b then 1.0 else 0.0)
  | .int n => floatOfInt n
  | .float x => .ok x
  | .atom (.nan _) => .ok (0.0 / 0.0)
  | .str s =>
    match Decimal.readFloat s with
    | some x => .ok x
    | none => .error .notNumber
  | .atom (.bytes b) =>
    match Decimal.readFloat (characters b) with
    | some x => .ok x
    | none => .error .notNumber
  | _ => .error .notNumeric

/-- The double of a number or truth value; texts have none. -/
def toNumber (v : Value) : Except Error Float :=
  match v with
  | .str _ | .atom (.bytes _) => .error .notNumeric
  | v => v.toFloat

/-- The integer that a value stands for: a double is cut towards zero. -/
def toInteger : Value → Except Error Int
  | .bool b => .ok (if b then 1 else 0)
  | .int n => .ok n
  | .float x =>
    match Decimal.truncate? x with
    | some n => .ok n
    | none => .error (if x.isNaN then .nanToInteger else .infinityToInteger)
  | .atom (.nan _) => .error .nanToInteger
  | .str s =>
    match Decimal.readInt s with
    | some n => .ok n
    | none => .error .notNumber
  | .atom (.bytes b) =>
    match Decimal.readInt (characters b) with
    | some n => .ok n
    | none => .error .notNumber
  | _ => .error .notNumeric

/-- The whole number that a value is; only whole numbers and truth values are. -/
def whole : Value → Except Error Int
  | .bool b => .ok (if b then 1 else 0)
  | .int n => .ok n
  | _ => .error .notNumeric

/-- Whether a number is less than zero; only numbers can be compared. -/
def isBelowZero : Value → Except Error Bool
  | .bool _ | .atom (.nan _) => .ok false
  | .int n => .ok (n < 0)
  | .float x => .ok (x < 0.0)
  | _ => .error .notNumeric

/-- Whether a number is at least zero and below a limit. -/
def isBelow (limit : Nat) : Value → Except Error Bool
  | .bool b => .ok ((if b then 1 else 0) < limit)
  | .int n => .ok (0 ≤ n && n < limit)
  | .float x => .ok (0.0 ≤ x && x < Decimal.ofInt limit)
  | .atom (.nan _) => .ok false
  | _ => .error .notNumeric

/-- The parts that a value is made of, if it has parts: characters of a text, keys of a table. -/
def items? (v : Value) : Option (List Value) :=
  match v.opened with
  | .str s => some (s.toList.map fun c => .str (String.singleton c))
  | .atom (.bytes b) => some (b.map fun x => .int x.toNat)
  | .list items => some items
  | .tuple items => some items
  | .map entries => some (entries.map fun e => e.1.value)
  | .set items => some (items.map Label.value)
  | _ => none

/-- The number of parts of a value with parts. -/
def size? (v : Value) : Option Nat := v.items?.map List.length

/-- Reads numbers from the left; the first that fails decides. -/
def toFloats : List Value → Except Error (List Float)
  | [] => .ok []
  | v :: rest => do
    let x ← v.toFloat
    let xs ← toFloats rest
    return x :: xs

/-- The point that a value stands for; `name` is what messages call it. A value without parts, or with
a part that has no number, is shown whole in the message. -/
def toVec3 (name : String) (v : Value) : Except Error (Vec3 Float) :=
  match v.items? with
  | none => .error (Error.notVector name v).settled
  | some items =>
    match toFloats items with
    | .ok [x, y, z] => .ok ⟨x, y, z⟩
    | .ok xs => .error (.vectorLength name xs.length)
    | .error e => .error (if e.kind == .type then (Error.notVector name v).settled else e)

/-- The whole number that a value stands for, by way of the doubles; truth values are refused. -/
def toWhole (name : String) (v : Value) : Except Error Int :=
  match v with
  | .bool _ => .error (Error.notWhole name v).settled
  | _ => do
    let x ← v.toFloat
    match Decimal.integer? x with
    | some n => .ok n
    | none => .error (Error.notWhole name v).settled

end Value

end Wireframe.Document
