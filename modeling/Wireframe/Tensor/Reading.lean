import Wireframe.Tensor
import Wireframe.Document.Conversion

/-!
# `Wireframe.Tensor.Reading` — arrays from documents

Nested sequences of equal lengths are an array, up to a greatest rank. Its entries are numbers or number
texts; null is no number.

## Contents
- `shape?`, `leaves`: the shape of nested sequences, and what they hold.
- `Tensor.shapeOf`, `Tensor.readEntries`: the parts of a reader.
- `Tensor.ofValue`: the reader.
-/

namespace Wireframe

open Document

namespace Tensor

mutual

/-- The lengths along the axes of nested sequences, if the sequences of one level are equally long. -/
def shape? : Value → Option (List Nat)
  | .list [] => some [0]
  | .list (v :: vs) => do
    let s ← shape? v
    if sameShape s vs then some ((vs.length + 1) :: s) else none
  | .tuple [] => some [0]
  | .tuple (v :: vs) => do
    let s ← shape? v
    if sameShape s vs then some ((vs.length + 1) :: s) else none
  | _ => some []

/-- Whether all values have a shape. -/
def sameShape (s : List Nat) : List Value → Bool
  | [] => true
  | v :: vs => shape? v == some s && sameShape s vs

end

mutual

/-- What nested sequences hold, in order. -/
def leaves : Value → List Value
  | .list vs => leavesOf vs
  | .tuple vs => leavesOf vs
  | v => [v]

/-- What a list of nested sequences holds. -/
def leavesOf : List Value → List Value
  | [] => []
  | v :: vs => leaves v ++ leavesOf vs

end

/-- An entry of an array of numbers. -/
def entry (v : Value) : Except Error Float :=
  match v with
  | .null => .ok (0.0 / 0.0)
  | v => v.toFloat

/-- Reads the entries one after the other. -/
def readEntries {β : Type} (read : Value → Except Error β) : List Value → Except Error (List β)
  | [] => .ok []
  | v :: vs => do
    let x ← read v
    let xs ← readEntries read vs
    return x :: xs

/-- The greatest rank. -/
def maxRank : Nat := 64

/-- The shape of the array that a value is. -/
def shapeOf (v : Value) : Except Error (List Nat) :=
  match shape? v with
  | some shape => if shape.length ≤ maxRank then .ok shape else .error .arrayShape
  | none => .error .arrayShape

/-- The array of numbers that a value is. -/
def ofValue (v : Value) : Except Error (Tensor Float) := do
  let shape ← shapeOf v
  return ⟨shape, ← readEntries entry (leaves v)⟩

end Tensor

end Wireframe
