import Wireframe.Matrix

/-!
# `Wireframe.Stack` — the stack of coordinate systems

A stack of transforms that is never empty. Its lowest entry is the world; the top is the coordinate
system in which the program draws.

## Contents
- `Stack`, `entries`, `depth`: the stack and its entries from the world up.
- `push`, `pop`, `replaceTop`, `transform`, `apply`, `world`: the operations.
-/

namespace Wireframe

/-- A stack of transforms: the top, and below it the others down to the world. -/
structure Stack (α : Type) where
  top : Matrix α
  below : List (Matrix α) := []
  deriving DecidableEq, Repr, Inhabited

namespace Stack

variable {α : Type}

/-- The entries from the world to the top. -/
def entries (s : Stack α) : List (Matrix α) := (s.top :: s.below).reverse

/-- The number of entries. -/
def depth (s : Stack α) : Nat := s.below.length + 1

/-- Doubles the top. -/
def push (s : Stack α) : Stack α := ⟨s.top, s.top :: s.below⟩

/-- Removes the top, unless it is the world. -/
def pop (s : Stack α) : Except Error (Matrix α × Stack α) :=
  match s.below with
  | [] => .error .worldPop
  | m :: rest => .ok (s.top, ⟨m, rest⟩)

/-- Replaces the top by an array of shape (4, 4). -/
def replaceTop (s : Stack α) (t : Tensor α) : Except Error (Stack α) :=
  (Matrix.ofTensor? t).map fun m => { s with top := m }

variable [Scalar α]

/-- The world alone, without a transform. -/
def world : Stack α := ⟨Matrix.identity, []⟩

/-- Applies a transform before the top. -/
def transform (s : Stack α) (m : Matrix α) : Stack α := { s with top := s.top.mul m }

/-- Replaces the top by its product with an array. -/
def apply (s : Stack α) (t : Tensor α) : Except Error (Stack α) := do
  let p ← s.top.toTensor.product t
  s.replaceTop p

end Stack

end Wireframe
