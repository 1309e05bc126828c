import Wireframe.Error
import Wireframe.Text.Snake

/-!
# `Wireframe.Registry` — things under names

A registry keeps things under names, in the order in which the names came. Every spelling of a name
with the same normal form stands for the same entry.

## Contents
- `Registry`, `normalize`: entries by normal form.
- `register`, `get`, `isRegistered`, `unregister`, `names`: the operations.
-/

namespace Wireframe

open Document

/-- Things by the normal forms of their names. -/
structure Registry (β : Type) where
  table : Dict String β := .empty

namespace Registry

variable {β : Type}

/-- The normal form of a name that is a text; an empty one is refused. -/
def normalize (name : String) : Except Error String :=
  if (Text.trim name).isEmpty then .error .keyEmpty else .ok (Text.snake name)

/-- The normal form of a value as a name. -/
def key (name : Value) : Except Error String :=
  match name with
  | .str s => normalize s
  | _ => .error .keyNotText

/-- Registers a thing under a name, or under its own name when none is given. A name that stands for
another thing is refused. -/
def register [BEq β] (r : Registry β) (name : Value) (own : String) (thing : β) :
    Except Error (Registry β) := do
  let k ← if name.isTruthy then key name else normalize own
  match r.table.find? k with
  | some other => if other == thing then return ⟨r.table.insert k thing⟩ else throw (.keyTaken k)
  | none => return ⟨r.table.insert k thing⟩

/-- The thing under a name. -/
def get (r : Registry β) (name : Value) : Except Error β := do
  let k ← key name
  match r.table.find? k with
  | some thing => return thing
  | none => throw (.keyUnknown name.text)

/-- Whether a name stands for something. -/
def isRegistered (r : Registry β) (name : Value) : Except Error Bool := do
  let k ← key name
  return r.table.contains k

/-- Removes what a name stands for, if anything. -/
def unregister (r : Registry β) (name : Value) : Except Error (Registry β) := do
  let k ← key name
  return ⟨r.table.erase k⟩

/-- The normal forms of the names, in order. -/
def names (r : Registry β) : List String := r.table.keys

end Registry

end Wireframe
