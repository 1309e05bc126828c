import Wireframe.Document.Value

/-!
# `Wireframe.Document.Yaml.Heap` — what nodes stand for, by number

While a document is read its sequences and tables come into being before their parts do, and a part may be
one that is around it. So what a node stands for is kept under a number, and parts are given by number. At
the end the whole is read off as a value.

## Contents
- `Object`, `Heap`: what nodes stand for.
- `Heap.get?`, `Heap.put`, `Heap.add`: looking and writing.
- `Heap.value`: the value under a number.
-/

namespace Wireframe.Document.Yaml

/-- What a node stands for, with its parts by number. -/
inductive Object where
  | atom (a : Atom)
  | list (items : List Nat)
  | tuple (items : List Nat)
  | map (entries : List (Label × Nat))
  | set (items : List Label)

/-- Objects by number, up to those that have not come into being. -/
abbrev Heap := Array (Option Object)

namespace Heap

/-- The object under a number. -/
def get? (h : Heap) (id : Nat) : Option Object := (h[id]?).join

/-- Writes an object under a number. -/
def put (h : Heap) (id : Nat) (o : Object) : Heap := h.setIfInBounds id (some o)

/-- Gives a new number to an object. -/
def add (h : Heap) (o : Object) : Nat × Heap := (h.size, h.push (some o))

/-- The value under a number, inside the objects of a path. Where objects may contain themselves each of
them is a knot. Objects lie at most as deep in one another as there are objects. -/
def value (h : Heap) (isLooped : Bool) (path : List Nat) : Nat → Nat → Value
  | 0, _ => .null
  | fuel + 1, id =>
    if path.contains id then .again id
    else
      let part := value h isLooped (id :: path) fuel
      let whole := fun (v : Value) => if isLooped then Value.knot id v else v
      match h.get? id with
      | none => .null
      | some (.atom a) => .atom a
      | some (.list items) => whole (.list (items.map part))
      | some (.tuple items) => whole (.tuple (items.map part))
      | some (.map entries) => whole (.map (entries.map fun e => (e.1, part e.2)))
      | some (.set items) => .set items

end Heap

end Wireframe.Document.Yaml
