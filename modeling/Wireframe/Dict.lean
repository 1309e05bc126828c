/-!
# `Wireframe.Dict` — ordered tables

A table from keys to values that remembers the order in which its keys first came. Writing to a key
that is there keeps its place and its first spelling; keys are compared by `==`.

## Contents
- `Dict`, `find?`, `contains`, `insert`, `erase`, `keys`, `merge`.
-/

namespace Wireframe

/-- Pairs of key and value in the order in which the keys first came. -/
structure Dict (κ ν : Type) where
  entries : List (κ × ν) := []
  deriving Repr

namespace Dict

variable {κ ν : Type} [BEq κ]

/-- The table without entries. -/
def empty : Dict κ ν := ⟨[]⟩

instance : Inhabited (Dict κ ν) := ⟨empty⟩

/-- The value under a key in a list of entries. -/
def findIn? (k : κ) : List (κ × ν) → Option ν
  | [] => none
  | (k', v) :: rest => if k' == k then some v else findIn? k rest

/-- The value under a key. -/
def find? (d : Dict κ ν) (k : κ) : Option ν := findIn? k d.entries

/-- Whether there is an entry under the key. -/
def contains (d : Dict κ ν) (k : κ) : Bool := (d.find? k).isSome

/-- Writes into a list of entries. -/
def insertIn (k : κ) (v : ν) : List (κ × ν) → List (κ × ν)
  | [] => [(k, v)]
  | (k', v') :: rest => if k' == k then (k', v) :: rest else (k', v') :: insertIn k v rest

/-- Writes a value under a key; a new key comes last. -/
def insert (d : Dict κ ν) (k : κ) (v : ν) : Dict κ ν := ⟨insertIn k v d.entries⟩

/-- Removes the entry under a key. -/
def erase (d : Dict κ ν) (k : κ) : Dict κ ν := ⟨d.entries.filter fun e => !(e.1 == k)⟩

/-- The keys in order. -/
def keys (d : Dict κ ν) : List κ := d.entries.map (·.1)

/-- The number of entries. -/
def size (d : Dict κ ν) : Nat := d.entries.length

/-- Writes the entries of a list one after the other. -/
def merge (d : Dict κ ν) (entries : List (κ × ν)) : Dict κ ν :=
  entries.foldl (fun d e => d.insert e.1 e.2) d

/-- The table of a list of entries: the place of the first, the value of the last of each key. -/
def ofList (entries : List (κ × ν)) : Dict κ ν := empty.merge entries

/-- Changes every value. -/
def map {μ : Type} (f : κ → ν → μ) (d : Dict κ ν) : Dict κ μ :=
  ⟨d.entries.map fun e => (e.1, f e.1 e.2)⟩

end Dict

end Wireframe
