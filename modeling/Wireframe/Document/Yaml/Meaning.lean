import Wireframe.Document.Yaml.Scalar
import Wireframe.Document.Yaml.Heap
import Wireframe.Document.Members

/-!
# `Wireframe.Document.Yaml.Meaning` — what nodes stand for

A scalar is read when it is met. A sequence or table is empty at first and has to wait; what waits is
filled in rounds, and what is met in one round waits for the next. So of several faults the outermost
decides, and of equally deep ones the first.

A table may take over the entries of other tables; they come before its own, which win. This changes the
table for good, and so does a key that stands for a value of its own, which becomes a text. Keys of a table
must be atoms.

## Contents
- `Making`: the state, and actions on it.
- `spelling`, `make`: scalars, and nodes that are met.
- `takeOver`: the entries of other tables.
- `fill`, `rounds`: what waits.
- `Graph.value`: the value of a document.
-/

namespace Wireframe.Document.Yaml

/-- The nodes, what they stand for, and those that wait, the last one first. -/
structure Build where
  nodes : Array Node
  heap : Heap
  waiting : List Nat := []

/-- Making values of nodes. -/
abbrev Making := StateT Build (Except Failure)

/-- The node with a number. -/
def nodeAt (id : Nat) : Making Node := do return ((← get).nodes[id]?).getD .nothing

/-- The entries of a table. -/
def entriesOf (id : Nat) : Making (List (Nat × Nat)) := do
  match (← nodeAt id).content with
  | .mapping entries => return entries
  | _ => return []

/-- Changes a node. -/
def setNode (id : Nat) (n : Node) : Making Unit :=
  modify fun b => { b with nodes := b.nodes.setIfInBounds id n }

/-- Gives a table other entries. -/
def setEntries (id : Nat) (entries : List (Nat × Nat)) : Making Unit := do
  setNode id { ← nodeAt id with content := .mapping entries }

/-- Makes an object of a node. -/
def putObject (id : Nat) (o : Object) : Making Unit :=
  modify fun b => { b with heap := b.heap.put id o }

/-! ## Nodes that are met -/

/-- The spelling of a scalar; a table has that of the first value of its own. -/
def spelling : Nat → Nat → Making String
  | 0, _ => throw (.faulty .endless)
  | fuel + 1, id => do
    match (← nodeAt id).content with
    | .scalar text => return text
    | .sequence _ => throw .malformed
    | .mapping entries =>
      let nodes := (← get).nodes
      match entries.find? fun e => (nodes[e.1]?).any fun k => k.tag = .default with
      | some e => spelling fuel e.2
      | none => throw .malformed

/-- Makes an object that waits for its parts. -/
def putWaiting (id : Nat) (o : Object) : Making Unit := do
  putObject id o
  modify fun b => { b with waiting := id :: b.waiting }

/-- Reads the scalar that a node is. A table cannot spell a timestamp. -/
def makeAtom (id : Nat) (n : Node) : Making Unit := do
  let text ← spelling ((← get).nodes.size + 1) id
  match n.tag, n.content with
  | .timestamp, .mapping _ => throw (.faulty .notNumeric)
  | tag, _ => putObject id (.atom (← atomOf id tag text))

/-- Meets a node; one that was met before stands for the same object again. -/
def make (id : Nat) : Making Unit := do
  if ((← get).heap.get? id).isNone then
    let n ← nodeAt id
    match n.tag with
    | .sequence | .ordered | .pairs => putWaiting id (.list [])
    | .mapping => putWaiting id (.map [])
    | .set => putWaiting id (.set [])
    | .merge | .default | .unknown => throw .malformed
    | _ => makeAtom id n

/-! ## Entries of other tables -/

mutual

/-- Takes over the entries that a table asks for, from an index on; `taken` is what it has got. The key
that asks is removed before other tables are looked at. -/
def takeFrom (id index : Nat) (taken : List (Nat × Nat)) : Nat → Making Unit
  | 0 => throw (.faulty .endless)
  | fuel + 1 => do
    let entries ← entriesOf id
    match entries[index]? with
    | none => if !taken.isEmpty then setEntries id (taken ++ entries)
    | some (k, v) =>
      let key ← nodeAt k
      match key.tag with
      | .merge =>
        setEntries id (entries.eraseIdx index)
        takeFrom id index (taken ++ (← given v fuel)) fuel
      | .default =>
        setNode k { key with tag := .text }
        takeFrom id (index + 1) taken fuel
      | _ => takeFrom id (index + 1) taken fuel

/-- What a table or a sequence of tables gives; of several tables the first ones win, so they come
last. -/
def given (id : Nat) : Nat → Making (List (Nat × Nat))
  | 0 => throw (.faulty .endless)
  | fuel + 1 => do
    match (← nodeAt id).content with
    | .mapping _ =>
      takeFrom id 0 [] fuel
      entriesOf id
    | .sequence items => return (← givenByAll items fuel).reverse.flatten
    | .scalar _ => throw .malformed

/-- What several tables give, one after the other. -/
def givenByAll (items : List Nat) : Nat → Making (List (List (Nat × Nat)))
  | 0 => throw (.faulty .endless)
  | fuel + 1 => do
    match items with
    | [] => return []
    | id :: rest =>
      match (← nodeAt id).content with
      | .mapping _ =>
        takeFrom id 0 [] fuel
        let entries ← entriesOf id
        return entries :: (← givenByAll rest fuel)
      | _ => throw .malformed

end

/-- The number of parts of a node. -/
def Node.size (n : Node) : Nat :=
  match n.content with
  | .scalar _ => 0
  | .sequence items => items.length
  | .mapping entries => entries.length

/-- Takes over the entries that a table asks for. Every part of the document at most doubles what there is
to take. -/
def takeOver (id : Nat) : Making Unit := do
  let parts := (← get).nodes.foldl (fun k n => k + n.size) 0
  takeFrom id 0 [] ((parts + 2) * 2 ^ (parts + 2))

/-! ## What waits -/

/-- The key that a node is. -/
def keyOf (id : Nat) : Making Label := do
  match (← get).heap.get? id with
  | some (.atom a) => return .atom a
  | _ => throw .malformed

/-- Meets keys and values one after the other; of equal keys the first is kept, with the last value. -/
def makeEntries (d : Dict Label Nat) : List (Nat × Nat) → Making (Dict Label Nat)
  | [] => return d
  | (k, v) :: rest => do
    make k
    let key ← keyOf k
    make v
    makeEntries (d.insert key v) rest

/-- The entries of a table with those that it takes over. -/
def tableOf (id : Nat) : Making (Dict Label Nat) := do
  match (← nodeAt id).content with
  | .mapping _ =>
    takeOver id
    makeEntries .empty (← entriesOf id)
  | _ => throw .malformed

/-- Meets the items of a sequence. -/
def makeItems : List Nat → Making Unit
  | [] => return
  | id :: rest => do
    make id
    makeItems rest

/-- The pairs of a sequence of tables with one entry. -/
def makePairs : List Nat → Making (List Nat)
  | [] => return []
  | id :: rest => do
    match (← nodeAt id).content with
    | .mapping [(k, v)] =>
      make k
      make v
      let (pair, heap) := (← get).heap.add (.tuple [k, v])
      modify fun b => { b with heap := heap }
      return pair :: (← makePairs rest)
    | _ => throw .malformed

/-- The items of a sequence. -/
def itemsOf (id : Nat) : Making (List Nat) := do
  match (← nodeAt id).content with
  | .sequence items => return items
  | _ => throw .malformed

/-- Fills what a node stands for. -/
def fill (id : Nat) : Making Unit := do
  match (← nodeAt id).tag with
  | .sequence =>
    let items ← itemsOf id
    makeItems items
    putObject id (.list items)
  | .ordered | .pairs => putObject id (.list (← makePairs (← itemsOf id)))
  | .set => putObject id (.set (inOrder (← tableOf id).keys))
  | _ => putObject id (.map (← tableOf id).entries)

/-- Fills what waits, one after the other. -/
def fillAll : List Nat → Making Unit
  | [] => return
  | id :: rest => do
    fill id
    fillAll rest

/-- Fills what waits until nothing waits any more; every node waits once at most. -/
def rounds : Nat → Making Unit
  | 0 => return
  | fuel + 1 => do
    let ids := (← get).waiting.reverse
    if !ids.isEmpty then
      modify fun b => { b with waiting := [] }
      fillAll ids
      rounds fuel

/-- The value of a document. -/
def Graph.value (g : Graph) : Except Failure Value := do
  let all : Making Unit := do
    make g.root
    rounds (g.nodes.size + 1)
  let (_, b) ← all.run { nodes := g.nodes, heap := Array.replicate g.nodes.size none }
  return b.heap.value g.isLooped [] (b.heap.size + 1) g.root

end Wireframe.Document.Yaml
