import Wireframe.Error
import Wireframe.Scalar

/-!
# `Wireframe.Tensor` — rectangular arrays of any rank

Arguments of the matrix and geometry operations come as nested lists of numbers. A rectangular one has a
shape, the lengths along its axes, and its entries in order with the last axis fastest.

## Contents
- `Tensor`, `slices`, `chunks`, `rows?`: arrays and views of their entries.
- `ofSlices`, `part?`, `firsts`, `onSlices`, `reversed`: arrays by their parts, and their axes in reverse.
- `zipWith`: two arrays entry by entry, an axis of length one being repeated.
- `product`: the matrix product of arrays of rank one and above; axes before the last two are matched
  pairwise, an axis of length one being repeated.
-/

namespace Wireframe

/-- A rectangular array: lengths along the axes and the entries, last axis fastest. -/
structure Tensor (α : Type) where
  shape : List Nat
  entries : List α
  deriving Repr, Inhabited

namespace Tensor

variable {α : Type}

/-- The number of entries that a shape has. -/
def count (shape : List Nat) : Nat := shape.foldl (· * ·) 1

/-- A single number. -/
def scalar (a : α) : Tensor α := ⟨[], [a]⟩

/-- The rank. -/
def rank (t : Tensor α) : Nat := t.shape.length

/-- Cuts a list into `count` pieces of equal length. -/
def chunks (size : Nat) : Nat → List α → List (List α)
  | 0, _ => []
  | count + 1, xs => xs.take size :: chunks size count (xs.drop size)

/-- The parts along the first axis. -/
def slices (t : Tensor α) : List (Tensor α) :=
  match t.shape with
  | [] => []
  | n :: rest => (chunks (count rest) n t.entries).map fun part => ⟨rest, part⟩

/-- Changes every entry. -/
def map {β : Type} (f : α → β) (t : Tensor α) : Tensor β := ⟨t.shape, t.entries.map f⟩

/-- The entries in rows of a given length, whatever the shape was. -/
def rows? (width : Nat) (t : Tensor α) : Except Error (List (List α)) :=
  if t.entries.length % width == 0 then
    .ok (chunks width (t.entries.length / width) t.entries)
  else .error .arrayShape

/-! ## Parts -/

/-- The array of parts of a shape. -/
def ofSlices (shape : List Nat) (parts : List (Tensor α)) : Tensor α :=
  ⟨parts.length :: shape, parts.flatMap entries⟩

/-- The part at an index of the first axis. -/
def part? (i : Nat) (t : Tensor α) : Except Error (Tensor α) :=
  match t.slices[i]? with
  | some part => .ok part
  | none => .error .arrayIndex

/-- At most the first `n` parts along the first axis; a single number has none. -/
def firsts (n : Nat) (t : Tensor α) : Except Error (Tensor α) :=
  match t.shape with
  | [] => .error .arrayIndex
  | _ :: rest => .ok (ofSlices rest (t.slices.take n))

/-- Changes every part along the first axis; `onShape` says what becomes of the shape of a part. -/
def onSlices (onShape : List Nat → List Nat) (f : Tensor α → Except Error (Tensor α)) (t : Tensor α) :
    Except Error (Tensor α) :=
  (t.slices.mapM f).map (ofSlices (onShape t.shape.tail))

/-- Item by item what lists of one length hold. -/
def columns (width : Nat) (rows : List (List α)) : List (List α) :=
  (List.range width).map fun j => rows.filterMap (·[j]?)

/-- The entries of an array whose axes come in reverse. -/
def reversedEntries : List Nat → List α → List α
  | [], xs => xs
  | n :: rest, xs =>
    let parts := (chunks (count rest) n xs).map (reversedEntries rest)
    (columns (count rest) parts).flatten

/-- The array with its axes in reverse. -/
def reversed (t : Tensor α) : Tensor α := ⟨t.shape.reverse, reversedEntries t.shape t.entries⟩

/-! ## Entry by entry -/

/-- The common shape of two shapes read from the last axis: lengths agree, or one of them is one. -/
def broadcastReversed? : List Nat → List Nat → Option (List Nat)
  | [], bs => some bs
  | as, [] => some as
  | a :: as, b :: bs =>
    if a == b || b == 1 then (broadcastReversed? as bs).map (a :: ·)
    else if a == 1 then (broadcastReversed? as bs).map (b :: ·)
    else none

/-- The common shape of two shapes. -/
def broadcast? (as bs : List Nat) : Option (List Nat) :=
  (broadcastReversed? as.reverse bs.reverse).map List.reverse

/-- The place of index `i` of a common shape among the parts of one of the two shapes, both read from
the last axis. -/
def partIndexReversed : List Nat → List Nat → Nat → Nat
  | [], _, _ => 0
  | _, [], _ => 0
  | n :: common, a :: as, i =>
    (if a == 1 then 0 else i % n) + a * partIndexReversed common as (i / n)

/-- Two arrays entry by entry. -/
def zipWith {β γ : Type} (f : α → β → γ) (a : Tensor α) (b : Tensor β) : Except Error (Tensor γ) :=
  match broadcast? a.shape b.shape with
  | none => .error .arrayShape
  | some shape =>
    let as := a.entries.toArray
    let bs := b.entries.toArray
    let place := fun (part : List Nat) (i : Nat) => partIndexReversed shape.reverse part.reverse i
    .ok ⟨shape, (List.range (count shape)).filterMap fun i => do
      let x ← as[place a.shape i]?
      let y ← bs[place b.shape i]?
      return f x y⟩

/-- The array with an axis of length one behind the first axis. -/
def withUnitAxis (t : Tensor α) : Except Error (Tensor α) :=
  match t.shape with
  | [] => .error .arrayIndex
  | n :: rest => .ok ⟨n :: 1 :: rest, t.entries⟩

/-! ## Products -/

/-- The sum of the products of two rows, from the left. -/
def dot [Scalar α] : List α → List α → α
  | x :: xs, y :: ys => (xs.zip ys).foldl (fun acc (a, b) => acc + a * b) (x * y)
  | _, _ => Scalar.zero

/-- The product of two matrices given by their entries. -/
def matrixProduct [Scalar α] (n k m : Nat) (a b : List α) : List α :=
  let cols := columns m (chunks m k b)
  (chunks k n a).flatMap fun row => cols.map (dot row)

/-- A vector counts as a row on the left and as a column on the right of a product. -/
def asLeft (t : Tensor α) : Tensor α :=
  match t.shape with
  | [n] => ⟨[1, n], t.entries⟩
  | _ => t

@[inherit_doc asLeft]
def asRight (t : Tensor α) : Tensor α :=
  match t.shape with
  | [n] => ⟨[n, 1], t.entries⟩
  | _ => t

/-- The shape without the axes that a vector got on its side of a product. -/
def resultShape (left right : Nat) (outer : List Nat) (n m : Nat) : List Nat :=
  outer ++ (if left == 1 then [] else [n]) ++ (if right == 1 then [] else [m])

/-- The matrix product. -/
def product [Scalar α] (a b : Tensor α) : Except Error (Tensor α) :=
  if a.rank == 0 || b.rank == 0 then .error .arrayShape
  else
    let l := a.asLeft
    let r := b.asRight
    match l.shape.reverse, r.shape.reverse with
    | k :: n :: louter, m :: k' :: router =>
      if k != k' then .error .arrayShape
      else
        match broadcastReversed? louter router with
        | none => .error .arrayShape
        | some outer =>
          let lparts := (chunks (n * k) (count louter) l.entries).toArray
          let rparts := (chunks (k * m) (count router) r.entries).toArray
          let parts := (List.range (count outer)).flatMap fun i =>
            matrixProduct n k m
              (lparts[partIndexReversed outer louter i]?.getD [])
              (rparts[partIndexReversed outer router i]?.getD [])
          .ok ⟨resultShape a.rank b.rank outer.reverse n m, parts⟩
    | _, _ => .error .arrayShape

end Tensor

end Wireframe
