import Wireframe.Matrix

/-!
# `Wireframe.Geometry` — polylines

A geometry is a list of polylines, kept in two buffers: all vertices one after the other, and for each
polyline the number of vertices before it, followed by the number of all vertices. A triangle is a
polyline of three vertices that is closed when it is drawn. Coordinates are rounded when they are stored.

## Contents
- `Geometry`, `Geometry.Valid`, `polylines`: the buffers, when they fit, and what they mean.
- `ofArrays`, `ofPolylines`, `ofLines`, `ofTriangles`: building.
- `transform`, `concat`: images and unions.
- `Segment`, `segments`: the straight pieces that are drawn.
-/

namespace Wireframe

/-- Vertices of all polylines, and where the polylines begin; the last offset is the number of
vertices. -/
structure Geometry (α : Type) where
  points : List (Vec3 α)
  offsets : List Nat
  deriving DecidableEq, Repr, Inhabited

/-- A straight piece in the plane of the picture. -/
structure Segment (α : Type) where
  x0 : α
  y0 : α
  x1 : α
  y1 : α
  deriving DecidableEq, Repr, Inhabited

/-- Three vertices. -/
structure Triangle (α : Type) where
  a : α
  b : α
  c : α
  deriving DecidableEq, Repr

namespace Triangle

/-- The corners in order. -/
def toList {α : Type} (t : Triangle α) : List α := [t.a, t.b, t.c]

/-- Changes every corner. -/
def map {α β : Type} (f : α → β) (t : Triangle α) : Triangle β := ⟨f t.a, f t.b, f t.c⟩

end Triangle

namespace Geometry

variable {α : Type}

/-- The buffers fit: the offsets start at zero, do not fall, and end with the number of vertices. -/
def Valid (g : Geometry α) : Prop :=
  g.offsets.head? = some 0 ∧ g.offsets.getLast? = some g.points.length ∧
    g.offsets.Pairwise (· ≤ ·)

/-- Cuts the vertices at the offsets that follow the first one. -/
def cut (start : Nat) : List Nat → List (Vec3 α) → List (List (Vec3 α))
  | [], _ => []
  | stop :: rest, ps => ps.take (stop - start) :: cut stop rest (ps.drop (stop - start))

/-- The polylines. -/
def polylines (g : Geometry α) : List (List (Vec3 α)) :=
  match g.offsets with
  | [] => []
  | start :: rest => cut start rest g.points

/-- The geometry without polylines. -/
def empty : Geometry α := ⟨[], [0]⟩

/-- Whether there is no vertex. -/
def isEmpty (g : Geometry α) : Bool := g.points.isEmpty

/-- The number of vertices. -/
def vertexCount (g : Geometry α) : Nat := g.points.length

/-- The number of polylines. -/
def lineCount (g : Geometry α) : Nat := g.offsets.length - 1

/-! ## Building -/

/-- The running totals of a list of lengths, from a start. -/
def totals (start : Nat) : List Nat → List Nat
  | [] => [start]
  | n :: rest => start :: totals (start + n) rest

/-- The buffers of a list of polylines. -/
def ofPolylines (lines : List (List (Vec3 α))) : Geometry α :=
  ⟨lines.flatten, totals 0 (lines.map List.length)⟩

/-- Whether a list does not fall. -/
def ascending : List Int → Bool
  | a :: b :: rest => a ≤ b && ascending (b :: rest)
  | _ => true

/-- Refuses offsets that do not fit the number of vertices. -/
def checkOffsets (count : Nat) (offsets : List Int) : Except Error (List Nat) :=
  match offsets.head?, offsets.getLast? with
  | some first, some last =>
    if first != 0 then .error .offsetsStart
    else if last != count then .error .offsetsEnd
    else if !ascending offsets then .error .offsetsOrder
    else .ok (offsets.map Int.toNat)
  | _, _ => .error .offsetsEmpty

variable [Scalar α]

/-- A vertex as it is stored. -/
def store (p : Vec3 α) : Vec3 α := p.map Scalar.store

/-- The geometry with given buffers; a single number counts as a list of one. Reading the offsets may have
failed, which matters once the points have their shape. -/
def ofArrays (points : Tensor α) (offsets : Except Error (Tensor Int)) :
    Except Error (Geometry α) := do
  match points.shape with
  | [_, 3] => pure ()
  | _ => throw .coordsShape
  let offsets ← offsets
  if offsets.rank > 1 then throw .offsetsRank
  let ps ← Matrix.pointsOf points
  let os ← checkOffsets ps.length offsets.entries
  return ⟨ps.map store, os⟩

/-- Two numbers as a point of the plane `z = 0`. -/
def planePoint? : List α → Option (Vec3 α)
  | [x, y] => some ⟨x, y, Scalar.zero⟩
  | _ => none

/-- A line of vertices: a flat list of coordinates in threes, or rows of two or three coordinates. -/
def lineOf (t : Tensor α) : Except Error (List (Vec3 α)) :=
  match t.shape with
  | [n] => if n % 3 != 0 then .error .flatLength else Matrix.pointsOf t
  | [_, 2] => .ok ((t.slices.map Tensor.entries).filterMap planePoint?)
  | [_, 3] => .ok ((t.slices.map Tensor.entries).filterMap Matrix.pointOfRow?)
  | shape => .error (.lineShape shape)

/-- Reads lines one after the other, where reading the array of a line may have failed. -/
def linesOf : List (Except Error (Tensor α)) → Except Error (List (List (Vec3 α)))
  | [] => .ok []
  | t :: ts => do
    let line ← t >>= lineOf
    let lines ← linesOf ts
    return line :: lines

/-- The geometry of a list of lines, also of those without vertices. -/
def ofLines (ts : List (Except Error (Tensor α))) : Except Error (Geometry α) :=
  (linesOf ts).map fun lines => ofPolylines (lines.map (List.map store))

/-- The geometry of a list of triangles. -/
def ofTriangles (ts : List (Triangle (Vec3 α))) : Geometry α :=
  ⟨ts.flatMap fun t => t.toList.map store, (List.range (ts.length + 1)).map (3 * ·)⟩

/-- Three rows as a triangle. -/
def triangleOf? (t : Tensor α) : Option (Triangle (Vec3 α)) :=
  match t.slices.filterMap fun r => Matrix.pointOfRow? r.entries with
  | [a, b, c] => some ⟨a, b, c⟩
  | _ => none

/-- The geometry of an array of triangles. -/
def ofTriangleArray (t : Tensor α) : Except Error (Geometry α) :=
  if t.entries.isEmpty then .ok empty
  else
    match t.shape with
    | [_, 3, 3] => .ok (ofTriangles (t.slices.filterMap triangleOf?))
    | shape => .error (.trianglesShape shape)

/-! ## Images and unions -/

/-- The image under a transform. -/
def transform (g : Geometry α) (m : Matrix α) : Geometry α :=
  if g.isEmpty then g else ⟨(m.apply g.points).map store, g.offsets⟩

/-- The polylines of both; of a geometry without vertices nothing is kept. -/
def concat (g h : Geometry α) : Geometry α :=
  if g.isEmpty then h
  else if h.isEmpty then g
  else ⟨g.points ++ h.points, g.offsets ++ h.offsets.tail.map (· + g.points.length)⟩

end Geometry

/-! ## Straight pieces -/

namespace Geometry

variable {α : Type}

/-- The piece between two vertices. -/
def piece (p q : Vec3 α) : Segment α := ⟨p.x, p.y, q.x, q.y⟩

/-- The pieces from each vertex to the next one, except where the next one starts a polyline; `i` is
the index of the first vertex, and `starts` are the starts in order. -/
def openPieces (starts : List Nat) (i : Nat) : List (Vec3 α) → List (Segment α)
  | p :: q :: rest =>
    let starts := starts.dropWhile (· ≤ i)
    let pieces := openPieces starts (i + 1) (q :: rest)
    if starts.head? == some (i + 1) then pieces else piece p q :: pieces
  | _ => []

/-- The pieces that close the polylines of at least three vertices. -/
def closingPieces (g : Geometry α) : List (Segment α) :=
  let ps := g.points.toArray
  (g.offsets.zip g.offsets.tail).filterMap fun (start, stop) =>
    if stop - start ≥ 3 then
      match ps[stop - 1]?, ps[start]? with
      | some p, some q => some (piece p q)
      | _, _ => none
    else none

/-- The straight pieces of all polylines, closed or open. -/
def segments (g : Geometry α) (closed : Bool) : List (Segment α) :=
  openPieces g.offsets.dropLast 0 g.points ++ if closed then g.closingPieces else []

end Geometry

end Wireframe
