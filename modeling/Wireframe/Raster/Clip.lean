import Wireframe.Geometry

/-!
# `Wireframe.Raster.Clip` — the part of a segment inside the picture

Pixels are unit squares around points with whole coordinates, so a picture of `w` by `h` pixels covers
the rectangle from `-1/2` to `w - 1/2` and from `-1/2` to `h - 1/2`. A segment is the image of the
parameters from 0 to 1; each border of the rectangle leaves the parameters on one side of the place
where the segment crosses it.

## Contents
- `Border`, `borders`: how far a segment runs towards each border, and how far it may go.
- `entry`, `exit`: the parameters between which the segment is inside.
- `clip?`, `clipAll`, `clipWithin`: the parts inside.
- `segmentsOf`: segments from an array.
-/

namespace Wireframe.Raster

variable {α : Type} [Scalar α]

open Scalar (zero one half)

/-- A border of the rectangle: how fast the segment runs towards it, and the distance to it at the
start. A negative speed means that the segment comes in over the border. -/
structure Border (α : Type) where
  speed : α
  room : α

/-- The left, right, lower and upper border of a picture of a size. -/
def borders (width height : α) (s : Segment α) : List (Border α) :=
  let dx := s.x1 - s.x0
  let dy := s.y1 - s.y0
  [⟨-dx, s.x0 + half⟩, ⟨dx, width - half - s.x0⟩,
   ⟨-dy, s.y0 + half⟩, ⟨dy, height - half - s.y0⟩]

/-- The parameter at which the segment comes in over a border. -/
def Border.entry (b : Border α) : α := if Scalar.lt b.speed zero then b.room / b.speed else zero

/-- The parameter at which the segment goes out over a border. -/
def Border.exit (b : Border α) : α := if Scalar.lt zero b.speed then b.room / b.speed else one

/-- A segment along the border, on its outer side. -/
def Border.excludes (b : Border α) : Bool := Scalar.eq b.speed zero && Scalar.lt b.room zero

/-- The last parameter at which the segment comes in. -/
def entry (bs : List (Border α)) : α := (bs.map Border.entry).foldl Scalar.max zero

/-- The first parameter at which the segment goes out. -/
def exit (bs : List (Border α)) : α := (bs.map Border.exit).foldl Scalar.min one

/-- All coordinates are finite. -/
def isFinite (s : Segment α) : Bool :=
  Scalar.isFinite s.x0 && Scalar.isFinite s.y0 && Scalar.isFinite s.x1 && Scalar.isFinite s.y1

/-- The part of a segment inside the picture. -/
def clip? (width height : α) (s : Segment α) : Option (Segment α) :=
  let bs := borders width height s
  let t0 := entry bs
  let t1 := exit bs
  if isFinite s && !bs.any Border.excludes && Scalar.le t0 t1 then
    let dx := s.x1 - s.x0
    let dy := s.y1 - s.y0
    some ⟨s.x0 + t0 * dx, s.y0 + t0 * dy, s.x0 + t1 * dx, s.y0 + t1 * dy⟩
  else none

/-- The parts of segments inside the picture, in order. -/
def clipAll (width height : α) (segments : List (Segment α)) : List (Segment α) :=
  segments.filterMap (clip? width height)

/-- The parts of segments inside a picture of given sizes, which are read only if there is a segment. -/
def clipWithin (width height : Except Error α) (segments : List (Segment α)) :
    Except Error (List (Segment α)) :=
  match segments with
  | [] => .ok []
  | _ => do return clipAll (← width) (← height) segments

/-- Four numbers as a segment. -/
def segmentOfRow? : List α → Option (Segment α)
  | [a, b, c, d] => some ⟨a, b, c, d⟩
  | _ => none

/-- The segments of an array whose entries come in fours. -/
def segmentsOf (t : Tensor α) : Except Error (List (Segment α)) :=
  (t.rows? 4).map fun rows => rows.filterMap segmentOfRow?

end Wireframe.Raster
