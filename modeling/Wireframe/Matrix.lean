import Wireframe.Vec3
import Wireframe.Axis
import Wireframe.Tensor

/-!
# `Wireframe.Matrix` — transforms of space

Transforms are 4×4 matrices that act on columns: the image of a point `p` is `m · (p, 1)`. The product
`a · b` applies `b` first. Rotations are right-handed.

## Contents
- `identity`, `translation`, `scaling`, `turn`, `rotation`: the basic transforms.
- `mul`: composition.
- `apply`: the images of points. If the fourth coordinate of every image is close to one, it is left
  out; otherwise every image is divided by its own.
- `ofTensor?`, `toTensor`: the arrays of shape (4, 4).
-/

namespace Wireframe

/-- A transform, by rows. -/
structure Matrix (α : Type) where
  r0 : Vec4 α
  r1 : Vec4 α
  r2 : Vec4 α
  r3 : Vec4 α
  deriving DecidableEq, Repr, Inhabited

namespace Matrix

variable {α : Type}

/-- The rows in order. -/
def rows (m : Matrix α) : List (Vec4 α) := [m.r0, m.r1, m.r2, m.r3]

/-- Columns for rows. -/
def transpose (m : Matrix α) : Matrix α :=
  ⟨⟨m.r0.x, m.r1.x, m.r2.x, m.r3.x⟩, ⟨m.r0.y, m.r1.y, m.r2.y, m.r3.y⟩,
   ⟨m.r0.z, m.r1.z, m.r2.z, m.r3.z⟩, ⟨m.r0.w, m.r1.w, m.r2.w, m.r3.w⟩⟩

/-- The matrix as an array of shape (4, 4). -/
def toTensor (m : Matrix α) : Tensor α := ⟨[4, 4], m.rows.flatMap Vec4.toList⟩

/-- The matrix that an array of shape (4, 4) is. -/
def ofTensor? (t : Tensor α) : Except Error (Matrix α) :=
  match t.shape, t.entries with
  | [4, 4], [a, b, c, d, e, f, g, h, i, j, k, l, m, n, o, p] =>
    .ok ⟨⟨a, b, c, d⟩, ⟨e, f, g, h⟩, ⟨i, j, k, l⟩, ⟨m, n, o, p⟩⟩
  | shape, _ => .error (.notTransform shape)

variable [Scalar α]

open Scalar (zero one)

/-- The row of the identity that leaves the fourth coordinate alone. -/
def lastRow : Vec4 α := ⟨zero, zero, zero, one⟩

/-- The transform that moves nothing. -/
def identity : Matrix α :=
  ⟨⟨one, zero, zero, zero⟩, ⟨zero, one, zero, zero⟩, ⟨zero, zero, one, zero⟩, lastRow⟩

/-- Moves every point by a displacement. -/
def translation (d : Vec3 α) : Matrix α :=
  ⟨⟨one, zero, zero, d.x⟩, ⟨zero, one, zero, d.y⟩, ⟨zero, zero, one, d.z⟩, lastRow⟩

/-- Stretches along the axes. -/
def scaling (s : Vec3 α) : Matrix α :=
  ⟨⟨s.x, zero, zero, zero⟩, ⟨zero, s.y, zero, zero⟩, ⟨zero, zero, s.z, zero⟩, lastRow⟩

/-- Turns around an axis by the angle with the given cosine and sine. -/
def turn (axis : Axis) (c s : α) : Matrix α :=
  match axis with
  | .x => ⟨⟨one, zero, zero, zero⟩, ⟨zero, c, -s, zero⟩, ⟨zero, s, c, zero⟩, lastRow⟩
  | .y => ⟨⟨c, zero, s, zero⟩, ⟨zero, one, zero, zero⟩, ⟨-s, zero, c, zero⟩, lastRow⟩
  | .z => ⟨⟨c, -s, zero, zero⟩, ⟨s, c, zero, zero⟩, ⟨zero, zero, one, zero⟩, lastRow⟩

/-- Whether an angle has a cosine: it is not infinite. -/
def hasCosine (theta : α) : Bool := Scalar.isFinite theta || Scalar.isNaN theta

/-- Turns around an axis by an angle in radians. -/
def rotation [Angle α] (axis : Axis) (theta : α) : Except Error (Matrix α) :=
  if hasCosine theta then .ok (turn axis (Angle.cos theta) (Angle.sin theta))
  else .error .notFinite

/-- A row of a product. -/
def rowMul (r : Vec4 α) (columns : Matrix α) : Vec4 α :=
  ⟨r.dot columns.r0, r.dot columns.r1, r.dot columns.r2, r.dot columns.r3⟩

/-- The product `a · b`, which applies `b` first. -/
def mul (a b : Matrix α) : Matrix α :=
  let c := b.transpose
  ⟨rowMul a.r0 c, rowMul a.r1 c, rowMul a.r2 c, rowMul a.r3 c⟩

/-! ## Images of points -/

/-- One coordinate of the image of a point. -/
def coordinate (r : Vec4 α) (p : Vec3 α) : α := p.x * r.x + p.y * r.y + p.z * r.z + r.w

/-- The first three coordinates of the image of a point. -/
def move (m : Matrix α) (p : Vec3 α) : Vec3 α :=
  ⟨coordinate m.r0 p, coordinate m.r1 p, coordinate m.r2 p⟩

/-- The fourth coordinate of the image of a point. -/
def weight (m : Matrix α) (p : Vec3 α) : α := coordinate m.r3 p

/-- How far from one a fourth coordinate may be and still count as one. -/
def tolerance : α := Scalar.ratio 1001 100000000

/-- Whether a fourth coordinate counts as one, up to a tolerance. -/
def isUnit (tol w : α) : Bool := Scalar.le (Scalar.abs (w - one)) tol

/-- The images of points; the choice whether to divide is made once for all of them. -/
def apply (m : Matrix α) (points : List (Vec3 α)) : List (Vec3 α) :=
  let tol : α := tolerance
  if points.all fun p => isUnit tol (m.weight p) then points.map m.move
  else points.map fun p => (m.move p).map (· / m.weight p)

/-! ## Arrays in place of transforms -/

/-- Three numbers as a point. -/
def pointOfRow? : List α → Option (Vec3 α)
  | [x, y, z] => some ⟨x, y, z⟩
  | _ => none

/-- The points of an array whose entries come in threes. -/
def pointsOf (points : Tensor α) : Except Error (List (Vec3 α)) :=
  (points.rows? 3).map fun rows => rows.filterMap pointOfRow?

/-- The leading four entries of a row. -/
def leading? : List α → Option (Vec4 α)
  | x :: y :: z :: w :: _ => some ⟨x, y, z, w⟩
  | _ => none

/-- The transform in the leading four rows and columns of an array of rank two. With less than three
columns the points do not match the rows; with less than four rows or columns an entry is missing. -/
def leadingPart (t : Tensor α) : Except Error (Matrix α) :=
  match t.shape with
  | [_, b] =>
    if b < 3 then .error .arrayShape
    else
      match t.slices.filterMap fun r => leading? r.entries with
      | r0 :: r1 :: r2 :: r3 :: _ => .ok ⟨r0, r1, r2, r3⟩
      | _ => .error .arrayIndex
  | [] | [_] => .error .arrayIndex
  | _ => .error .arrayShape

/-- Points as an array. -/
def pointArray (ps : List (Vec3 α)) : Tensor α := ⟨[ps.length, 3], ps.flatMap Vec3.toList⟩

/-- The images of points under an array of rank above two, whose entries are arrays themselves: each part
of the formula is an operation on arrays. -/
def applyStacked (t : Tensor α) (ps : List (Vec3 α)) : Except Error (Tensor α) := do
  let points := pointArray ps
  let shorter := fun (shape : List Nat) => min 3 (shape.headD 0) :: shape.tail
  let linear ← (← t.firsts 3).onSlices shorter (Tensor.firsts 3)
  let turned ← points.product linear.reversed
  let shift ← (← t.firsts 3).onSlices List.tail (Tensor.part? 3)
  let images ← turned.zipWith (· + ·) shift
  let last ← t.part? 3
  let weights ← (← points.product (← last.firsts 3)).zipWith (· + ·) (← last.part? 3)
  let tol : α := tolerance
  if weights.entries.all (isUnit tol) then return images
  images.zipWith (· / ·) (← weights.withUnitAxis)

/-- The images of the points of an array under the transform in an array. -/
def applyArray (m points : Tensor α) : Except Error (Tensor α) := do
  let ps ← pointsOf points
  if m.rank ≤ 2 then return pointArray ((← leadingPart m).apply ps) else applyStacked m ps

end Matrix

end Wireframe
