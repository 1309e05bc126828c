import Wireframe.Solid.Grid

/-!
# `Wireframe.Solid.Torus` — tori

A circle of radius `r0`, the tube, turned around the `y` axis at the distance `r1`. Rows of the grid go
around the axis and columns around the tube; the last row and the last column repeat the first.

## Contents
- `torusGrid`, `torusRows`: the points.
- `torusMesh`, `torus`: the triangles.
-/

namespace Wireframe.Solid

/-- The triangles of a torus over a grid of points. -/
def torusMesh {β : Type} (point : Nat → Nat → β) (step : Nat) : List (Triangle β) :=
  lowerTriangles point (List.range step) step ++ upperTriangles point (List.range step) step

variable {α : Type} [Scalar α] [Angle α]

/-- The `i`-th of `step` equal parts of a full turn. -/
def turnPart (step i : Nat) : α :=
  Scalar.ofInt 2 * (Angle.pi : α) * Scalar.ofInt i / Scalar.ofInt step

/-- The points of a torus around the origin. -/
def torusGrid (r0 r1 : α) (step i j : Nat) : Vec3 α :=
  let p : α := turnPart step i
  let t : α := turnPart step j
  let ring := r0 * Angle.cos t + r1
  ⟨Angle.cos p * ring, r0 * Angle.sin t, -(Angle.sin p) * ring⟩

/-- Whether the points of a grid fit into memory: three doubles each, in all less than `2 ^ 63` octets. -/
def fitsMemory (step : Int) : Bool := 24 * (step + 1) ^ 2 < 2 ^ 63

/-- All points of a torus around the origin, row by row. A grid of `-1` steps has no point, and one of fewer
steps cannot be; the radii are read for the first point. -/
def torusRows (r0 r1 : Except Error α) (step : Int) : Except Error (List (List (Vec3 α))) :=
  if step < -1 || !fitsMemory step then .error .arrayShape
  else if step = -1 then .ok []
  else if step = 0 then .error .divisionByZero
  else do
    let a ← r0
    let b ← r1
    let indices := List.range (step.toNat + 1)
    return indices.map fun i => indices.map (torusGrid a b step.toNat i)

/-- A torus; the radii are not negative and the grid has at least three steps. -/
def torus [Shown α] (center : Vec3 α) (r0 r1 : α) (step : Int) : Except Error (Geometry α) :=
  if Scalar.lt r0 Scalar.zero || Scalar.lt r1 Scalar.zero then
    .error (.negativeRadii (Shown.text r0) (Shown.text r1))
  else if step < 3 then .error (.coarseStep (toString step))
  else
    let point := fun i j => torusGrid r0 r1 step.toNat i j + center
    .ok (.ofTriangles (torusMesh point step.toNat))

end Wireframe.Solid
