import Wireframe.Solid.Grid

/-!
# `Wireframe.Solid.Sphere` — spheres

A half circle in the upper half of the plane `z = 0`, turned around the `x` axis. The first and the last
row of the grid are the poles, so the cells there keep one triangle each: the last row has no lower
triangles and the first one no upper triangles.

## Contents
- `even`: points that cut an interval into equal parts.
- `sphereGrid`, `sphereTriangles`, `sphere`.
-/

namespace Wireframe.Solid

/-- The triangles of a sphere over a grid of points. -/
def sphereMesh {β : Type} (point : Nat → Nat → β) (step : Nat) : List (Triangle β) :=
  lowerTriangles point (List.range (step - 1)) step ++
    upperTriangles point ((List.range (step - 1)).map (· + 1)) step

variable {α : Type} [Scalar α]

/-- The `i`-th of the points that cut the interval from zero to `stop` into `step` parts; the last one
is `stop` itself. -/
def even (stop : α) (step i : Nat) : α :=
  if i == step then stop else Scalar.ofInt i * (stop / Scalar.ofInt step)

variable [Angle α]

/-- The points of the unit sphere: rows from pole to pole, columns around. -/
def unitSphere (step i j : Nat) : Vec3 α :=
  let t := even (Angle.pi : α) step i
  let p := even (Scalar.ofInt 2 * (Angle.pi : α)) step j
  ⟨Angle.cos t, Angle.sin t * Angle.cos p, Angle.sin t * Angle.sin p⟩

/-- The points of a sphere. -/
def sphereGrid (center : Vec3 α) (radius : α) (step i j : Nat) : Vec3 α :=
  (unitSphere step i j).scale radius + center

/-- A sphere; the radius is not negative and the grid has at least three steps. -/
def sphere [Shown α] (center : Vec3 α) (radius : α) (step : Int) : Except Error (Geometry α) :=
  if Scalar.lt radius Scalar.zero then .error (.negativeRadius (Shown.text radius))
  else if step < 3 then .error (.coarseStep (toString step))
  else .ok (.ofTriangles (sphereMesh (sphereGrid center radius step.toNat) step.toNat))

end Wireframe.Solid
