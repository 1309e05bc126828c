import Wireframe.Geometry

/-!
# `Wireframe.Solid.Grid` — triangles over a grid of points

A round solid is a grid of points whose cells are cut into two triangles each. A cell lies between two
rows and two columns; its lower triangle has the corner in the next row, its upper one the corner in
the next column.

## Contents
- `lowerTriangles`, `upperTriangles`: the triangles over some rows, row by row.
-/

namespace Wireframe.Solid

variable {β : Type}

/-- The lower triangles of the cells of some rows. -/
def lowerTriangles (point : Nat → Nat → β) (rows : List Nat) (columns : Nat) : List (Triangle β) :=
  rows.flatMap fun i => (List.range columns).map fun j =>
    ⟨point i j, point (i + 1) j, point (i + 1) (j + 1)⟩

/-- The upper triangles of the cells of some rows. -/
def upperTriangles (point : Nat → Nat → β) (rows : List Nat) (columns : Nat) : List (Triangle β) :=
  rows.flatMap fun i => (List.range columns).map fun j =>
    ⟨point i j, point (i + 1) (j + 1), point i (j + 1)⟩

end Wireframe.Solid
