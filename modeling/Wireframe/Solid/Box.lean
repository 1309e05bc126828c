import Wireframe.Geometry

/-!
# `Wireframe.Solid.Box` — boxes

A box with edges along the axes, given by two opposite corners in any order, as twelve triangles that
turn counterclockwise seen from outside.
-/

namespace Wireframe.Solid

variable {α : Type} [Scalar α]

/-- The corners of the triangles: bit 0 chooses between the least and the greatest `x`, bit 1 the `y`
and bit 2 the `z`. -/
def boxFaces : List (Triangle Nat) :=
  [⟨0, 2, 3⟩, ⟨0, 3, 1⟩, ⟨4, 5, 7⟩, ⟨4, 7, 6⟩,
   ⟨0, 1, 5⟩, ⟨0, 5, 4⟩, ⟨2, 6, 7⟩, ⟨2, 7, 3⟩,
   ⟨0, 4, 6⟩, ⟨0, 6, 2⟩, ⟨1, 3, 7⟩, ⟨1, 7, 5⟩]

/-- The corner with a number. -/
def boxCorner (lo hi : Vec3 α) (n : Nat) : Vec3 α :=
  ⟨if n.testBit 0 then hi.x else lo.x, if n.testBit 1 then hi.y else lo.y,
   if n.testBit 2 then hi.z else lo.z⟩

/-- The triangles of a box. -/
def boxTriangles (corner0 corner1 : Vec3 α) : List (Triangle (Vec3 α)) :=
  let lo := corner0.zip Scalar.min corner1
  let hi := corner0.zip Scalar.max corner1
  boxFaces.map (Triangle.map (boxCorner lo hi))

/-- A box. -/
def box (corner0 corner1 : Vec3 α) : Geometry α := .ofTriangles (boxTriangles corner0 corner1)

end Wireframe.Solid
