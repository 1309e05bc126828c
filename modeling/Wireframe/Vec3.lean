import Wireframe.Scalar

/-!
# `Wireframe.Vec3` — points and displacements

Points of space with three coordinates, and rows of a transform with four.
-/

namespace Wireframe

/-- A point or a displacement. -/
structure Vec3 (α : Type) where
  x : α
  y : α
  z : α
  deriving DecidableEq, Repr, Inhabited

/-- A row of a transform. -/
structure Vec4 (α : Type) where
  x : α
  y : α
  z : α
  w : α
  deriving DecidableEq, Repr, Inhabited

namespace Vec3

variable {α β : Type}

/-- Changes every coordinate. -/
def map (f : α → β) (v : Vec3 α) : Vec3 β := ⟨f v.x, f v.y, f v.z⟩

/-- Combines two points coordinate by coordinate. -/
def zip (f : α → α → β) (v w : Vec3 α) : Vec3 β := ⟨f v.x w.x, f v.y w.y, f v.z w.z⟩

/-- The coordinates in order. -/
def toList (v : Vec3 α) : List α := [v.x, v.y, v.z]

/-- The displacement times a number. -/
def scale [Mul α] (v : Vec3 α) (k : α) : Vec3 α := v.map (· * k)

instance [Add α] : Add (Vec3 α) := ⟨zip (· + ·)⟩

end Vec3

namespace Vec4

variable {α : Type}

/-- The entries in order. -/
def toList (v : Vec4 α) : List α := [v.x, v.y, v.z, v.w]

/-- The sum of the products of the entries. -/
def dot [Add α] [Mul α] (v w : Vec4 α) : α := v.x * w.x + v.y * w.y + v.z * w.z + v.w * w.w

end Vec4

end Wireframe
