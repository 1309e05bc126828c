import Wireframe.Axis
import Wireframe.Solid.Box
import Wireframe.Proofs.Exact
import Wireframe.Proofs.Geometry.Sound
import Mathlib

/-!
# `Wireframe.Proofs.Solid.Box` — a box is bounded by its triangles

Each face of a box is a parallelogram, cut along a diagonal into two triangles that turn the same way. All
that is to be known of a face follows from one of its corners and the two edges there, taken in the order
in which they turn counterclockwise seen from outside: what the two triangles cover, where they point, and
how much of the box lies between them and the origin.

## Contents
- `Vec3.along`, `Vec3.swap`, `Vec3.cross`, `Vec3.dot`: points by their coordinates.
- `Triangle.normal`, `Triangle.volume`, `Triangle.Covers`: triangles in space.
- `Parallelogram`, `normal_lower`, `covers_iff`, `volume_halves`: parallelograms and their halves.
- `Face`, `Face.Has`, `Face.outward`, `Face.area`: the faces of a box.
- `Face.triangles`, `triangles_eq`, `has_iff`, `cross_edges`: a face is a parallelogram.
- `boxTriangles_swap`, `boxTriangles_eq`, `filter_boxTriangles`, `sum_volume`: all faces.
- `box_boundary`: the triangles of a box are its boundary.
-/

namespace Wireframe

/-! ## Points -/

namespace Axis

/-- The axis after another one, the first one after the last. -/
def next : Axis → Axis
  | x => y
  | y => z
  | z => x

instance {P : Axis → Prop} [DecidablePred P] : Decidable (∀ a, P a) :=
  decidable_of_iff (P .x ∧ P .y ∧ P .z)
    ⟨fun ⟨hx, hy, hz⟩ a => a.rec hx hy hz, fun h => ⟨h .x, h .y, h .z⟩⟩

/-- The place of an axis in the number of a corner. -/
def bit : Axis → Nat
  | x => 0
  | y => 1
  | z => 2

end Axis

namespace Vec3

variable {α : Type}

/-- The coordinate along an axis. -/
def along (v : Vec3 α) : Axis → α
  | .x => v.x
  | .y => v.y
  | .z => v.z

/-- The point with given coordinates. -/
def ofAxes (coordinate : Axis → α) : Vec3 α := ⟨coordinate .x, coordinate .y, coordinate .z⟩

/-- A point with some of its coordinates taken from another one. -/
def swap (taken : Axis → Bool) (v w : Vec3 α) : Vec3 α :=
  ofAxes fun a => if taken a then w.along a else v.along a

instance [Sub α] : Sub (Vec3 α) := ⟨zip (· - ·)⟩

theorem ext_along {v w : Vec3 α} (h : ∀ a, v.along a = w.along a) : v = w := by
  obtain ⟨x, y, z⟩ := v
  obtain ⟨x', y', z'⟩ := w
  rw [Vec3.mk.injEq]
  exact ⟨h .x, h .y, h .z⟩

theorem ofAxes_along (g : Axis → α) (a : Axis) : (ofAxes g).along a = g a := by cases a <;> rfl

theorem sub_along (v w : Vec3 ℚ) (a : Axis) : (v - w).along a = v.along a - w.along a := by
  cases a <;> rfl

theorem zip_along {β : Type} (f : α → α → β) (v w : Vec3 α) (a : Axis) :
    (v.zip f w).along a = f (v.along a) (w.along a) := by cases a <;> rfl

theorem add_mk (u v : Vec3 ℚ) : u + v = ⟨u.x + v.x, u.y + v.y, u.z + v.z⟩ := rfl

theorem sub_mk (u v : Vec3 ℚ) : u - v = ⟨u.x - v.x, u.y - v.y, u.z - v.z⟩ := rfl

theorem scale_mk (u : Vec3 ℚ) (k : ℚ) : u.scale k = ⟨u.x * k, u.y * k, u.z * k⟩ := rfl

/-- The displacement of length one along an axis. -/
def unit (a : Axis) : Vec3 ℚ := ofAxes fun b => if b = a then 1 else 0

/-- The product that is a displacement. -/
def cross (u v : Vec3 ℚ) : Vec3 ℚ :=
  ⟨u.y * v.z - u.z * v.y, u.z * v.x - u.x * v.z, u.x * v.y - u.y * v.x⟩

/-- The product that is a number. -/
def dot (u v : Vec3 ℚ) : ℚ := u.x * v.x + u.y * v.y + u.z * v.z

end Vec3

/-! ## Triangles in space -/

namespace Triangle

/-- The displacement across a triangle, towards the side from which it turns counterclockwise; its length
is twice the area. -/
def normal (t : Triangle (Vec3 ℚ)) : Vec3 ℚ := (t.b - t.a).cross (t.c - t.a)

/-- The volume between a triangle and the origin, positive where the triangle points away from it. -/
def volume (t : Triangle (Vec3 ℚ)) : ℚ := t.a.dot (t.b.cross t.c) / 6

/-- A point of a triangle. -/
def Covers (t : Triangle (Vec3 ℚ)) (p : Vec3 ℚ) : Prop :=
  ∃ r s : ℚ, 0 ≤ r ∧ 0 ≤ s ∧ r + s ≤ 1 ∧ p = t.a + (t.b - t.a).scale r + (t.c - t.a).scale s

end Triangle

/-- A corner, and the two edges there. -/
structure Parallelogram where
  corner : Vec3 ℚ
  first : Vec3 ℚ
  second : Vec3 ℚ

namespace Parallelogram

variable (q : Parallelogram) {p : Vec3 ℚ}

/-- The half at the first edge. -/
def lower : Triangle (Vec3 ℚ) := ⟨q.corner, q.corner + q.first, q.corner + q.first + q.second⟩

/-- The half at the second edge. -/
def upper : Triangle (Vec3 ℚ) := ⟨q.corner, q.corner + q.first + q.second, q.corner + q.second⟩

/-- The point that lies some way along both edges. -/
def point (r s : ℚ) : Vec3 ℚ := q.corner + q.first.scale r + q.second.scale s

theorem normal_lower : q.lower.normal = q.first.cross q.second := by
  simp only [lower, Triangle.normal, Vec3.cross, Vec3.add_mk, Vec3.sub_mk, Vec3.mk.injEq]
  refine ⟨?_, ?_, ?_⟩ <;> ring

theorem normal_upper : q.upper.normal = q.first.cross q.second := by
  simp only [upper, Triangle.normal, Vec3.cross, Vec3.add_mk, Vec3.sub_mk, Vec3.mk.injEq]
  refine ⟨?_, ?_, ?_⟩ <;> ring

theorem volume_halves : q.lower.volume + q.upper.volume = q.corner.dot (q.first.cross q.second) / 3 := by
  simp only [lower, upper, Triangle.volume, Vec3.cross, Vec3.dot, Vec3.add_mk]
  ring

theorem covers_lower : q.lower.Covers p ↔ ∃ r s : ℚ, 0 ≤ s ∧ s ≤ r ∧ r ≤ 1 ∧ p = q.point r s := by
  have hpoint : ∀ r s : ℚ, q.lower.a + (q.lower.b - q.lower.a).scale r + (q.lower.c - q.lower.a).scale s =
      q.point (r + s) s := by
    intro r s
    simp only [lower, point, Vec3.add_mk, Vec3.sub_mk, Vec3.scale_mk, Vec3.mk.injEq]
    refine ⟨?_, ?_, ?_⟩ <;> ring
  constructor
  · rintro ⟨r, s, hr, hs, hle, rfl⟩
    exact ⟨r + s, s, hs, by linarith, hle, hpoint r s⟩
  · rintro ⟨r, s, hs, hle, hr, rfl⟩
    refine ⟨r - s, s, by linarith, hs, by linarith, ?_⟩
    rw [hpoint, sub_add_cancel]

theorem covers_upper : q.upper.Covers p ↔ ∃ r s : ℚ, 0 ≤ r ∧ r ≤ s ∧ s ≤ 1 ∧ p = q.point r s := by
  have hpoint : ∀ r s : ℚ, q.upper.a + (q.upper.b - q.upper.a).scale r + (q.upper.c - q.upper.a).scale s =
      q.point r (r + s) := by
    intro r s
    simp only [upper, point, Vec3.add_mk, Vec3.sub_mk, Vec3.scale_mk, Vec3.mk.injEq]
    refine ⟨?_, ?_, ?_⟩ <;> ring
  constructor
  · rintro ⟨r, s, hr, hs, hle, rfl⟩
    exact ⟨r, r + s, hr, by linarith, hle, hpoint r s⟩
  · rintro ⟨r, s, hr, hle, hs, rfl⟩
    refine ⟨r, s - r, hr, by linarith, by linarith, ?_⟩
    rw [hpoint, add_sub_cancel]

/-- The halves of a parallelogram cover it, and nothing else. -/
theorem covers_iff : q.lower.Covers p ∨ q.upper.Covers p ↔
    ∃ r s : ℚ, (0 ≤ r ∧ r ≤ 1) ∧ (0 ≤ s ∧ s ≤ 1) ∧ p = q.point r s := by
  rw [covers_lower, covers_upper]
  constructor
  · rintro (⟨r, s, hs, hle, hr, rfl⟩ | ⟨r, s, hr, hle, hs, rfl⟩)
    · exact ⟨r, s, ⟨by linarith, hr⟩, ⟨hs, by linarith⟩, rfl⟩
    · exact ⟨r, s, ⟨hr, by linarith⟩, ⟨by linarith, hs⟩, rfl⟩
  · rintro ⟨r, s, ⟨hr, hr'⟩, ⟨hs, hs'⟩, rfl⟩
    -- the diagonal divides the points that lie farther along one edge from those farther along the other
    rcases le_total s r with hle | hle
    · exact .inl ⟨r, s, hs, hle, hr', rfl⟩
    · exact .inr ⟨r, s, hr, hle, hs', rfl⟩

end Parallelogram

namespace Solid

/-! ## Faces -/

/-- A face of a box: across an axis, at its lower or its upper end. -/
structure Face where
  axis : Axis
  upper : Bool
  deriving DecidableEq, Repr

namespace Face

/-- The faces in the order of the triangles. -/
def all : List Face := [⟨.z, false⟩, ⟨.z, true⟩, ⟨.y, false⟩, ⟨.y, true⟩, ⟨.x, false⟩, ⟨.x, true⟩]

variable (lo hi : Vec3 ℚ) (f : Face)

/-- Where a face stands on its axis. -/
def level : ℚ := if f.upper then hi.along f.axis else lo.along f.axis

/-- A point of the box that lies on a face. -/
def Has (p : Vec3 ℚ) : Prop :=
  (∀ a, lo.along a ≤ p.along a ∧ p.along a ≤ hi.along a) ∧ p.along f.axis = f.level lo hi

instance (p : Vec3 ℚ) : Decidable (f.Has lo hi p) := inferInstanceAs (Decidable (_ ∧ _))

/-- The displacement of length one that leads out of the box. -/
def outward : Vec3 ℚ := (Vec3.unit f.axis).scale (if f.upper then 1 else -1)

/-- The product of the two sides of a face. -/
def area : ℚ := (hi - lo).along f.axis.next * (hi - lo).along f.axis.next.next

/-- The triangles of a face: those whose corners all lie at its end of its axis. -/
def triangles : List (Triangle (Vec3 ℚ)) :=
  (boxFaces.filter fun t => t.toList.all fun n => n.testBit f.axis.bit == f.upper).map
    (Triangle.map (boxCorner lo hi))

/-- The axis of the first edge, counterclockwise seen from outside. -/
def firstAxis : Axis := if f.upper then f.axis.next else f.axis.next.next

/-- The axis of the second edge. -/
def secondAxis : Axis := if f.upper then f.axis.next.next else f.axis.next

/-- A face as a parallelogram. -/
def parallelogram : Parallelogram where
  corner := .ofAxes fun a => if a = f.axis then f.level lo hi else lo.along a
  first := (Vec3.unit f.firstAxis).scale ((hi - lo).along f.firstAxis)
  second := (Vec3.unit f.secondAxis).scale ((hi - lo).along f.secondAxis)

/-- The two triangles of a face are the halves of the parallelogram. -/
theorem triangles_eq :
    f.triangles lo hi = [(f.parallelogram lo hi).lower, (f.parallelogram lo hi).upper] := by
  obtain ⟨a, u⟩ := f
  cases a <;> cases u <;>
    simp [triangles, boxFaces, Triangle.toList, Triangle.map, boxCorner, Axis.bit, Nat.testBit,
      parallelogram, Parallelogram.lower, Parallelogram.upper, firstAxis, secondAxis, Axis.next, level,
      Vec3.ofAxes, Vec3.unit, Vec3.along, Vec3.add_mk, Vec3.sub_mk, Vec3.scale_mk]

theorem cross_edges :
    (f.parallelogram lo hi).first.cross (f.parallelogram lo hi).second =
      f.outward.scale (f.area lo hi) := by
  obtain ⟨a, u⟩ := f
  cases a <;> cases u <;>
    simp [parallelogram, outward, area, firstAxis, secondAxis, Axis.next, Vec3.unit, Vec3.ofAxes,
      Vec3.along, Vec3.cross, Vec3.sub_mk, Vec3.scale_mk, mul_comm]

theorem axis_cases (a : Axis) : a = f.axis ∨ a = f.firstAxis ∨ a = f.secondAxis := by
  obtain ⟨b, u⟩ := f
  cases b <;> cases u <;> cases a <;> simp [firstAxis, secondAxis, Axis.next]

theorem firstAxis_ne : f.firstAxis ≠ f.axis := by
  obtain ⟨b, u⟩ := f
  cases b <;> cases u <;> decide

theorem secondAxis_ne : f.secondAxis ≠ f.axis := by
  obtain ⟨b, u⟩ := f
  cases b <;> cases u <;> decide

theorem secondAxis_ne_firstAxis : f.secondAxis ≠ f.firstAxis := by
  obtain ⟨b, u⟩ := f
  cases b <;> cases u <;> decide

/-- The coordinates of a point of the parallelogram. -/
theorem point_along (r s : ℚ) (a : Axis) :
    ((f.parallelogram lo hi).point r s).along a =
      (if a = f.axis then f.level lo hi else lo.along a) +
        (if a = f.firstAxis then (hi - lo).along f.firstAxis * r else 0) +
        (if a = f.secondAxis then (hi - lo).along f.secondAxis * s else 0) := by
  simp only [Parallelogram.point, parallelogram, Vec3.add_mk, Vec3.scale_mk, Vec3.unit, Vec3.ofAxes]
  cases a <;> simp only [Vec3.along, ite_mul, one_mul, zero_mul]

end Face

/-- The points between two numbers. -/
theorem between_iff {l h x : ℚ} (hle : l ≤ h) :
    l ≤ x ∧ x ≤ h ↔ ∃ r : ℚ, (0 ≤ r ∧ r ≤ 1) ∧ x = l + (h - l) * r := by
  constructor
  · rintro ⟨hl, hh⟩
    rcases hle.eq_or_lt with rfl | hlt
    · exact ⟨0, ⟨le_rfl, zero_le_one⟩, by linarith⟩
    · have hpos : 0 < h - l := by linarith
      refine ⟨(x - l) / (h - l), ⟨div_nonneg (by linarith) hpos.le, ?_⟩, ?_⟩
      · rw [div_le_one hpos]
        linarith
      · rw [mul_div_cancel₀ _ hpos.ne']
        ring
  · rintro ⟨r, ⟨hr, hr'⟩, rfl⟩
    have hside : 0 ≤ h - l := by linarith
    have hleast := mul_nonneg hside hr
    have hmost := mul_le_mul_of_nonneg_left hr' hside
    exact ⟨by linarith, by linarith⟩

namespace Face

variable {lo hi p : Vec3 ℚ} {f : Face}

theorem level_mem (hle : ∀ a, lo.along a ≤ hi.along a) :
    lo.along f.axis ≤ f.level lo hi ∧ f.level lo hi ≤ hi.along f.axis := by
  unfold level
  split
  · exact ⟨hle _, le_rfl⟩
  · exact ⟨le_rfl, hle _⟩

/-- A face is its parallelogram. -/
theorem has_iff (hle : ∀ a, lo.along a ≤ hi.along a) : f.Has lo hi p ↔
    ∃ r s : ℚ, (0 ≤ r ∧ r ≤ 1) ∧ (0 ≤ s ∧ s ≤ 1) ∧ p = (f.parallelogram lo hi).point r s := by
  have haxis := fun r s => f.point_along lo hi r s f.axis
  have hfirst := fun r s => f.point_along lo hi r s f.firstAxis
  have hsecond := fun r s => f.point_along lo hi r s f.secondAxis
  simp only [f.firstAxis_ne, f.firstAxis_ne.symm, f.secondAxis_ne, f.secondAxis_ne.symm,
    f.secondAxis_ne_firstAxis, f.secondAxis_ne_firstAxis.symm, if_true, if_false, add_zero,
    Vec3.sub_along] at haxis hfirst hsecond
  constructor
  · rintro ⟨hbox, hlevel⟩
    obtain ⟨r, hr, hpr⟩ := (between_iff (hle f.firstAxis)).mp (hbox f.firstAxis)
    obtain ⟨s, hs, hps⟩ := (between_iff (hle f.secondAxis)).mp (hbox f.secondAxis)
    refine ⟨r, s, hr, hs, Vec3.ext_along fun a => ?_⟩
    rcases f.axis_cases a with rfl | rfl | rfl
    · rw [hlevel, haxis]
    · rw [hpr, hfirst]
    · rw [hps, hsecond]
  · rintro ⟨r, s, hr, hs, rfl⟩
    refine ⟨fun a => ?_, haxis r s⟩
    rcases f.axis_cases a with rfl | rfl | rfl
    · rw [haxis]
      exact level_mem hle
    · exact (between_iff (hle f.firstAxis)).mpr ⟨r, hr, hfirst r s⟩
    · exact (between_iff (hle f.secondAxis)).mpr ⟨s, hs, hsecond r s⟩

/-- The triangles of a face cover it, and nothing else. -/
theorem has_iff_covers (hle : ∀ a, lo.along a ≤ hi.along a) : f.Has lo hi p ↔
    (f.parallelogram lo hi).lower.Covers p ∨ (f.parallelogram lo hi).upper.Covers p := by
  rw [has_iff hle, Parallelogram.covers_iff]

/-- The volume between a face and the origin. -/
theorem sum_volume (lo hi : Vec3 ℚ) (f : Face) : ((f.triangles lo hi).map Triangle.volume).sum =
    (if f.upper then hi.along f.axis else -lo.along f.axis) * f.area lo hi / 3 := by
  have hcorner : (f.parallelogram lo hi).corner.dot (f.outward.scale (f.area lo hi)) =
      (if f.upper then hi.along f.axis else -lo.along f.axis) * f.area lo hi := by
    obtain ⟨a, u⟩ := f
    cases a <;> cases u <;>
      simp [parallelogram, outward, level, Vec3.dot, Vec3.unit, Vec3.ofAxes, Vec3.along, Vec3.scale_mk]
  rw [triangles_eq, List.map_cons, List.map_singleton, List.sum_pair, Parallelogram.volume_halves,
    cross_edges, hcorner]

end Face

/-! ## Boxes -/

section

variable {lo hi : Vec3 ℚ} {f : Face}

theorem boxCorner_along (lo hi : Vec3 ℚ) (n : Nat) (a : Axis) :
    (boxCorner lo hi n).along a = if n.testBit a.bit then hi.along a else lo.along a := by
  cases a <;> rfl

/-- A corner lies on a face that is not the opposite one. -/
theorem has_boxCorner (hlt : ∀ a, lo.along a < hi.along a) (n : Nat) :
    f.Has lo hi (boxCorner lo hi n) ↔ n.testBit f.axis.bit = f.upper := by
  have hbox : ∀ a, lo.along a ≤ (boxCorner lo hi n).along a ∧ (boxCorner lo hi n).along a ≤ hi.along a := by
    intro a
    rw [boxCorner_along]
    split
    · exact ⟨(hlt a).le, le_rfl⟩
    · exact ⟨le_rfl, (hlt a).le⟩
  have hne := (hlt f.axis).ne
  rw [Face.Has, and_iff_right hbox, boxCorner_along, Face.level]
  cases n.testBit f.axis.bit <;> cases f.upper <;> simp [hne, hne.symm]

end

section

variable (c0 c1 : Vec3 ℚ)

theorem zip_swap {β : Type} {f : ℚ → ℚ → β} (hf : ∀ a b, f a b = f b a) (taken : Axis → Bool) :
    (c0.swap taken c1).zip f (c1.swap taken c0) = c0.zip f c1 := by
  refine Vec3.ext_along fun a => ?_
  rw [Vec3.zip_along, Vec3.zip_along, Vec3.swap, Vec3.swap, Vec3.ofAxes_along, Vec3.ofAxes_along]
  split
  · rw [hf]
  · rfl

/-- Which corner has which coordinates does not matter. -/
theorem boxTriangles_swap (taken : Axis → Bool) :
    boxTriangles (c0.swap taken c1) (c1.swap taken c0) = boxTriangles c0 c1 := by
  have hmin : ∀ a b : ℚ, Scalar.min a b = Scalar.min b a := by
    intro a b
    rw [Scalar.exact_min, Scalar.exact_min, min_comm]
  have hmax : ∀ a b : ℚ, Scalar.max a b = Scalar.max b a := by
    intro a b
    rw [Scalar.exact_max, Scalar.exact_max, max_comm]
  rw [boxTriangles, boxTriangles, zip_swap c0 c1 hmin, zip_swap c0 c1 hmax]

/-- The least coordinates of two corners. -/
def least : Vec3 ℚ := c0.zip min c1

/-- The greatest coordinates of two corners. -/
def greatest : Vec3 ℚ := c0.zip max c1

theorem boxTriangles_eq_map :
    boxTriangles c0 c1 = boxFaces.map (Triangle.map (boxCorner (least c0 c1) (greatest c0 c1))) := by
  have hmin : (Scalar.min : ℚ → ℚ → ℚ) = min := funext₂ Scalar.exact_min
  have hmax : (Scalar.max : ℚ → ℚ → ℚ) = max := funext₂ Scalar.exact_max
  rw [boxTriangles, hmin, hmax]
  rfl

/-- The triangles of a box, face by face. -/
theorem boxTriangles_eq :
    boxTriangles c0 c1 = Face.all.flatMap fun f => f.triangles (least c0 c1) (greatest c0 c1) := by
  have hfaces : boxFaces = Face.all.flatMap fun f =>
      boxFaces.filter fun t => t.toList.all fun n => n.testBit f.axis.bit == f.upper := by decide
  rw [boxTriangles_eq_map, hfaces, List.map_flatMap]
  rfl

theorem least_along (a : Axis) : (least c0 c1).along a = min (c0.along a) (c1.along a) :=
  Vec3.zip_along min c0 c1 a

theorem greatest_along (a : Axis) : (greatest c0 c1).along a = max (c0.along a) (c1.along a) :=
  Vec3.zip_along max c0 c1 a

theorem least_le_greatest (a : Axis) : (least c0 c1).along a ≤ (greatest c0 c1).along a := by
  rw [least_along, greatest_along]
  exact min_le_max

/-- Where the corners differ in all coordinates, no triangle lies on a face but the two of that face. -/
theorem filter_boxTriangles (hne : ∀ a, c0.along a ≠ c1.along a) (f : Face) :
    (boxTriangles c0 c1).filter (fun t => ∀ p ∈ t.toList, f.Has (least c0 c1) (greatest c0 c1) p) =
      f.triangles (least c0 c1) (greatest c0 c1) := by
  have hlt : ∀ a, (least c0 c1).along a < (greatest c0 c1).along a := by
    intro a
    rw [least_along, greatest_along]
    exact min_lt_max.mpr (hne a)
  rw [boxTriangles_eq_map, List.filter_map, Face.triangles]
  refine congrArg _ (List.filter_congr fun t _ => ?_)
  rw [Function.comp_apply, Bool.eq_iff_iff, decide_eq_true_iff, List.all_eq_true]
  show (∀ p ∈ t.toList.map (boxCorner _ _), _) ↔ _
  rw [List.forall_mem_map]
  simp only [has_boxCorner hlt, beq_iff_eq]

/-- The volume of a box. -/
theorem sum_volume : ((boxTriangles c0 c1).map Triangle.volume).sum =
    (greatest c0 c1 - least c0 c1).x * (greatest c0 c1 - least c0 c1).y *
      (greatest c0 c1 - least c0 c1).z := by
  rw [boxTriangles_eq]
  simp only [Face.all, List.flatMap_cons, List.flatMap_nil, List.map_append, List.sum_append,
    Face.sum_volume, List.map_nil, List.sum_nil]
  simp only [Face.area, Axis.next, Vec3.along, Vec3.sub_mk, if_true, Bool.false_eq_true, if_false]
  ring

end

/-- **The boundary of a box.** A box has twelve triangles, and it does not matter which corner has which
    coordinates. Each of its six faces has two of them, which cover it and nothing else, and both point out
    of the box with the area of the face; where the corners differ in all coordinates, no other triangle
    lies on that face. So the volumes below the triangles add up to that of the box. -/
theorem box_boundary (c0 c1 : Vec3 ℚ) :
    (box c0 c1).polylines = (boxTriangles c0 c1).map Triangle.toList ∧
    (boxTriangles c0 c1).length = 12 ∧
    (∀ taken, box (c0.swap taken c1) (c1.swap taken c0) = box c0 c1) ∧
    boxTriangles c0 c1 = Face.all.flatMap (fun f => f.triangles (least c0 c1) (greatest c0 c1)) ∧
    (∀ f : Face, ∃ t u, f.triangles (least c0 c1) (greatest c0 c1) = [t, u] ∧
      t.normal = f.outward.scale (f.area (least c0 c1) (greatest c0 c1)) ∧
      u.normal = f.outward.scale (f.area (least c0 c1) (greatest c0 c1)) ∧
      ∀ p, f.Has (least c0 c1) (greatest c0 c1) p ↔ t.Covers p ∨ u.Covers p) ∧
    ((∀ a, c0.along a ≠ c1.along a) → ∀ f : Face,
      (boxTriangles c0 c1).filter (fun t => ∀ p ∈ t.toList, f.Has (least c0 c1) (greatest c0 c1) p) =
        f.triangles (least c0 c1) (greatest c0 c1)) ∧
    ((boxTriangles c0 c1).map Triangle.volume).sum =
      (greatest c0 c1 - least c0 c1).x * (greatest c0 c1 - least c0 c1).y *
        (greatest c0 c1 - least c0 c1).z := by
  refine ⟨?_, rfl, ?_, boxTriangles_eq c0 c1, ?_, filter_boxTriangles c0 c1, sum_volume c0 c1⟩
  · rw [box, Geometry.polylines_ofTriangles]
    refine List.map_congr_left fun t _ => ?_
    -- exact numbers are stored as they are
    exact List.map_id _
  · intro taken
    rw [box, box, boxTriangles_swap]
  · intro f
    refine ⟨_, _, f.triangles_eq _ _, ?_, ?_, fun p => ?_⟩
    · rw [Parallelogram.normal_lower, Face.cross_edges]
    · rw [Parallelogram.normal_upper, Face.cross_edges]
    · exact Face.has_iff_covers (least_le_greatest c0 c1)

end Solid

end Wireframe
