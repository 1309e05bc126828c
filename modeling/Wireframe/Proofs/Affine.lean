import Mathlib.Data.List.Induction
import Mathlib.Tactic.Ring
import Wireframe.Proofs.Exact
import Wireframe.Proofs.Scope

/-!
# `Wireframe.Proofs.Affine` — transforms as maps of points

A transform whose last row is that of the identity leaves the fourth coordinate at one, so its images are
never divided. The basic transforms are of this kind, and so are their products, which do what their
factors do, the last factor first. In exact arithmetic a product of transforms can therefore be read off
as what is done to a point: it is moved, stretched and turned.

## Contents
- `Matrix.IsAffine`: the transforms that leave the fourth coordinate alone; `mul_affine`.
- `apply_of_affine`, `transform_of_affine`: nothing is divided.
- `mul_apply`: products of transforms are compositions of maps.
- `Vec3.turned`, `Executed.map?`: what an instruction does to a point.
- `Scope.placed`, `product_move`: what a list of instructions does to a point.
-/

namespace Wireframe

open Document Scalar

variable {α : Type}

/-! ## Transforms that leave the fourth coordinate alone -/

namespace Matrix

section

variable [Scalar α]

/-- The last row is that of the identity. -/
def IsAffine (m : Matrix α) : Prop := m.r3 = ⟨zero, zero, zero, one⟩

theorem identity_affine : (identity : Matrix α).IsAffine := rfl

theorem translation_affine (d : Vec3 α) : (translation d).IsAffine := rfl

theorem scaling_affine (s : Vec3 α) : (scaling s).IsAffine := rfl

theorem turn_affine (axis : Axis) (c s : α) : (turn axis c s).IsAffine := by
  cases axis <;> rfl

/-- A rotation turns by the cosine and the sine of its angle. -/
theorem rotation_eq_turn [Angle α] {axis : Axis} {theta : α} {t : Matrix α}
    (h : (rotation axis theta).toOption = some t) :
    t = turn axis (Angle.cos theta) (Angle.sin theta) := by
  unfold rotation at h
  split at h
  · exact (Option.some.inj h).symm
  · cases h

end

variable [Scalar α] [Exact α] {a b m : Matrix α}

theorem mul_affine (ha : a.IsAffine) (hb : b.IsAffine) : (a.mul b).IsAffine := by
  let : CommRing α := Exact.ring
  show rowMul a.r3 b.transpose = ⟨0, 0, 0, 1⟩
  unfold IsAffine at ha hb
  simp only [ha, hb, rowMul, transpose, Vec4.dot]
  show (⟨0 * _ + 0 * _ + 0 * _ + 1 * 0, 0 * _ + 0 * _ + 0 * _ + 1 * 0, 0 * _ + 0 * _ + 0 * _ + 1 * 0,
    0 * _ + 0 * _ + 0 * _ + 1 * 1⟩ : Vec4 α) = ⟨0, 0, 0, 1⟩
  simp only [zero_mul, one_mul, add_zero, zero_add]

/-- Every image has one as its fourth coordinate. -/
theorem weight_of_affine (hm : m.IsAffine) (p : Vec3 α) : m.weight p = one := by
  let : CommRing α := Exact.ring
  rw [weight, hm]
  show p.x * 0 + p.y * 0 + p.z * 0 + 1 = (1 : α)
  simp only [mul_zero, add_zero, zero_add]

/-- No image is divided. -/
theorem apply_of_affine (hm : m.IsAffine) (ps : List (Vec3 α)) : m.apply ps = ps.map m.move := by
  have hunit : (ps.all fun p => isUnit tolerance (m.weight p)) = true := by
    rw [List.all_eq_true]
    intro p _
    rw [weight_of_affine hm, isUnit, exact_sub_self, exact_abs_zero]
    exact Exact.ratio_nonneg 1001 100000000
  unfold apply
  rw [if_pos hunit]

/-- A product moves a point as its second factor does, and then as its first one does. -/
theorem mul_move (hb : b.IsAffine) (p : Vec3 α) : (a.mul b).move p = a.move (b.move p) := by
  let : CommRing α := Exact.ring
  have hrow : ∀ r : Vec4 α, coordinate (rowMul r b.transpose) p = coordinate r (b.move p) := by
    intro r
    unfold IsAffine at hb
    simp only [coordinate, rowMul, transpose, Vec4.dot, move, hb]
    show _ * (_ + r.w * 0) + _ * (_ + r.w * 0) + _ * (_ + r.w * 0) + (_ + r.w * 1) = _
    ring
  simp only [move, mul, hrow]

/-- **Products are compositions.** -/
theorem mul_apply (ha : a.IsAffine) (hb : b.IsAffine) (ps : List (Vec3 α)) :
    (a.mul b).apply ps = a.apply (b.apply ps) := by
  rw [apply_of_affine (mul_affine ha hb), apply_of_affine ha, apply_of_affine hb, List.map_map]
  exact List.map_congr_left fun p _ => mul_move hb p

/-! ## What the basic transforms do to a point -/

theorem identity_move (p : Vec3 α) : (identity : Matrix α).move p = p := by
  let : CommRing α := Exact.ring
  show (⟨p.x * 1 + p.y * 0 + p.z * 0 + 0, p.x * 0 + p.y * 1 + p.z * 0 + 0,
    p.x * 0 + p.y * 0 + p.z * 1 + 0⟩ : Vec3 α) = p
  simp only [mul_one, mul_zero, add_zero, zero_add]

theorem translation_move (d p : Vec3 α) : (translation d).move p = p + d := by
  let : CommRing α := Exact.ring
  show (⟨p.x * 1 + p.y * 0 + p.z * 0 + d.x, p.x * 0 + p.y * 1 + p.z * 0 + d.y,
    p.x * 0 + p.y * 0 + p.z * 1 + d.z⟩ : Vec3 α) = ⟨p.x + d.x, p.y + d.y, p.z + d.z⟩
  simp only [mul_one, mul_zero, add_zero, zero_add]

theorem scaling_move (s p : Vec3 α) : (scaling s).move p = p.zip (· * ·) s := by
  let : CommRing α := Exact.ring
  show (⟨p.x * s.x + p.y * 0 + p.z * 0 + 0, p.x * 0 + p.y * s.y + p.z * 0 + 0,
    p.x * 0 + p.y * 0 + p.z * s.z + 0⟩ : Vec3 α) = ⟨p.x * s.x, p.y * s.y, p.z * s.z⟩
  simp only [mul_zero, add_zero, zero_add]

end Matrix

/-- Two coordinates turned by an angle, from the first towards the second. -/
def planeTurn [Scalar α] (c s a b : α) : α × α := (c * a - s * b, s * a + c * b)

/-- A point turned around an axis, right-handed: from the axis that follows it in the cycle `x`, `y`, `z`
    towards the one after. -/
def Vec3.turned [Scalar α] (axis : Axis) (c s : α) (p : Vec3 α) : Vec3 α :=
  match axis with
  | .x => ⟨p.x, (planeTurn c s p.y p.z).1, (planeTurn c s p.y p.z).2⟩
  | .y => ⟨(planeTurn c s p.z p.x).2, p.y, (planeTurn c s p.z p.x).1⟩
  | .z => ⟨(planeTurn c s p.x p.y).1, (planeTurn c s p.x p.y).2, p.z⟩

theorem Matrix.turn_move [Scalar α] [Exact α] (axis : Axis) (c s : α) (p : Vec3 α) :
    (turn axis c s).move p = p.turned axis c s := by
  have hsub : ∀ a b : α, planeTurn c s a b = (c * a + -(s * b), s * a + c * b) := by
    intro a b
    rw [planeTurn, Exact.sub_eq]
  let : CommRing α := Exact.ring
  cases axis with
  | x =>
    simp only [Vec3.turned, hsub]
    show (⟨p.x * 1 + p.y * 0 + p.z * 0 + 0, p.x * 0 + p.y * c + p.z * -s + 0,
      p.x * 0 + p.y * s + p.z * c + 0⟩ : Vec3 α) = _
    congr 1 <;> ring
  | y =>
    simp only [Vec3.turned, hsub]
    show (⟨p.x * c + p.y * 0 + p.z * s + 0, p.x * 0 + p.y * 1 + p.z * 0 + 0,
      p.x * -s + p.y * 0 + p.z * c + 0⟩ : Vec3 α) = _
    congr 1 <;> ring
  | z =>
    simp only [Vec3.turned, hsub]
    show (⟨p.x * c + p.y * -s + p.z * 0 + 0, p.x * s + p.y * c + p.z * 0 + 0,
      p.x * 0 + p.y * 0 + p.z * 1 + 0⟩ : Vec3 α) = _
    congr 1 <;> ring

/-- Vertices are moved, and the polylines stay the same. -/
theorem Geometry.transform_of_affine [Scalar α] [Exact α] {m : Matrix α} (hm : m.IsAffine)
    (g : Geometry α) : g.transform m = ⟨(g.points.map m.move).map store, g.offsets⟩ := by
  unfold transform isEmpty
  rw [Matrix.apply_of_affine hm]
  split
  · next hempty =>
    obtain ⟨points, offsets⟩ := g
    obtain rfl : points = [] := List.isEmpty_iff.mp hempty
    rfl
  · rfl

/-! ## What instructions do to a point -/

/-- What a move, a scaling or a rotation does to a point, with the value that its knob has at the time. -/
def Executed.map? [Scalar α] [Angle α] (x : Executed α) : Option (Vec3 α → Vec3 α) :=
  match x.op with
  | .move delta knob => (x.machine.factor knob).toOption.map fun k p => p + delta.scale k
  | .scale delta knob => (x.machine.factor knob).toOption.map fun k p => p.zip (· * ·) (delta.scale k)
  | .rotate axis degrees knob =>
    (x.machine.factor knob).toOption.map fun k =>
      .turned axis (Angle.cos (Machine.radians (degrees * k))) (Angle.sin (Machine.radians (degrees * k)))
  | _ => none

variable [Scalar α] [Angle α]

/-- The transforms of instructions leave the fourth coordinate alone. -/
theorem Executed.matrix_affine {x : Executed α} {t : Matrix α} (h : x.matrix? = some t) :
    t.IsAffine := by
  obtain ⟨op, m⟩ := x
  cases op with
  | move delta knob =>
    obtain ⟨k, -, rfl⟩ := Option.map_eq_some_iff.mp h
    exact Matrix.translation_affine _
  | scale delta knob =>
    obtain ⟨k, -, rfl⟩ := Option.map_eq_some_iff.mp h
    exact Matrix.scaling_affine _
  | rotate axis degrees knob =>
    obtain ⟨k, -, ht⟩ := Option.bind_eq_some_iff.mp h
    rw [Matrix.rotation_eq_turn ht]
    exact Matrix.turn_affine _ _ _
  | _ => cases h

variable [Exact α]

/-- An instruction moves points by the transform that it builds. -/
theorem Executed.map_of_matrix {x : Executed α} {t : Matrix α} (h : x.matrix? = some t) :
    x.map? = some t.move := by
  obtain ⟨op, m⟩ := x
  cases op with
  | move delta knob =>
    obtain ⟨k, hk, rfl⟩ := Option.map_eq_some_iff.mp h
    exact Option.map_eq_some_iff.mpr ⟨k, hk, funext fun p => (Matrix.translation_move _ p).symm⟩
  | scale delta knob =>
    obtain ⟨k, hk, rfl⟩ := Option.map_eq_some_iff.mp h
    exact Option.map_eq_some_iff.mpr ⟨k, hk, funext fun p => (Matrix.scaling_move _ p).symm⟩
  | rotate axis degrees knob =>
    obtain ⟨k, hk, ht⟩ := Option.bind_eq_some_iff.mp h
    rw [Matrix.rotation_eq_turn ht]
    exact Option.map_eq_some_iff.mpr ⟨k, hk, funext fun p => (Matrix.turn_move axis _ _ p).symm⟩
  | _ => cases h

omit [Exact α] in
/-- An instruction that is no transform moves no point. -/
theorem Executed.map_of_not_transform {x : Executed α} (h : x.op.isTransform = false) :
    x.map? = none := by
  obtain ⟨op, m⟩ := x
  cases op with
  | move delta knob => cases h
  | scale delta knob => cases h
  | rotate axis degrees knob => cases h
  | _ => rfl

namespace Scope

/-- Where instructions put a point: each does to it what it does, the last one first. -/
def placed (xs : List (Executed α)) (p : Vec3 α) : Vec3 α :=
  (xs.filterMap Executed.map?).foldr (fun f q => f q) p

/-- **The product of transforms places points.** It is affine, and it does to a point what the instructions
    do, the last one first. -/
theorem product_affine_move {xs : List (Executed α)}
    (hxs : ∀ x ∈ xs, x.matrix?.isSome = x.op.isTransform) :
    (product xs).IsAffine ∧ ∀ p, (product xs).move p = placed xs p := by
  induction xs using List.reverseRecOn with
  | nil => exact ⟨Matrix.identity_affine, Matrix.identity_move⟩
  | append_singleton xs x ih =>
    obtain ⟨haffine, hmove⟩ := ih fun y hy => hxs y (List.mem_append_left _ hy)
    have hx := hxs x (List.mem_append_right _ List.mem_cons_self)
    rw [product_concat]
    cases ht : x.matrix? with
    | none =>
      rw [ht] at hx
      refine ⟨haffine, fun p => ?_⟩
      rw [hmove, placed, placed, List.filterMap_append, List.filterMap_cons,
        Executed.map_of_not_transform hx.symm, List.filterMap_nil, List.append_nil]
    | some t =>
      have haffine' := Executed.matrix_affine ht
      refine ⟨Matrix.mul_affine haffine haffine', fun p => ?_⟩
      show ((product xs).mul t).move p = _
      rw [Matrix.mul_move haffine', hmove, placed, placed, List.filterMap_append, List.filterMap_cons,
        Executed.map_of_matrix ht, List.filterMap_nil, List.foldr_append, List.foldr_cons, List.foldr_nil]

end Scope

end Wireframe
