import Mathlib.Tactic.FieldSimp
import Wireframe.Proofs.Exact
import Wireframe.Proofs.Geometry.Concat

/-!
# `Wireframe.Proofs.Projective` — images under transforms that divide

The image of a point under a transform is what is left of its first three coordinates when they are divided by
the fourth. Images are found for many points at once, and whether they are divided is decided once for all of
them: if every fourth coordinate is one up to a tolerance, nothing is divided. In exact arithmetic that is the
whole difference. An image that is not divided is off by no more than the tolerance, relative to the image
itself, and it is the image exactly if its fourth coordinate is one or it is the origin. So points can be
dealt with in parts unless one part is divided and the other is not.

## Contents
- `Matrix.image`: the image of a point by itself; `move_eq`, `weight_eq`.
- `NearUnit`, `apply_eq`: the images of many points.
- `Unaltered`, `move_eq_image`, `abs_move_sub_image`: images that are not divided.
- `Splits`, `apply_append_iff`, `transform_concat_iff`: many points in two parts.
- `projective_images`: all of it; `near_part_altered`: a point whose image depends on another.
-/

namespace Wireframe

namespace Matrix

/-! ## The image of a point -/

/-- The point with one as its fourth coordinate. -/
def extended (p : Vec3 ℚ) : Vec4 ℚ := ⟨p.x, p.y, p.z, 1⟩

/-- The image of a point: three coordinates of the product, divided by the fourth. -/
def image (m : Matrix ℚ) (p : Vec3 ℚ) : Vec3 ℚ :=
  let w := m.r3.dot (extended p)
  ⟨m.r0.dot (extended p) / w, m.r1.dot (extended p) / w, m.r2.dot (extended p) / w⟩

variable {m : Matrix ℚ} {p : Vec3 ℚ} {ps qs : List (Vec3 ℚ)}

theorem coordinate_eq_dot (r : Vec4 ℚ) (p : Vec3 ℚ) : coordinate r p = r.dot (extended p) := by
  show p.x * r.x + p.y * r.y + p.z * r.z + r.w = r.x * p.x + r.y * p.y + r.z * p.z + r.w * 1
  ring

theorem image_eq (m : Matrix ℚ) (p : Vec3 ℚ) : m.image p = (m.move p).map (· / m.weight p) := by
  simp only [image, move, weight, coordinate_eq_dot, Vec3.map]

/-! ## The images of many points -/

/-- How far from one a fourth coordinate may be without a division. -/
def slack : ℚ := 1001 / 100000000

/-- Every fourth coordinate is one, up to the tolerance. -/
def NearUnit (m : Matrix ℚ) (ps : List (Vec3 ℚ)) : Prop := ∀ p ∈ ps, |m.weight p - 1| ≤ slack

theorem exact_abs (x : ℚ) : Scalar.abs x = |x| := by
  show (if decide (x < 0) = true then -x else x) = |x|
  by_cases h : x < 0
  · rw [if_pos (decide_eq_true h), abs_of_neg h]
  · rw [if_neg (by simpa using h), abs_of_nonneg (not_lt.mp h)]

theorem isUnit_iff (w : ℚ) : isUnit tolerance w = true ↔ |w - 1| ≤ slack := by
  rw [isUnit, exact_abs]
  have htol : (tolerance : ℚ) = slack := by
    show ((1001 : ℤ) : ℚ) / ((100000000 : ℤ) : ℚ) = 1001 / 100000000
    norm_num
  rw [htol]
  exact decide_eq_true_iff

theorem all_isUnit_iff : (ps.all fun p => isUnit tolerance (m.weight p)) = true ↔ NearUnit m ps := by
  rw [List.all_eq_true]
  exact forall₂_congr fun p _ => isUnit_iff (m.weight p)

theorem apply_of_nearUnit (h : NearUnit m ps) : m.apply ps = ps.map m.move := if_pos (all_isUnit_iff.mpr h)

theorem apply_of_not_nearUnit (h : ¬ NearUnit m ps) : m.apply ps = ps.map m.image := by
  rw [funext m.image_eq]
  exact if_neg (mt all_isUnit_iff.mp h)

theorem length_apply (m : Matrix ℚ) (ps : List (Vec3 ℚ)) : (m.apply ps).length = ps.length := by
  by_cases h : NearUnit m ps
  · rw [apply_of_nearUnit h, List.length_map]
  · rw [apply_of_not_nearUnit h, List.length_map]

/-! ## Images that are not divided -/

/-- A division changes nothing: the fourth coordinate is one, or the others are zero. -/
def Unaltered (m : Matrix ℚ) (p : Vec3 ℚ) : Prop := m.weight p = 1 ∨ m.move p = ⟨0, 0, 0⟩

theorem eq_div_self_iff {c w : ℚ} (hw : w ≠ 0) : c = c / w ↔ w = 1 ∨ c = 0 := by
  rw [eq_div_iff hw, mul_right_eq_self₀]

theorem move_eq_image (hw : m.weight p ≠ 0) : m.move p = m.image p ↔ Unaltered m p := by
  rw [image_eq, Unaltered]
  generalize m.move p = v at *
  obtain ⟨x, y, z⟩ := v
  rw [Vec3.map, Vec3.mk.injEq, Vec3.mk.injEq, eq_div_self_iff hw, eq_div_self_iff hw, eq_div_self_iff hw]
  tauto

/-- Every coordinate is off by a share of the other one at most. -/
def CloseBy (t : ℚ) (v v' : Vec3 ℚ) : Prop :=
  |v.x - v'.x| ≤ t * |v'.x| ∧ |v.y - v'.y| ≤ t * |v'.y| ∧ |v.z - v'.z| ≤ t * |v'.z|

/-- What is left out with a division: as great a share as the divisor differs from one. -/
theorem abs_sub_div_le {c w t : ℚ} (hw : w ≠ 0) (h : |w - 1| ≤ t) : |c - c / w| ≤ t * |c / w| := by
  have hdiff : c - c / w = (w - 1) * (c / w) := by
    field_simp
  rw [hdiff, abs_mul]
  exact mul_le_mul_of_nonneg_right h (abs_nonneg _)

theorem move_within_image (hw : m.weight p ≠ 0) (h : |m.weight p - 1| ≤ slack) :
    CloseBy slack (m.move p) (m.image p) := by
  rw [image_eq]
  exact ⟨abs_sub_div_le hw h, abs_sub_div_le hw h, abs_sub_div_le hw h⟩

/-! ## Two parts -/

/-- If one of two parts is divided and the other one is not, then the division would change nothing there. -/
def Splits (m : Matrix ℚ) (ps qs : List (Vec3 ℚ)) : Prop :=
  (NearUnit m ps → ¬ NearUnit m qs → ∀ p ∈ ps, Unaltered m p) ∧
    (NearUnit m qs → ¬ NearUnit m ps → ∀ q ∈ qs, Unaltered m q)

theorem nearUnit_append : NearUnit m (ps ++ qs) ↔ NearUnit m ps ∧ NearUnit m qs := List.forall_mem_append

theorem map_image_eq_map_move (hw : ∀ p ∈ ps, m.weight p ≠ 0) :
    ps.map m.image = ps.map m.move ↔ ∀ p ∈ ps, Unaltered m p := by
  rw [List.map_inj_left]
  exact forall₂_congr fun p hp => eq_comm.trans (move_eq_image (hw p hp))

/-- **Points in two parts.** -/
theorem apply_append_iff (hw : ∀ p ∈ ps ++ qs, m.weight p ≠ 0) :
    m.apply (ps ++ qs) = m.apply ps ++ m.apply qs ↔ Splits m ps qs := by
  obtain ⟨hps, hqs⟩ := List.forall_mem_append.mp hw
  by_cases hnear : NearUnit m ps <;> by_cases hnear' : NearUnit m qs
  · rw [apply_of_nearUnit (nearUnit_append.mpr ⟨hnear, hnear'⟩), apply_of_nearUnit hnear,
      apply_of_nearUnit hnear', List.map_append]
    simp [Splits, hnear, hnear']
  · rw [apply_of_not_nearUnit (fun h => hnear' (nearUnit_append.mp h).2), apply_of_nearUnit hnear,
      apply_of_not_nearUnit hnear', List.map_append, List.append_left_inj, map_image_eq_map_move hps]
    simp [Splits, hnear, hnear']
  · rw [apply_of_not_nearUnit (fun h => hnear (nearUnit_append.mp h).1), apply_of_not_nearUnit hnear,
      apply_of_nearUnit hnear', List.map_append, List.append_right_inj, map_image_eq_map_move hqs]
    simp [Splits, hnear, hnear']
  · rw [apply_of_not_nearUnit (fun h => hnear (nearUnit_append.mp h).1), apply_of_not_nearUnit hnear,
      apply_of_not_nearUnit hnear', List.map_append]
    simp [Splits, hnear, hnear']

end Matrix

/-! ## Geometries in two parts -/

namespace Geometry

variable {m : Matrix ℚ} {g h : Geometry ℚ}

theorem transform_eq (g : Geometry ℚ) (m : Matrix ℚ) : g.transform m = ⟨m.apply g.points, g.offsets⟩ := by
  obtain ⟨points, offsets⟩ := g
  cases points with
  | nil => rfl
  | cons p ps => exact congrArg (Geometry.mk · offsets) (List.map_id _)

theorem isEmpty_transform (g : Geometry ℚ) (m : Matrix ℚ) : (g.transform m).isEmpty = g.isEmpty := by
  rw [transform_eq, Bool.eq_iff_iff, isEmpty, isEmpty, List.isEmpty_iff_length_eq_zero,
    List.isEmpty_iff_length_eq_zero, Matrix.length_apply]

/-- **Geometries in two parts.** -/
theorem transform_concat_iff (hw : ∀ p ∈ g.points ++ h.points, m.weight p ≠ 0) :
    (g.concat h).transform m = (g.transform m).concat (h.transform m) ↔ m.Splits g.points h.points := by
  cases hg : g.isEmpty with
  | true =>
    have hpoints : g.points = [] := List.isEmpty_iff.mp hg
    rw [concat_of_isEmpty hg, concat_of_isEmpty ((isEmpty_transform g m).trans hg), hpoints]
    simp [Matrix.Splits, Matrix.NearUnit]
  | false =>
    cases hh : h.isEmpty with
    | true =>
      have hpoints : h.points = [] := List.isEmpty_iff.mp hh
      rw [concat_isEmpty hg hh, concat_isEmpty ((isEmpty_transform g m).trans hg)
        ((isEmpty_transform h m).trans hh), hpoints]
      simp [Matrix.Splits, Matrix.NearUnit]
    | false =>
      rw [← Matrix.apply_append_iff hw, concat_eq hg hh, concat_eq ((isEmpty_transform g m).trans hg)
        ((isEmpty_transform h m).trans hh), transform_eq, transform_eq, transform_eq, Geometry.mk.injEq,
        Matrix.length_apply]
      exact and_iff_left rfl

end Geometry

/-- **Images of many points.** Unless all fourth coordinates are close to one, every image is the one of its point
    by itself. If they all are, no image is divided; it is off by the tolerance at most, relative to the image
    itself, and it is the image exactly if the fourth coordinate is one or the others are zero. Points, and
    geometries, can be dealt with in two parts exactly if the parts split. Where every fourth coordinate is
    one or not close to it, images are those of the points by themselves, in any parts. -/
theorem projective_images (m : Matrix ℚ) {ps qs : List (Vec3 ℚ)} (hw : ∀ p ∈ ps ++ qs, m.weight p ≠ 0) :
    (¬ m.NearUnit ps → m.apply ps = ps.map m.image) ∧
    (m.NearUnit ps → m.apply ps = ps.map m.move ∧ ∀ p ∈ ps, (m.move p = m.image p ↔ m.Unaltered p) ∧
      Matrix.CloseBy Matrix.slack (m.move p) (m.image p)) ∧
    (m.apply (ps ++ qs) = m.apply ps ++ m.apply qs ↔ m.Splits ps qs) ∧
    (∀ g h : Geometry ℚ, g.points = ps → h.points = qs →
      ((g.concat h).transform m = (g.transform m).concat (h.transform m) ↔ m.Splits ps qs)) ∧
    ((∀ p ∈ ps ++ qs, m.weight p = 1 ∨ Matrix.slack < |m.weight p - 1|) →
      m.apply ps = ps.map m.image ∧ m.Splits ps qs) := by
  obtain ⟨hps, hqs⟩ := List.forall_mem_append.mp hw
  refine ⟨Matrix.apply_of_not_nearUnit, ?near, Matrix.apply_append_iff hw, ?geometries, ?apart⟩
  case near =>
    intro hnear
    refine ⟨Matrix.apply_of_nearUnit hnear, fun p hp => ⟨Matrix.move_eq_image (hps p hp), ?_⟩⟩
    exact Matrix.move_within_image (hps p hp) (hnear p hp)
  case geometries =>
    rintro g h rfl rfl
    exact Geometry.transform_concat_iff hw
  case apart =>
    intro hapart
    -- what is close to one then is one, and a division by one changes nothing
    have hunaltered : ∀ rs : List (Vec3 ℚ), (∀ r ∈ rs, r ∈ ps ++ qs) → m.NearUnit rs →
        ∀ r ∈ rs, m.Unaltered r := fun rs hrs hnear r hr =>
      .inl ((hapart r (hrs r hr)).resolve_right (not_lt.mpr (hnear r hr)))
    have hleft : ∀ r ∈ ps, r ∈ ps ++ qs := fun r => List.mem_append_left qs
    have hright : ∀ r ∈ qs, r ∈ ps ++ qs := fun r => List.mem_append_right ps
    constructor
    · by_cases hnear : m.NearUnit ps
      · rw [Matrix.apply_of_nearUnit hnear]
        exact ((Matrix.map_image_eq_map_move hps).mpr (hunaltered ps hleft hnear)).symm
      · exact Matrix.apply_of_not_nearUnit hnear
    · exact ⟨fun hnear _ => hunaltered ps hleft hnear, fun hnear _ => hunaltered qs hright hnear⟩

/-- The transform that divides by one more than the third coordinate. -/
def Matrix.view : Matrix ℚ := ⟨⟨1, 0, 0, 0⟩, ⟨0, 1, 0, 0⟩, ⟨0, 0, 1, 0⟩, ⟨0, 0, 1, 1⟩⟩

theorem Matrix.weight_view (p : Vec3 ℚ) : Matrix.view.weight p = p.z + 1 := by
  simp [Matrix.weight, Matrix.coordinate_eq_dot, Matrix.view, Vec4.dot, Matrix.extended]

theorem Matrix.move_view (p : Vec3 ℚ) : Matrix.view.move p = p := by
  simp [Matrix.move, Matrix.coordinate_eq_dot, Matrix.view, Vec4.dot, Matrix.extended]

theorem Matrix.image_view (p : Vec3 ℚ) :
    Matrix.view.image p = ⟨p.x / (p.z + 1), p.y / (p.z + 1), p.z / (p.z + 1)⟩ := by
  rw [Matrix.image_eq, Matrix.move_view, Matrix.weight_view, Vec3.map]

/-- Two points that are divided, together or not. -/
theorem projective_images_view :
    (∀ p ∈ [(⟨2, 4, 1⟩ : Vec3 ℚ)] ++ [⟨3, 6, 2⟩], Matrix.view.weight p ≠ 0) ∧
      Matrix.view.apply [⟨2, 4, 1⟩] = [⟨1, 2, 1 / 2⟩] ∧
      Matrix.view.apply [⟨2, 4, 1⟩, ⟨3, 6, 2⟩] =
        Matrix.view.apply [⟨2, 4, 1⟩] ++ Matrix.view.apply [⟨3, 6, 2⟩] := by
  have hw : ∀ p ∈ [(⟨2, 4, 1⟩ : Vec3 ℚ)] ++ [⟨3, 6, 2⟩], Matrix.view.weight p ≠ 0 := by
    simp only [Matrix.weight_view, List.cons_append, List.nil_append, List.forall_mem_cons]
    norm_num
  have hapart : ∀ p ∈ [(⟨2, 4, 1⟩ : Vec3 ℚ)] ++ [⟨3, 6, 2⟩],
      Matrix.view.weight p = 1 ∨ Matrix.slack < |Matrix.view.weight p - 1| := by
    simp only [Matrix.weight_view, Matrix.slack, List.cons_append, List.nil_append, List.forall_mem_cons]
    norm_num
  obtain ⟨-, -, happend, -, hsplits⟩ := projective_images Matrix.view hw
  obtain ⟨himages, hsplits⟩ := hsplits hapart
  refine ⟨hw, ?_, happend.mpr hsplits⟩
  rw [himages, List.map_singleton, Matrix.image_view]
  norm_num

/-- A point close to the plane that is not divided, and one that is: the image of the first depends on whether
    the other is there. -/
theorem near_part_altered :
    (∀ p ∈ [(⟨1000, 0, 9 / 1000000⟩ : Vec3 ℚ)] ++ [⟨0, 0, 1⟩], Matrix.view.weight p ≠ 0) ∧
      Matrix.view.apply ([⟨1000, 0, 9 / 1000000⟩] ++ [⟨0, 0, 1⟩]) ≠
        Matrix.view.apply [⟨1000, 0, 9 / 1000000⟩] ++ Matrix.view.apply [⟨0, 0, 1⟩] ∧
      Matrix.view.apply [⟨1000, 0, 9 / 1000000⟩] ≠ [Matrix.view.image ⟨1000, 0, 9 / 1000000⟩] := by
  have hnear : Matrix.view.NearUnit [⟨1000, 0, 9 / 1000000⟩] := by
    simp only [Matrix.NearUnit, Matrix.weight_view, Matrix.slack, List.forall_mem_cons]
    norm_num [abs_of_pos]
  have hfar : ¬ Matrix.view.NearUnit ([⟨1000, 0, 9 / 1000000⟩] ++ [⟨0, 0, 1⟩]) := by
    intro h
    have hlast := h ⟨0, 0, 1⟩ (List.mem_append_right _ List.mem_cons_self)
    rw [Matrix.weight_view, Matrix.slack] at hlast
    norm_num at hlast
  -- the first coordinate is divided by a little more than one, or by nothing
  have haltered : Matrix.view.move ⟨1000, 0, 9 / 1000000⟩ ≠ Matrix.view.image ⟨1000, 0, 9 / 1000000⟩ := by
    rw [Matrix.move_view, Matrix.image_view]
    intro h
    have hfirst := congrArg Vec3.x h
    norm_num at hfirst
  refine ⟨?_, ?_, ?_⟩
  · simp only [Matrix.weight_view, List.cons_append, List.nil_append, List.forall_mem_cons]
    norm_num
  · rw [Matrix.apply_of_not_nearUnit hfar, Matrix.apply_of_nearUnit hnear]
    intro h
    exact haltered (List.cons.inj h).1.symm
  · rw [Matrix.apply_of_nearUnit hnear]
    intro h
    exact haltered (List.cons.inj h).1

end Wireframe
