import Wireframe.Raster.Walk
import Mathlib.Tactic.Ring

/-!
# `Wireframe.Proofs.Raster.Walk` — the walk in closed form

A walk makes one step along the longer direction at a time. Along the shorter direction it has then made
the whole number of steps that is nearest to the straight line, a half going up. The deviation that the
walk keeps is determined by these two numbers, so each step can be told from its number alone, and the
walk ends at its goal.

## Contents
- `minor`, `minor_bounds`, `minor_unique`: steps along the shorter direction.
- `strides`, `deviation`, `moves`: the walk towards a goal at a distance.
- `direction_eq`, `natAbs_mul_direction`: directions, for the columns and for the rows.
- `pointAt`, `walkerAt`: the walk after a number of steps; `step_walkerAt`: one more step.
- `pointAt_injective`, `pointAt_last`: a walk is nowhere twice and arrives.
- `walk_eq`: the whole walk.
-/

namespace Wireframe.Raster

/-! ## Steps along the shorter direction -/

/-- The whole number nearest to `i · b / a`, a half going up: the steps along the shorter direction, of
length `b`, after `i` steps along the longer one, of length `a`. -/
def minor (a b i : Nat) : Nat := (2 * (i * b) + a) / (2 * a)

/-- The line is at most half a step away, on one side strictly less. -/
theorem minor_bounds {a : Nat} (ha : 0 < a) (b i : Nat) :
    2 * (minor a b i * a) ≤ 2 * (i * b) + a ∧ 2 * (i * b) < 2 * (minor a b i * a) + a := by
  have hlower := Nat.div_mul_le_self (2 * (i * b) + a) (2 * a)
  have hupper := Nat.lt_div_mul_add (a := 2 * (i * b) + a) (b := 2 * a) (by omega)
  have hassoc : minor a b i * (2 * a) = 2 * (minor a b i * a) := by ring
  rw [show (2 * (i * b) + a) / (2 * a) = minor a b i from rfl, hassoc] at hlower hupper
  omega

/-- There is only one such number. -/
theorem minor_unique {a b i j : Nat} (hlower : 2 * (j * a) ≤ 2 * (i * b) + a)
    (hupper : 2 * (i * b) < 2 * (j * a) + a) : minor a b i = j := by
  refine Nat.div_eq_of_lt_le ?_ ?_
  · rw [show j * (2 * a) = 2 * (j * a) by ring]
    exact hlower
  · rw [show (j + 1) * (2 * a) = 2 * (j * a) + 2 * a by ring]
    omega

theorem minor_zero (a b : Nat) : minor a b 0 = 0 := by
  rw [minor, Nat.zero_mul]
  by_cases ha : a = 0
  · rw [ha]
  · exact Nat.div_eq_of_lt (by omega)

theorem minor_last {a : Nat} (ha : 0 < a) (b : Nat) : minor a b a = b := by
  refine minor_unique ?_ ?_
  · rw [Nat.mul_comm b a]
    omega
  · rw [Nat.mul_comm b a]
    omega

/-- One more step along the longer direction takes one along the shorter direction, or none. -/
theorem minor_succ {a b : Nat} (ha : 0 < a) (hb : b ≤ a) (i : Nat) :
    minor a b (i + 1) =
      if 2 * (minor a b i * a) + a ≤ 2 * (i * b + b) then minor a b i + 1 else minor a b i := by
  obtain ⟨hlower, hupper⟩ := minor_bounds ha b i
  have hnext : (i + 1) * b = i * b + b := by ring
  have hmore : (minor a b i + 1) * a = minor a b i * a + a := by ring
  split
  · refine minor_unique ?_ ?_
    · rw [hmore, hnext]
      omega
    · rw [hmore, hnext]
      omega
  · refine minor_unique ?_ ?_
    · rw [hnext]
      omega
    · rw [hnext]
      omega

/-! ## Steps along both directions -/

/-- The steps along columns and rows after a number of steps, towards a goal that is `a` columns and `b`
rows away. -/
def strides (a b i : Nat) : Nat × Nat := if b ≤ a then (i, minor a b i) else (minor b a i, i)

/-- The deviation that the walk keeps then. -/
def deviation (a b i : Nat) : Int := ((strides a b i).2 + 1) * a - ((strides a b i).1 + 1) * b

theorem strides_of_le {a b : Nat} (h : b ≤ a) (i : Nat) : strides a b i = (i, minor a b i) := if_pos h

theorem strides_of_lt {a b : Nat} (h : a < b) (i : Nat) : strides a b i = (minor b a i, i) :=
  if_neg (Nat.not_le.mpr h)

theorem strides_zero (a b : Nat) : strides a b 0 = (0, 0) := by
  rcases Nat.lt_or_ge a b with h | h
  · rw [strides_of_lt h, minor_zero]
  · rw [strides_of_le h, minor_zero]

theorem strides_last {a b : Nat} (h : 0 < max a b) : strides a b (max a b) = (a, b) := by
  rcases Nat.lt_or_ge a b with hlt | hle
  · rw [Nat.max_eq_right (by omega)] at h ⊢
    rw [strides_of_lt hlt, minor_last h]
  · rw [Nat.max_eq_left hle] at h ⊢
    rw [strides_of_le hle, minor_last h]

/-- Along which directions the next step goes, as the deviation decides. -/
def moves (a b i : Nat) : Nat × Nat :=
  (if -(b : Int) ≤ 2 * deviation a b i then 1 else 0, if 2 * deviation a b i ≤ a then 1 else 0)

theorem strides_succ {a b i : Nat} (hi : i < max a b) :
    strides a b (i + 1) = ((strides a b i).1 + (moves a b i).1, (strides a b i).2 + (moves a b i).2) := by
  -- along the longer direction every step goes on; along the shorter one `minor_succ` decides as
  -- the deviation does
  rcases Nat.lt_or_ge a b with hlt | hle
  · have hb : 0 < b := by omega
    obtain ⟨hlower, hupper⟩ := minor_bounds hb a i
    have hsucc := minor_succ hb (by omega : a ≤ b) i
    have hdeviation : deviation a b i =
        ((i * a : Nat) : Int) + a - (minor b a i * b : Nat) - b := by
      rw [deviation, strides_of_lt hlt]
      push_cast
      ring
    rw [strides_of_lt hlt, strides_of_lt hlt, hsucc, moves, hdeviation]
    refine Prod.ext ?_ ?_
    · dsimp only
      split
      · rw [if_pos (by omega)]
      · rw [if_neg (by omega), Nat.add_zero]
    · dsimp only
      rw [if_pos (by omega)]
  · have ha : 0 < a := by omega
    obtain ⟨hlower, hupper⟩ := minor_bounds ha b i
    have hsucc := minor_succ ha hle i
    have hdeviation : deviation a b i =
        ((minor a b i * a : Nat) : Int) + a - (i * b : Nat) - b := by
      rw [deviation, strides_of_le hle]
      push_cast
      ring
    rw [strides_of_le hle, strides_of_le hle, hsucc, moves, hdeviation]
    refine Prod.ext ?_ ?_
    · dsimp only
      rw [if_pos (by omega)]
    · dsimp only
      split
      · rw [if_pos (by omega)]
      · rw [if_neg (by omega), Nat.add_zero]

theorem deviation_succ {a b i : Nat} (hi : i < max a b) :
    deviation a b (i + 1) = deviation a b i + (moves a b i).1 * -(b : Int) + (moves a b i).2 * a := by
  rw [deviation, deviation, strides_succ hi]
  push_cast
  ring

/-! ## The walk by the number of steps -/

/-- The distance between two pixels along the columns, and along the rows. -/
def columns (p q : Pixel) : Nat := (q.x - p.x).natAbs

@[inherit_doc columns]
def rows (p q : Pixel) : Nat := (q.y - p.y).natAbs

/-- The number of steps between two pixels. -/
def steps (p q : Pixel) : Nat := max (columns p q) (rows p q)

/-- Where a walk is after a number of steps. -/
def pointAt (p q : Pixel) (i : Nat) : Pixel :=
  ⟨p.x + (strides (columns p q) (rows p q) i).1 * (Course.between p q).sx,
    p.y + (strides (columns p q) (rows p q) i).2 * (Course.between p q).sy⟩

/-- The walk after a number of steps, with its deviation. -/
def walkerAt (p q : Pixel) (i : Nat) : Walker := ⟨pointAt p q i, deviation (columns p q) (rows p q) i⟩

/-- A direction is one pixel forwards or backwards. -/
theorem direction_eq (start goal : Int) :
    (if start < goal then (1 : Int) else -1) = 1 ∨ (if start < goal then (1 : Int) else -1) = -1 := by
  split
  · exact .inl rfl
  · exact .inr rfl

/-- All steps along a direction lead from the start to the goal. -/
theorem natAbs_mul_direction (start goal : Int) :
    ((goal - start).natAbs : Int) * (if start < goal then 1 else -1) = goal - start := by
  split <;> omega

theorem Course.sx_eq (p q : Pixel) : (Course.between p q).sx = 1 ∨ (Course.between p q).sx = -1 :=
  direction_eq p.x q.x

theorem Course.sy_eq (p q : Pixel) : (Course.between p q).sy = 1 ∨ (Course.between p q).sy = -1 :=
  direction_eq p.y q.y

theorem Course.sx_ne_zero (p q : Pixel) : (Course.between p q).sx ≠ 0 := by
  rcases Course.sx_eq p q with h | h <;> rw [h] <;> decide

theorem Course.sy_ne_zero (p q : Pixel) : (Course.between p q).sy ≠ 0 := by
  rcases Course.sy_eq p q with h | h <;> rw [h] <;> decide

theorem columns_mul_sx (p q : Pixel) : (columns p q : Int) * (Course.between p q).sx = q.x - p.x :=
  natAbs_mul_direction p.x q.x

theorem rows_mul_sy (p q : Pixel) : (rows p q : Int) * (Course.between p q).sy = q.y - p.y :=
  natAbs_mul_direction p.y q.y

theorem pointAt_zero (p q : Pixel) : pointAt p q 0 = p := by
  simp only [pointAt, strides_zero, Nat.cast_zero, zero_mul, add_zero]

theorem walkerAt_zero (p q : Pixel) :
    walkerAt p q 0 = ⟨p, (Course.between p q).dx + (Course.between p q).dy⟩ := by
  have hdeviation : deviation (columns p q) (rows p q) 0 =
      (Course.between p q).dx + (Course.between p q).dy := by
    simp only [deviation, strides_zero, Nat.cast_zero, zero_add, one_mul]
    rfl
  rw [walkerAt, pointAt_zero, hdeviation]

/-- A step in one equation. -/
theorem Course.step_eq (c : Course) (w : Walker) : c.step w =
    ⟨⟨w.here.x + (if c.dy ≤ 2 * w.err then 1 else 0) * c.sx,
      w.here.y + (if 2 * w.err ≤ c.dx then 1 else 0) * c.sy⟩,
      w.err + (if c.dy ≤ 2 * w.err then 1 else 0) * c.dy +
        (if 2 * w.err ≤ c.dx then 1 else 0) * c.dx⟩ := by
  by_cases hx : c.dy ≤ 2 * w.err
  · by_cases hy : 2 * w.err ≤ c.dx <;> simp [Course.step, Course.stepIn, hx, hy]
  · by_cases hy : 2 * w.err ≤ c.dx <;> simp [Course.step, Course.stepIn, hx, hy]

/-- **One more step.** -/
theorem step_walkerAt {p q : Pixel} {i : Nat} (hi : i < steps p q) :
    (Course.between p q).step (walkerAt p q i) = walkerAt p q (i + 1) := by
  have hstep : (Course.between p q).step (walkerAt p q i) =
      ⟨⟨(pointAt p q i).x + (moves (columns p q) (rows p q) i).1 * (Course.between p q).sx,
        (pointAt p q i).y + (moves (columns p q) (rows p q) i).2 * (Course.between p q).sy⟩,
        deviation (columns p q) (rows p q) i +
          (moves (columns p q) (rows p q) i).1 * -(rows p q : Int) +
          (moves (columns p q) (rows p q) i).2 * columns p q⟩ := by
    rw [Course.step_eq]
    simp only [moves, Nat.cast_ite, Nat.cast_one, Nat.cast_zero]
    rfl
  rw [hstep, ← deviation_succ hi, walkerAt, pointAt, pointAt, strides_succ hi]
  push_cast
  simp only [add_mul, add_assoc]

/-- A walk arrives with its last step. -/
theorem pointAt_last (p q : Pixel) : pointAt p q (steps p q) = q := by
  have harrived : strides (columns p q) (rows p q) (steps p q) = (columns p q, rows p q) := by
    rcases Nat.eq_zero_or_pos (steps p q) with hzero | hpos
    · have hcolumns : columns p q = 0 := by
        rw [steps] at hzero
        omega
      have hrows : rows p q = 0 := by
        rw [steps] at hzero
        omega
      rw [hzero, strides_zero, hcolumns, hrows]
    · exact strides_last hpos
  have hx : p.x + columns p q * (Course.between p q).sx = q.x := by
    rw [columns_mul_sx, add_sub_cancel]
  have hy : p.y + rows p q * (Course.between p q).sy = q.y := by
    rw [rows_mul_sy, add_sub_cancel]
  rw [pointAt, harrived, hx, hy]

/-- A walk is nowhere twice: along the longer direction it only moves on. -/
theorem pointAt_injective {p q : Pixel} {i j : Nat} (h : pointAt p q i = pointAt p q j) : i = j := by
  rcases Nat.lt_or_ge (columns p q) (rows p q) with hlt | hle
  · have hy := congrArg Pixel.y h
    simp only [pointAt, strides_of_lt hlt] at hy
    have hmul : (i : Int) * (Course.between p q).sy = j * (Course.between p q).sy := by omega
    exact_mod_cast Int.eq_of_mul_eq_mul_right (Course.sy_ne_zero p q) hmul
  · have hx := congrArg Pixel.x h
    simp only [pointAt, strides_of_le hle] at hx
    have hmul : (i : Int) * (Course.between p q).sx = j * (Course.between p q).sx := by omega
    exact_mod_cast Int.eq_of_mul_eq_mul_right (Course.sx_ne_zero p q) hmul

/-- A walk has not arrived before its last step. -/
theorem pointAt_ne_goal {p q : Pixel} {i : Nat} (hi : i < steps p q) : pointAt p q i ≠ q := by
  intro harrived
  have hlast := pointAt_injective (harrived.trans (pointAt_last p q).symm)
  omega

/-- The rest of a walk. -/
theorem run_walkerAt {p q : Pixel} {i fuel : Nat} (h : i + fuel = steps p q) :
    (Course.between p q).run fuel (walkerAt p q i) = (List.range' i (fuel + 1)).map (pointAt p q) := by
  induction fuel generalizing i with
  | zero => rfl
  | succ fuel ih =>
    have hi : i < steps p q := by omega
    have hgoal : ¬ (walkerAt p q i).here = (Course.between p q).goal := pointAt_ne_goal hi
    rw [Course.run, if_neg hgoal, step_walkerAt hi, ih (by omega), List.range'_succ, List.map_cons]
    rfl

/-- **The whole walk.** It visits the point of each number of steps up to the goal, and nothing else. -/
theorem walk_eq (p q : Pixel) :
    walk p q = (List.range (steps p q + 1)).map (pointAt p q) := by
  rw [List.range_eq_range', ← run_walkerAt (Nat.zero_add _), walkerAt_zero]
  rfl

end Wireframe.Raster
