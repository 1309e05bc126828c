import Wireframe.Proofs.Exact
import Wireframe.Raster.Clip
import Mathlib.Tactic.Linarith

/-!
# `Wireframe.Proofs.Raster.Clip` — clipping is exact

In exact arithmetic a border leaves exactly the parameters at which the segment is on its inner side.
Those that all four borders leave form an interval, and clipping cuts the segment at its ends; it drops
the segment if the interval is empty.

## Contents
- `Segment.along`, `Inside`: the points of a segment, and the rectangle of a picture.
- `allows_iff`: the parameters that one border leaves.
- `entry_le_iff`, `le_exit_iff`, `inside_iff`: the parameters that all borders leave.
- `clip_some`, `clip_none`: what clipping does.
-/

namespace Wireframe

/-- The point of a segment at a parameter: its start at 0 and its end at 1. -/
def Segment.along (s : Segment ℚ) (t : ℚ) : ℚ × ℚ :=
  (s.x0 + t * (s.x1 - s.x0), s.y0 + t * (s.y1 - s.y0))

namespace Raster

/-- The rectangle that a picture of a size covers. -/
def Inside (width height : ℚ) (p : ℚ × ℚ) : Prop :=
  (-(1 / 2) ≤ p.1 ∧ p.1 ≤ width - 1 / 2) ∧ -(1 / 2) ≤ p.2 ∧ p.2 ≤ height - 1 / 2

/-! ## One border -/

theorem entry_exact (b : Border ℚ) : b.entry = if b.speed < 0 then b.room / b.speed else 0 := by
  show (if decide (b.speed < 0) = true then b.room / b.speed else 0) = _
  simp only [decide_eq_true_iff]

theorem exit_exact (b : Border ℚ) : b.exit = if 0 < b.speed then b.room / b.speed else 1 := by
  show (if decide (0 < b.speed) = true then b.room / b.speed else 1) = _
  simp only [decide_eq_true_iff]

theorem excludes_exact (b : Border ℚ) : b.excludes = true ↔ b.speed = 0 ∧ b.room < 0 := by
  show (Scalar.eq b.speed 0 && decide (b.room < 0)) = true ↔ _
  rw [Bool.and_eq_true, Scalar.exact_eq, decide_eq_true_iff]

/-- **The parameters that a border leaves.** Those from 0 to 1 at which the segment is on the inner side
    of the border. -/
theorem allows_iff {b : Border ℚ} {t : ℚ} (h0 : 0 ≤ t) (h1 : t ≤ 1) :
    t * b.speed ≤ b.room ↔ b.excludes = false ∧ b.entry ≤ t ∧ t ≤ b.exit := by
  rw [← Bool.not_eq_true, excludes_exact, entry_exact, exit_exact]
  -- the segment comes in over the border, runs along it, or goes out over it
  rcases lt_trichotomy b.speed 0 with hneg | hzero | hpos
  · rw [if_pos hneg, if_neg (not_lt.mpr hneg.le), div_le_iff_of_neg hneg]
    exact ⟨fun h => ⟨fun hparallel => hneg.ne hparallel.1, h, h1⟩, fun h => h.2.1⟩
  · rw [hzero, if_neg (lt_irrefl 0), if_neg (lt_irrefl 0), mul_zero]
    exact ⟨fun h => ⟨fun hparallel => not_lt.mpr h hparallel.2, h0, h1⟩,
      fun h => not_lt.mp fun hroom => h.1 ⟨rfl, hroom⟩⟩
  · rw [if_neg (not_lt.mpr hpos.le), if_pos hpos, le_div_iff₀ hpos]
    exact ⟨fun h => ⟨fun hparallel => hpos.ne' hparallel.1, h0, h⟩, fun h => h.2.2⟩

/-! ## All borders -/

theorem foldl_max_le_iff (xs : List ℚ) (x t : ℚ) :
    xs.foldl Scalar.max x ≤ t ↔ x ≤ t ∧ ∀ y ∈ xs, y ≤ t := by
  induction xs generalizing x with
  | nil => simp
  | cons y xs ih =>
    rw [List.foldl_cons, ih, Scalar.exact_max, max_le_iff, List.forall_mem_cons, and_assoc]

theorem le_foldl_min_iff (xs : List ℚ) (x t : ℚ) :
    t ≤ xs.foldl Scalar.min x ↔ t ≤ x ∧ ∀ y ∈ xs, t ≤ y := by
  induction xs generalizing x with
  | nil => simp
  | cons y xs ih =>
    rw [List.foldl_cons, ih, Scalar.exact_min, le_min_iff, List.forall_mem_cons, and_assoc]

theorem entry_le_iff (bs : List (Border ℚ)) (t : ℚ) :
    entry bs ≤ t ↔ 0 ≤ t ∧ ∀ b ∈ bs, b.entry ≤ t := by
  refine (foldl_max_le_iff _ _ _).trans (and_congr Iff.rfl ?_)
  exact List.forall_mem_map

theorem le_exit_iff (bs : List (Border ℚ)) (t : ℚ) :
    t ≤ exit bs ↔ t ≤ 1 ∧ ∀ b ∈ bs, t ≤ b.exit := by
  refine (le_foldl_min_iff _ _ _).trans (and_congr Iff.rfl ?_)
  exact List.forall_mem_map

/-- A point of a segment is in the rectangle if it is on the inner side of all borders. -/
theorem inside_iff_allows (width height : ℚ) (s : Segment ℚ) (t : ℚ) :
    Inside width height (s.along t) ↔ ∀ b ∈ borders width height s, t * b.speed ≤ b.room := by
  have hborders : borders width height s =
      [⟨-(s.x1 - s.x0), s.x0 + 1 / 2⟩, ⟨s.x1 - s.x0, width - 1 / 2 - s.x0⟩,
        ⟨-(s.y1 - s.y0), s.y0 + 1 / 2⟩, ⟨s.y1 - s.y0, height - 1 / 2 - s.y0⟩] := rfl
  simp only [hborders, List.forall_mem_cons, List.not_mem_nil, false_implies, implies_true, and_true,
    Inside, Segment.along]
  constructor
  · rintro ⟨⟨hleft, hright⟩, hlow, hhigh⟩
    exact ⟨by linarith, by linarith, by linarith, by linarith⟩
  · rintro ⟨hleft, hright, hlow, hhigh⟩
    exact ⟨⟨by linarith, by linarith⟩, by linarith, by linarith⟩

/-- **The parameters at which a segment is inside.** -/
theorem inside_iff (width height : ℚ) (s : Segment ℚ) (t : ℚ) :
    (0 ≤ t ∧ t ≤ 1) ∧ Inside width height (s.along t) ↔
      (borders width height s).any Border.excludes = false ∧
        entry (borders width height s) ≤ t ∧ t ≤ exit (borders width height s) := by
  rw [inside_iff_allows, entry_le_iff, le_exit_iff, List.any_eq_false]
  constructor
  · rintro ⟨⟨h0, h1⟩, hall⟩
    have hborder := fun b hb => (allows_iff h0 h1).mp (hall b hb)
    refine ⟨fun b hb => ?_, ⟨h0, fun b hb => (hborder b hb).2.1⟩, h1, fun b hb => (hborder b hb).2.2⟩
    rw [(hborder b hb).1]
    exact Bool.false_ne_true
  · rintro ⟨hexcludes, ⟨h0, hentry⟩, h1, hexit⟩
    refine ⟨⟨h0, h1⟩, fun b hb => (allows_iff h0 h1).mpr ⟨?_, hentry b hb, hexit b hb⟩⟩
    exact Bool.eq_false_of_not_eq_true (hexcludes b hb)

/-! ## Clipping -/

theorem clip_exact (width height : ℚ) (s : Segment ℚ) :
    clip? width height s =
      if (borders width height s).any Border.excludes = false ∧
          entry (borders width height s) ≤ exit (borders width height s) then
        some ⟨(s.along (entry (borders width height s))).1, (s.along (entry (borders width height s))).2,
          (s.along (exit (borders width height s))).1, (s.along (exit (borders width height s))).2⟩
      else none := by
  have hkept : (isFinite s && !(borders width height s).any Border.excludes &&
      Scalar.le (entry (borders width height s)) (exit (borders width height s))) = true ↔
        (borders width height s).any Border.excludes = false ∧
          entry (borders width height s) ≤ exit (borders width height s) := by
    rw [show isFinite s = true from rfl, Bool.true_and, Bool.and_eq_true, Bool.not_eq_true']
    exact and_congr Iff.rfl decide_eq_true_iff
  by_cases h : (borders width height s).any Border.excludes = false ∧
      entry (borders width height s) ≤ exit (borders width height s)
  · rw [if_pos h]
    exact if_pos (hkept.mpr h)
  · rw [if_neg h]
    exact if_neg (mt hkept.mp h)

/-- **What is left of a segment.** It is cut at the ends of the interval of parameters at which it is
    inside. -/
theorem clip_some {width height : ℚ} {s r : Segment ℚ} (h : clip? width height s = some r) :
    ∃ t0 t1, t0 ≤ t1 ∧
      (∀ t, (0 ≤ t ∧ t ≤ 1) ∧ Inside width height (s.along t) ↔ t0 ≤ t ∧ t ≤ t1) ∧
      r = ⟨(s.along t0).1, (s.along t0).2, (s.along t1).1, (s.along t1).2⟩ := by
  rw [clip_exact] at h
  split at h
  · next hkept =>
    refine ⟨_, _, hkept.2, fun t => ?_, (Option.some.inj h).symm⟩
    rw [inside_iff]
    exact ⟨fun ht => ht.2, fun ht => ⟨hkept.1, ht⟩⟩
  · cases h

/-- **Segments that are dropped.** They are those that are nowhere inside. -/
theorem clip_none {width height : ℚ} {s : Segment ℚ} (h : clip? width height s = none) (t : ℚ) :
    ¬ ((0 ≤ t ∧ t ≤ 1) ∧ Inside width height (s.along t)) := by
  rw [clip_exact] at h
  split at h
  · cases h
  · next hdropped =>
    rw [inside_iff]
    exact fun ht => hdropped ⟨ht.1, ht.2.1.trans ht.2.2⟩

end Raster

end Wireframe
