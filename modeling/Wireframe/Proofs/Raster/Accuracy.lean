import Wireframe.Proofs.Raster.Clip
import Wireframe.Proofs.Raster.Draw
import Wireframe.Proofs.Raster.Walk
import Mathlib.Tactic.Linarith

/-!
# `Wireframe.Proofs.Raster.Accuracy` — drawn lines follow their segments

Three approximations stand between a segment and its pixels: it is clipped, both ends are rounded, and
each step of the walk is rounded. In exact arithmetic clipping only shortens the segment. Rounding the
ends moves no point of it by more than half a pixel, because the points between the ends move no further
than the ends do; and the walk is nowhere further than half a pixel from the line it follows.

## Contents
- `Near`, `Close`: the distance of a pixel from a point, and of two points.
- `pixelOf`, `between`, `lerp_near`: rounding the ends.
- `pointAt_near`, `exists_along_close`: the walk and its line.
- `exists_point_near`, `exists_pixel_near`: a segment and the walk between the pixels of its ends.
- `InsideAt`, `line_accurate`: what is drawn of a segment.
-/

namespace Wireframe.Raster

open Document

/-- The distance of a pixel from a point along columns and along rows is bounded. -/
def Near (distance : ℚ) (p : Pixel) (v : ℚ × ℚ) : Prop :=
  |(p.x : ℚ) - v.1| ≤ distance ∧ |(p.y : ℚ) - v.2| ≤ distance

/-- The distance between two points is bounded in the same way. -/
def Close (distance : ℚ) (v w : ℚ × ℚ) : Prop := |v.1 - w.1| ≤ distance ∧ |v.2 - w.2| ≤ distance

theorem Near.trans {a b : ℚ} {p : Pixel} {v w : ℚ × ℚ} (h : Near a p v) (h' : Close b v w) :
    Near (a + b) p w :=
  ⟨(abs_sub_le _ _ _).trans (add_le_add h.1 h'.1), (abs_sub_le _ _ _).trans (add_le_add h.2 h'.2)⟩

/-! ## Rounding the ends -/

/-- The pixel that a point lies in. -/
def pixelOf (v : ℚ × ℚ) : Pixel := ⟨⌊v.1 + 1 / 2⌋, ⌊v.2 + 1 / 2⌋⟩

theorem floor_near (x : ℚ) : |((⌊x + 1 / 2⌋ : ℤ) : ℚ) - x| ≤ 1 / 2 := by
  have hlower := Int.floor_le (x + 1 / 2)
  have hupper := Int.lt_floor_add_one (x + 1 / 2)
  rw [abs_le]
  exact ⟨by linarith, by linarith⟩

/-- The segment between two pixels. -/
def between (p q : Pixel) : Segment ℚ := ⟨p.x, p.y, q.x, q.y⟩

/-- Between two numbers nothing moves further than they do. -/
theorem lerp_near {a b a' b' t d : ℚ} (h0 : 0 ≤ t) (h1 : t ≤ 1) (ha : |a - a'| ≤ d)
    (hb : |b - b'| ≤ d) : |a + t * (b - a) - (a' + t * (b' - a'))| ≤ d := by
  have hsplit : a + t * (b - a) - (a' + t * (b' - a')) = (1 - t) * (a - a') + t * (b - b') := by ring
  have hleft : |(1 - t) * (a - a')| ≤ (1 - t) * d := by
    rw [abs_mul, abs_of_nonneg (sub_nonneg.mpr h1)]
    exact mul_le_mul_of_nonneg_left ha (sub_nonneg.mpr h1)
  have hright : |t * (b - b')| ≤ t * d := by
    rw [abs_mul, abs_of_nonneg h0]
    exact mul_le_mul_of_nonneg_left hb h0
  calc |a + t * (b - a) - (a' + t * (b' - a'))|
      = |(1 - t) * (a - a') + t * (b - b')| := by rw [hsplit]
    _ ≤ |(1 - t) * (a - a')| + |t * (b - b')| := abs_add_le _ _
    _ ≤ (1 - t) * d + t * d := add_le_add hleft hright
    _ = d := by ring

/-! ## The walk and its line -/

theorem abs_sx (p q : Pixel) : |((Course.between p q).sx : ℚ)| = 1 := by
  rcases Course.sx_eq p q with h | h <;> simp [h]

theorem abs_sy (p q : Pixel) : |((Course.between p q).sy : ℚ)| = 1 := by
  rcases Course.sy_eq p q with h | h <;> simp [h]

theorem minor_near {a : ℕ} (ha : 0 < a) (b i : ℕ) : |(minor a b i : ℚ) - i / a * b| ≤ 1 / 2 := by
  obtain ⟨hlower, hupper⟩ := minor_bounds ha b i
  have hpos : (0 : ℚ) < a := by exact_mod_cast ha
  have hlower' : 2 * ((minor a b i : ℚ) * a) ≤ 2 * (i * b) + a := by exact_mod_cast hlower
  have hupper' : 2 * ((i : ℚ) * b) ≤ 2 * (minor a b i * a) + a := by exact_mod_cast hupper.le
  have hshare : (i : ℚ) / a * b = i * b / a := by ring
  rw [hshare, abs_le]
  constructor
  · have hle : (i : ℚ) * b / a ≤ minor a b i + 1 / 2 := by
      rw [div_le_iff₀ hpos]
      linarith
    linarith
  · have hle : (minor a b i : ℚ) - 1 / 2 ≤ i * b / a := by
      rw [le_div_iff₀ hpos]
      linarith
    linarith

/-- The steps along each direction are within half a step of their share of the way. -/
theorem strides_near {a b i : ℕ} (hi : i ≤ max a b) :
    |((strides a b i).1 : ℚ) - i / (max a b : ℕ) * a| ≤ 1 / 2 ∧
      |((strides a b i).2 : ℚ) - i / (max a b : ℕ) * b| ≤ 1 / 2 := by
  have hexact : ∀ n : ℕ, 0 < n → |(i : ℚ) - i / n * n| ≤ 1 / 2 := by
    intro n hn
    have hne : (n : ℚ) ≠ 0 := by exact_mod_cast hn.ne'
    rw [div_mul_cancel₀ _ hne, sub_self, abs_zero]
    norm_num
  -- along the longer direction the share is exact
  rcases Nat.lt_or_ge a b with hlt | hle
  · rw [max_eq_right hlt.le, strides_of_lt hlt]
    exact ⟨minor_near (by omega) a i, hexact b (by omega)⟩
  · rw [max_eq_left hle] at hi ⊢
    rcases Nat.eq_zero_or_pos a with hzero | hpos
    · obtain rfl : i = 0 := by omega
      rw [strides_zero]
      norm_num
    · rw [strides_of_le hle]
      exact ⟨hexact a hpos, minor_near hpos b i⟩

/-- Steps along one direction are as near to their share of the way as their number is. -/
theorem stride_near {n k : ℕ} {s start goal : ℤ} {u d : ℚ} (hway : (k : ℤ) * s = goal - start)
    (hunit : |(s : ℚ)| = 1) (h : |(n : ℚ) - u * k| ≤ d) :
    |((start + n * s : ℤ) : ℚ) - (start + u * (goal - start))| ≤ d := by
  have hway' : (k : ℚ) * s = goal - start := by exact_mod_cast hway
  have hdistance : ((start + n * s : ℤ) : ℚ) - (start + u * (goal - start)) = (n - u * k) * s := by
    rw [← hway']
    push_cast
    ring
  rwa [hdistance, abs_mul, hunit, mul_one]

/-- **The walk is within half a pixel of its line.** -/
theorem pointAt_near {p q : Pixel} {i : ℕ} (hi : i ≤ steps p q) :
    Near (1 / 2) (pointAt p q i) ((between p q).along (i / steps p q)) := by
  obtain ⟨hx, hy⟩ := strides_near hi
  exact ⟨stride_near (columns_mul_sx p q) (abs_sx p q) hx, stride_near (rows_mul_sy p q) (abs_sy p q) hy⟩

/-- The whole number of steps that is nearest to a share of the way. -/
theorem exists_step_near (n : ℕ) {u : ℚ} (h0 : 0 ≤ u) (h1 : u ≤ 1) :
    ∃ i ≤ n, |(i : ℚ) - u * n| ≤ 1 / 2 := by
  have hn : (0 : ℚ) ≤ n := Nat.cast_nonneg n
  have hway : 0 ≤ u * n + 1 / 2 := by positivity
  have hlower := Nat.floor_le hway
  have hupper := Nat.lt_floor_add_one (u * n + 1 / 2)
  have hmost : u * n ≤ n := mul_le_of_le_one_left hn h1
  refine ⟨⌊u * n + 1 / 2⌋₊, ?_, abs_le.mpr ⟨by linarith, by linarith⟩⟩
  have hlt : (⌊u * n + 1 / 2⌋₊ : ℚ) < n + 1 := by linarith
  exact Nat.lt_succ_iff.mp (by exact_mod_cast hlt)

/-- Half a step is at most half a pixel along each direction. -/
theorem share_near {n i : ℕ} {u start goal : ℚ} (hi : |(i : ℚ) - u * n| ≤ 1 / 2)
    (hway : |goal - start| ≤ n) :
    |start + i / n * (goal - start) - (start + u * (goal - start))| ≤ 1 / 2 := by
  rcases Nat.eq_zero_or_pos n with rfl | hpos
  · have hzero : goal - start = 0 := by
      rw [Nat.cast_zero] at hway
      exact abs_nonpos_iff.mp hway
    rw [hzero, mul_zero, mul_zero, sub_self, abs_zero]
    norm_num
  · have hn : (0 : ℚ) < n := by exact_mod_cast hpos
    have hdistance : start + i / n * (goal - start) - (start + u * (goal - start)) =
        (i - u * n) * ((goal - start) / n) := by
      field_simp
      ring
    have hunit : |(goal - start) / n| ≤ 1 := by
      rw [abs_div, abs_of_pos hn]
      exact (div_le_one hn).mpr hway
    rw [hdistance, abs_mul]
    calc |(i : ℚ) - u * n| * |(goal - start) / n| ≤ |(i : ℚ) - u * n| * 1 :=
          mul_le_mul_of_nonneg_left hunit (abs_nonneg _)
      _ ≤ 1 / 2 := by rw [mul_one]; exact hi

theorem abs_way_le (p q : Pixel) :
    |(q.x : ℚ) - p.x| ≤ steps p q ∧ |(q.y : ℚ) - p.y| ≤ steps p q := by
  have hx : (columns p q : ℚ) * (Course.between p q).sx = q.x - p.x := by
    exact_mod_cast columns_mul_sx p q
  have hy : (rows p q : ℚ) * (Course.between p q).sy = q.y - p.y := by exact_mod_cast rows_mul_sy p q
  rw [← hx, ← hy, abs_mul, abs_mul, abs_sx, abs_sy, Nat.abs_cast, Nat.abs_cast, mul_one, mul_one]
  exact ⟨by exact_mod_cast Nat.le_max_left _ _, by exact_mod_cast Nat.le_max_right _ _⟩

/-- A point of a line is within half a pixel of the point after the nearest number of steps. -/
theorem exists_along_close (p q : Pixel) {u : ℚ} (h0 : 0 ≤ u) (h1 : u ≤ 1) :
    ∃ i ≤ steps p q, Close (1 / 2) ((between p q).along (i / steps p q)) ((between p q).along u) := by
  obtain ⟨i, hi, hnear⟩ := exists_step_near (steps p q) h0 h1
  obtain ⟨hx, hy⟩ := abs_way_le p q
  exact ⟨i, hi, share_near hnear hx, share_near hnear hy⟩

/-! ## The pixels of a segment -/

/-- In exact arithmetic a segment visits the walk between the pixels of its ends. -/
theorem pixels_exact (r : Segment ℚ) :
    pixels r = .ok (walk (pixelOf (r.x0, r.y0)) (pixelOf (r.x1, r.y1))) := rfl

theorem mem_walk {p q z : Pixel} : z ∈ walk p q ↔ ∃ i ≤ steps p q, pointAt p q i = z := by
  rw [walk_eq, List.mem_map]
  simp only [List.mem_range, Nat.lt_succ_iff]

/-- The line between the pixels of the ends follows the segment at half a pixel. -/
theorem between_close (r : Segment ℚ) {u : ℚ} (h0 : 0 ≤ u) (h1 : u ≤ 1) :
    Close (1 / 2) ((between (pixelOf (r.x0, r.y0)) (pixelOf (r.x1, r.y1))).along u) (r.along u) :=
  ⟨lerp_near h0 h1 (floor_near r.x0) (floor_near r.x1),
    lerp_near h0 h1 (floor_near r.y0) (floor_near r.y1)⟩

/-- Every pixel that is visited is within a pixel of the segment. -/
theorem exists_point_near (r : Segment ℚ) {z : Pixel}
    (hz : z ∈ walk (pixelOf (r.x0, r.y0)) (pixelOf (r.x1, r.y1))) :
    ∃ u, (0 ≤ u ∧ u ≤ 1) ∧ Near 1 z (r.along u) := by
  obtain ⟨i, hi, rfl⟩ := mem_walk.mp hz
  have h0 : (0 : ℚ) ≤ i / steps (pixelOf (r.x0, r.y0)) (pixelOf (r.x1, r.y1)) := by positivity
  have h1 : (i : ℚ) / steps (pixelOf (r.x0, r.y0)) (pixelOf (r.x1, r.y1)) ≤ 1 :=
    div_le_one_of_le₀ (by exact_mod_cast hi) (Nat.cast_nonneg _)
  have hnear := (pointAt_near hi).trans (between_close r h0 h1)
  rw [add_halves] at hnear
  exact ⟨_, ⟨h0, h1⟩, hnear⟩

/-- Every point of the segment is within one and a half pixels of one that is visited. -/
theorem exists_pixel_near (r : Segment ℚ) {u : ℚ} (h0 : 0 ≤ u) (h1 : u ≤ 1) :
    ∃ z ∈ walk (pixelOf (r.x0, r.y0)) (pixelOf (r.x1, r.y1)), Near (3 / 2) z (r.along u) := by
  obtain ⟨i, hi, hstep⟩ := exists_along_close (pixelOf (r.x0, r.y0)) (pixelOf (r.x1, r.y1)) h0 h1
  -- half a pixel each for the step of the walk, the nearest number of steps, and the ends
  have hnear := ((pointAt_near hi).trans hstep).trans (between_close r h0 h1)
  rw [show (1 / 2 + 1 / 2 + 1 / 2 : ℚ) = 3 / 2 by norm_num] at hnear
  exact ⟨_, mem_walk.mpr ⟨i, hi, rfl⟩, hnear⟩

/-! ## One segment -/

/-- The points of a segment that are inside a picture, by their parameters. -/
def InsideAt (s : Segment ℚ) (screen : Screen) (t : ℚ) : Prop :=
  (0 ≤ t ∧ t ≤ 1) ∧ Inside screen.width screen.height (s.along t)

theorem visits_none {s : Segment ℚ} {screen : Screen}
    (h : clip? (screen.width : ℚ) screen.height s = none) : visits [s] screen = .ok [] := by
  have hdropped : clipAll (Scalar.ofInt (α := ℚ) screen.width) (Scalar.ofInt screen.height) [s] = [] :=
    List.filterMap_cons_none h
  rw [visits, hdropped]
  rfl

theorem visits_some {s r : Segment ℚ} {screen : Screen}
    (h : clip? (screen.width : ℚ) screen.height s = some r) :
    visits [s] screen = .ok [walk (pixelOf (r.x0, r.y0)) (pixelOf (r.x1, r.y1))] := by
  have hkept : clipAll (Scalar.ofInt (α := ℚ) screen.width) (Scalar.ofInt screen.height) [s] = [r] :=
    List.filterMap_cons_some h
  rw [visits, hkept, List.mapM_cons, pixels_exact]
  rfl

/-- The part of a segment between two parameters, by its own parameter. -/
theorem along_part (s : Segment ℚ) (t0 t1 u : ℚ) :
    (Segment.mk (s.along t0).1 (s.along t0).2 (s.along t1).1 (s.along t1).2).along u =
      s.along (t0 + u * (t1 - t0)) := by
  refine Prod.ext ?_ ?_
  · simp only [Segment.along]
    ring
  · simp only [Segment.along]
    ring

/-- A number of an interval by its share of the way. -/
theorem exists_share {t0 t1 t : ℚ} (h0 : t0 ≤ t) (h1 : t ≤ t1) :
    ∃ u, (0 ≤ u ∧ u ≤ 1) ∧ t0 + u * (t1 - t0) = t := by
  rcases h0.trans h1 |>.eq_or_lt with heq | hlt
  · exact ⟨0, ⟨le_rfl, zero_le_one⟩, by linarith⟩
  · have hpos : 0 < t1 - t0 := sub_pos.mpr hlt
    refine ⟨(t - t0) / (t1 - t0), ⟨div_nonneg (sub_nonneg.mpr h0) hpos.le, ?_⟩, ?_⟩
    · exact (div_le_one hpos).mpr (by linarith)
    · rw [div_mul_cancel₀ _ hpos.ne']
      ring

/-- A share of the way stays in the interval. -/
theorem share_mem {t0 t1 u : ℚ} (hle : t0 ≤ t1) (h0 : 0 ≤ u) (h1 : u ≤ 1) :
    t0 ≤ t0 + u * (t1 - t0) ∧ t0 + u * (t1 - t0) ≤ t1 := by
  have hway : 0 ≤ t1 - t0 := sub_nonneg.mpr hle
  have hlower : 0 ≤ u * (t1 - t0) := mul_nonneg h0 hway
  have hupper : u * (t1 - t0) ≤ t1 - t0 := mul_le_of_le_one_left hway h1
  exact ⟨by linarith, by linarith⟩

/-- What is visited of a segment is within a pixel of its points inside the picture. -/
theorem visited_near {s : Segment ℚ} {screen : Screen} {ps : List (List Pixel)}
    (h : visits [s] screen = .ok ps) {z : Pixel} (hz : z ∈ ps.flatten) :
    ∃ t, InsideAt s screen t ∧ Near 1 z (s.along t) := by
  cases hclip : clip? (screen.width : ℚ) screen.height s with
  | none =>
    rw [visits_none hclip] at h
    cases h
    cases hz
  | some r =>
    rw [visits_some hclip] at h
    cases h
    obtain ⟨t0, t1, hle, hinside, rfl⟩ := clip_some hclip
    rw [List.flatten_singleton] at hz
    obtain ⟨u, ⟨h0, h1⟩, hnear⟩ := exists_point_near _ hz
    rw [along_part] at hnear
    exact ⟨_, (hinside _).mpr (share_mem hle h0 h1), hnear⟩

/-- The points of a segment inside the picture are within one and a half pixels of what is visited. -/
theorem inside_near {s : Segment ℚ} {screen : Screen} {ps : List (List Pixel)}
    (h : visits [s] screen = .ok ps) {t : ℚ} (ht : InsideAt s screen t) :
    ∃ z ∈ ps.flatten, Near (3 / 2) z (s.along t) := by
  cases hclip : clip? (screen.width : ℚ) screen.height s with
  | none => exact absurd ht (clip_none hclip t)
  | some r =>
    rw [visits_some hclip] at h
    cases h
    obtain ⟨t0, t1, hle, hinside, rfl⟩ := clip_some hclip
    obtain ⟨h0, h1⟩ := (hinside t).mp ht
    obtain ⟨u, ⟨hu0, hu1⟩, rfl⟩ := exists_share h0 h1
    rw [List.flatten_singleton, ← along_part]
    exact exists_pixel_near _ hu0 hu1

theorem visits_defined (s : Segment ℚ) (screen : Screen) : ∃ ps, visits [s] screen = .ok ps := by
  cases hclip : clip? (screen.width : ℚ) screen.height s with
  | none => exact ⟨_, visits_none hclip⟩
  | some r => exact ⟨_, visits_some hclip⟩

/-- **Drawn lines follow their segments.** Every segment is drawn, in any colour that can be shown. What is
    visited is within a pixel of a point of the segment inside the picture; every such point is within one
    and a half pixels of what is visited; a segment without such points visits nothing. -/
theorem line_accurate (s : Segment ℚ) (screen : Screen) :
    ∃ ps, visits [s] screen = .ok ps ∧
      (∀ v c, Rgb.showable v = .ok c →
        drawSegments [s] v screen = .ok (ps.foldl (paintAll c) (screen, 0))) ∧
      (∀ z ∈ ps.flatten, ∃ t, InsideAt s screen t ∧ Near 1 z (s.along t)) ∧
      (∀ t, InsideAt s screen t → ∃ z ∈ ps.flatten, Near (3 / 2) z (s.along t)) ∧
      ((∀ t, ¬ InsideAt s screen t) → ps.flatten = []) := by
  obtain ⟨ps, hvisits⟩ := visits_defined s screen
  refine ⟨ps, hvisits, fun v c hcolor => ?_, fun z => visited_near hvisits,
    fun t => inside_near hvisits, fun hmisses => ?_⟩
  · rw [drawSegments_of_showable hcolor, drawIn, hvisits]
    rfl
  · refine List.eq_nil_iff_forall_not_mem.mpr fun z hz => ?_
    obtain ⟨t, ht, -⟩ := visited_near hvisits hz
    exact hmisses t ht

end Wireframe.Raster
