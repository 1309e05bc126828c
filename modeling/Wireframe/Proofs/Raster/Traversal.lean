import Wireframe.Proofs.Raster.Accuracy
import Mathlib.Data.List.Nodup
import Mathlib.Data.List.Range

/-!
# `Wireframe.Proofs.Raster.Traversal` — a walk from its start to its goal

The walk of the program is given as many steps as it can need. Here it is set beside the loop that has no
such bound and ends only when it has arrived: that one ends as well, and visits the same pixels. Along the
longer direction it moves on by one pixel at each step; along the shorter one it moves or waits, and is never
further than half a pixel from the line.

The compiled loop makes the same steps as long as no result leaves 64 bits. The largest is twice the
deviation, which is at most three times the longer distance. Further apart the loop need not end.

## Contents
- `Course.WalksIn`, `WalksIn.unique`, `walksIn_iff`: loops without a bound.
- `Tracks`: steps along the shorter direction that keep to the line; `minor_tracks`.
- `Adjacent`, `pointAt_adjacent`: from one pixel to the next.
- `Boxed`, `pointAt_boxed`: between the ends.
- `Fits`, `deviation_bounds`, `stepIn_wrap`: the steps in 64 bits.
- `Beside`, `pointAt_beside`: beside the line.
- `walks_iff`, `walksIn_wrap_iff`: the pixels that either loop visits.
- `walk_wide`, `walk_high`: each of these pixels.
- `walk_traversal`: all of it; `wide_walk_endless`: ends too far apart.
-/

namespace Wireframe.Raster

/-! ## Loops without a bound -/

/-- The pixels that a loop visits from a walker on, where `fit` keeps each result. It ends when it is at
    its goal, and goes on otherwise. -/
inductive Course.WalksIn (fit : Int → Int) (c : Course) : Walker → List Pixel → Prop
  | arrived {w : Walker} (h : w.here = c.goal) : c.WalksIn fit w [w.here]
  | onward {w : Walker} {ps : List Pixel} (h : w.here ≠ c.goal) (rest : c.WalksIn fit (c.stepIn fit w) ps) :
    c.WalksIn fit w (w.here :: ps)

/-- The pixels that the plain loop visits. -/
abbrev Course.Walks (c : Course) : Walker → List Pixel → Prop := c.WalksIn id

/-- Every step is determined, and so is the walk. -/
theorem Course.WalksIn.unique {fit : Int → Int} {c : Course} {w : Walker} {ps qs : List Pixel}
    (h : c.WalksIn fit w ps) (h' : c.WalksIn fit w qs) : ps = qs := by
  induction h generalizing qs with
  | arrived hgoal =>
    cases h' with
    | arrived => rfl
    | onward hne => exact absurd hgoal hne
  | onward hne _ ih =>
    cases h' with
    | arrived hgoal => exact absurd hgoal hne
    | onward _ hrest => rw [ih hrest]

/-- A loop that stands still away from its goal has no end. -/
theorem Course.WalksIn.moves {fit : Int → Int} {c : Course} {w : Walker} {ps : List Pixel}
    (h : c.WalksIn fit w ps) (haway : w.here ≠ c.goal) : c.stepIn fit w ≠ w := by
  induction h with
  | arrived hgoal => exact absurd hgoal haway
  | onward _ _ ih =>
    intro hstill
    rw [hstill] at ih
    exact ih haway hstill

/-- The rest of a walk, for a loop that makes its steps. -/
theorem walksIn_rest {fit : Int → Int} {c : Course} {p q : Pixel} (hgoal : c.goal = q)
    (hstep : ∀ i < steps p q, c.stepIn fit (walkerAt p q i) = walkerAt p q (i + 1)) {i n : Nat}
    (h : i + n = steps p q) :
    c.WalksIn fit (walkerAt p q i) ((List.range' i (n + 1)).map (pointAt p q)) := by
  induction n generalizing i with
  | zero =>
    have harrived : (walkerAt p q i).here = c.goal := by
      rw [hgoal, walkerAt, show i = steps p q by omega, pointAt_last]
    exact .arrived harrived
  | succ n ih =>
    have hi : i < steps p q := by omega
    have haway : (walkerAt p q i).here ≠ c.goal := by
      rw [hgoal]
      exact pointAt_ne_goal hi
    rw [List.range'_succ, List.map_cons]
    refine .onward haway ?_
    rw [hstep i hi]
    exact ih (by omega)

/-- A loop that makes the steps of a walk ends, and visits the pixels of the walk. -/
theorem walksIn_iff {fit : Int → Int} {c : Course} {p q : Pixel} (hgoal : c.goal = q)
    (hstep : ∀ i < steps p q, c.stepIn fit (walkerAt p q i) = walkerAt p q (i + 1)) (ps : List Pixel) :
    c.WalksIn fit (walkerAt p q 0) ps ↔ ps = walk p q := by
  have hwalk : c.WalksIn fit (walkerAt p q 0) (walk p q) := by
    rw [walk_eq, List.range_eq_range']
    exact walksIn_rest hgoal hstep (Nat.zero_add _)
  constructor
  · intro h
    exact h.unique hwalk
  · rintro rfl
    exact hwalk

/-! ## Along the shorter direction -/

/-- Numbers of steps along the shorter direction, of length `b`, after each number of steps along the
    longer one, of length `a`: they keep to the line, and each is the one before or the next. -/
structure Tracks (a b : Nat) (j : Nat → Nat) : Prop where
  bounded : ∀ i ≤ a, j i ≤ b
  near : ∀ i ≤ a, |2 * ((a : Int) * j i - b * i)| ≤ a
  paced : ∀ i < a, j i ≤ j (i + 1) ∧ j (i + 1) ≤ j i + 1

theorem minor_tracks {a b : Nat} (h : b ≤ a) : Tracks a b (minor a b) where
  bounded i hi := by
    rcases Nat.eq_zero_or_pos a with rfl | ha
    · obtain rfl : i = 0 := by omega
      rw [minor_zero]
      exact Nat.zero_le _
    · calc minor a b i ≤ minor a b a :=
            Nat.div_le_div_right (Nat.add_le_add_right (Nat.mul_le_mul_left 2 (Nat.mul_le_mul_right b hi)) a)
        _ = b := minor_last ha b
  near i hi := by
    rcases Nat.eq_zero_or_pos a with rfl | ha
    · obtain rfl : i = 0 := by omega
      simp
    · obtain ⟨hlower, hupper⟩ := minor_bounds ha b i
      have hlower' : 2 * ((a : Int) * minor a b i) ≤ 2 * (b * i) + a := by
        rw [mul_comm (a : Int), mul_comm (b : Int)]
        exact_mod_cast hlower
      have hupper' : 2 * ((b : Int) * i) < 2 * (a * minor a b i) + a := by
        rw [mul_comm (a : Int), mul_comm (b : Int)]
        exact_mod_cast hupper
      rw [abs_le]
      exact ⟨by linarith, by linarith⟩
  paced i hi := by
    rw [minor_succ (by omega) h]
    split <;> omega

theorem strides_bounded {a b i : Nat} (hi : i ≤ max a b) :
    (strides a b i).1 ≤ a ∧ (strides a b i).2 ≤ b := by
  rcases Nat.lt_or_ge a b with hlt | hle
  · rw [max_eq_right hlt.le] at hi
    rw [strides_of_lt hlt]
    exact ⟨(minor_tracks hlt.le).bounded i hi, hi⟩
  · rw [max_eq_left hle] at hi
    rw [strides_of_le hle]
    exact ⟨hi, (minor_tracks hle).bounded i hi⟩

/-! ## From one pixel to the next -/

/-- Two different pixels that share a side or a corner. -/
def Adjacent (z z' : Pixel) : Prop := z ≠ z' ∧ |z'.x - z.x| ≤ 1 ∧ |z'.y - z.y| ≤ 1

theorem moves_le (a b i : Nat) : (moves a b i).1 ≤ 1 ∧ (moves a b i).2 ≤ 1 := by
  simp only [moves]
  constructor <;> split <;> decide

/-- A step of at most one pixel in a direction. -/
theorem abs_stride_sub {start s : Int} {n m : Nat} (hs : s = 1 ∨ s = -1) (hm : m ≤ 1) :
    |start + (n + m : Nat) * s - (start + n * s)| ≤ 1 := by
  have hmove : start + (n + m : Nat) * s - (start + n * s) = m * s := by
    push_cast
    ring
  rw [hmove, abs_le]
  rcases hs with rfl | rfl <;> omega

theorem pointAt_adjacent {p q : Pixel} {i : Nat} (hi : i < steps p q) :
    Adjacent (pointAt p q i) (pointAt p q (i + 1)) := by
  constructor
  · intro hsame
    have hindex := pointAt_injective hsame
    omega
  · obtain ⟨hx, hy⟩ := moves_le (columns p q) (rows p q) i
    simp only [pointAt, strides_succ hi]
    exact ⟨abs_stride_sub (Course.sx_eq p q) hx, abs_stride_sub (Course.sy_eq p q) hy⟩

/-! ## Between the ends -/

/-- A pixel in the smallest rectangle around two others. -/
def Boxed (p q z : Pixel) : Prop :=
  (min p.x q.x ≤ z.x ∧ z.x ≤ max p.x q.x) ∧ min p.y q.y ≤ z.y ∧ z.y ≤ max p.y q.y

theorem stride_boxed {start goal : Int} {n : Nat} (hn : n ≤ (goal - start).natAbs) :
    min start goal ≤ start + n * (if start < goal then 1 else -1) ∧
      start + n * (if start < goal then 1 else -1) ≤ max start goal := by
  split <;> omega

theorem pointAt_boxed {p q : Pixel} {i : Nat} (hi : i ≤ steps p q) : Boxed p q (pointAt p q i) := by
  obtain ⟨hx, hy⟩ := strides_bounded hi
  exact ⟨stride_boxed hx, stride_boxed hy⟩

/-! ## In 64 bits -/

/-- Both coordinates of a pixel are numbers of 64 bits. -/
def Fits (z : Pixel) : Prop := (-2 ^ 63 ≤ z.x ∧ z.x < 2 ^ 63) ∧ -2 ^ 63 ≤ z.y ∧ z.y < 2 ^ 63
  deriving Decidable

theorem wrap_of_fits {n : Int} (hlower : -2 ^ 63 ≤ n) (hupper : n < 2 ^ 63) : wrap n = n :=
  Int.bmod_eq_of_le_mul_two (by omega) (by omega)

theorem Boxed.fits {p q z : Pixel} (h : Boxed p q z) (hp : Fits p) (hq : Fits q) : Fits z := by
  obtain ⟨⟨hleft, hright⟩, hlow, hhigh⟩ := h
  simp only [Fits] at *
  omega

/-- Twice the deviation is at most three times the longer distance: once for the line, which is half a
    pixel away, and twice for the step ahead. -/
theorem deviation_bounds {a b i : Nat} (hi : i ≤ max a b) :
    -(3 * (max a b : Nat) : Int) ≤ 2 * deviation a b i ∧ 2 * deviation a b i ≤ 3 * (max a b : Nat) := by
  rcases Nat.lt_or_ge a b with hlt | hle
  · rw [max_eq_right hlt.le] at hi ⊢
    obtain ⟨hlower, hupper⟩ := abs_le.mp ((minor_tracks hlt.le).near i hi)
    have hdeviation : 2 * deviation a b i = 2 * (a - b) - 2 * ((b : Int) * minor b a i - a * i) := by
      rw [deviation, strides_of_lt hlt]
      ring
    omega
  · rw [max_eq_left hle] at hi ⊢
    obtain ⟨hlower, hupper⟩ := abs_le.mp ((minor_tracks hle).near i hi)
    have hdeviation : 2 * deviation a b i = 2 * (a - b) + 2 * ((a : Int) * minor a b i - b * i) := by
      rw [deviation, strides_of_le hle]
      ring
    omega

theorem walkerAt_err_bounds {p q : Pixel} {i : Nat} (hi : i ≤ steps p q) :
    -(3 * steps p q : Int) ≤ 2 * (walkerAt p q i).err ∧ 2 * (walkerAt p q i).err ≤ 3 * steps p q :=
  deviation_bounds hi

theorem Course.betweenIn_wrap {p q : Pixel} (hrange : 3 * steps p q < 2 ^ 63) :
    Course.betweenIn wrap p q = Course.between p q := by
  have hcolumns : columns p q ≤ steps p q := le_max_left _ _
  have hrows : rows p q ≤ steps p q := le_max_right _ _
  have hdx : wrap (columns p q) = columns p q := wrap_of_fits (by omega) (by omega)
  have hdy : wrap (rows p q) = rows p q := wrap_of_fits (by omega) (by omega)
  have hdy' : wrap (-rows p q) = -rows p q := wrap_of_fits (by omega) (by omega)
  simp only [columns, rows] at hcolumns hrows hdx hdy hdy'
  have hx : wrap (q.x - p.x) = q.x - p.x := wrap_of_fits (by omega) (by omega)
  have hy : wrap (q.y - p.y) = q.y - p.y := wrap_of_fits (by omega) (by omega)
  simp only [Course.between, Course.betweenIn, hx, hy, hdx, hdy, hdy', id]

theorem startIn_wrap {p q : Pixel} (hrange : 3 * steps p q < 2 ^ 63) :
    Walker.startIn wrap p q = walkerAt p q 0 := by
  have hbounds := walkerAt_err_bounds (Nat.zero_le (steps p q))
  simp only [walkerAt_zero] at hbounds
  rw [Walker.startIn, Course.betweenIn_wrap hrange, wrap_of_fits (by omega) (by omega), walkerAt_zero]

/-- A step whose results are kept as they are is the plain one. -/
theorem Course.stepIn_of_kept {fit : Int → Int} {c : Course} {w : Walker}
    (hdouble : fit (2 * w.err) = 2 * w.err) (hdy : fit (w.err + c.dy) = w.err + c.dy)
    (hdx : fit (w.err + c.dx) = w.err + c.dx) (hx : fit (c.step w).here.x = (c.step w).here.x)
    (hy : fit (c.step w).here.y = (c.step w).here.y) (herr : fit (c.step w).err = (c.step w).err) :
    c.stepIn fit w = c.step w := by
  rw [Course.step_eq] at hx hy herr
  by_cases hcolumn : c.dy ≤ 2 * w.err
  · by_cases hrow : 2 * w.err ≤ c.dx
    · simp only [hcolumn, hrow, if_true, one_mul] at hx hy herr
      simp only [Course.step, Course.stepIn, id, ge_iff_le, hdouble, hcolumn, hrow, if_true, hx, hy, hdy,
        herr]
    · simp only [hcolumn, if_true, one_mul] at hx
      simp only [Course.step, Course.stepIn, id, ge_iff_le, hdouble, hcolumn, hrow, if_true, if_false, hx,
        hdy]
  · by_cases hrow : 2 * w.err ≤ c.dx
    · simp only [hrow, if_true, one_mul] at hy
      simp only [Course.step, Course.stepIn, id, ge_iff_le, hdouble, hcolumn, hrow, if_true, if_false, hy,
        hdx]
    · simp only [Course.step, Course.stepIn, id, ge_iff_le, hdouble, hcolumn, hrow, if_false]

theorem stepIn_wrap {p q : Pixel} (hp : Fits p) (hq : Fits q) (hrange : 3 * steps p q < 2 ^ 63) {i : Nat}
    (hi : i < steps p q) :
    (Course.betweenIn wrap p q).stepIn wrap (walkerAt p q i) = walkerAt p q (i + 1) := by
  have hi' : i + 1 ≤ steps p q := hi
  have hfits := (pointAt_boxed hi').fits hp hq
  have hnow := walkerAt_err_bounds hi.le
  have hnext := walkerAt_err_bounds hi'
  have hdx : (Course.between p q).dx = columns p q := rfl
  have hdy : (Course.between p q).dy = -rows p q := rfl
  have hcolumns : columns p q ≤ steps p q := le_max_left _ _
  have hrows : rows p q ≤ steps p q := le_max_right _ _
  have hstep := step_walkerAt hi
  rw [Course.betweenIn_wrap hrange, ← hstep]
  apply Course.stepIn_of_kept
  · exact wrap_of_fits (by omega) (by omega)
  · exact wrap_of_fits (by omega) (by omega)
  · exact wrap_of_fits (by omega) (by omega)
  · rw [hstep]
    exact wrap_of_fits hfits.1.1 hfits.1.2
  · rw [hstep]
    exact wrap_of_fits hfits.2.1 hfits.2.2
  · rw [hstep]
    exact wrap_of_fits (by omega) (by omega)

/-! ## Beside the line -/

/-- A pixel is at most half a pixel above or below a point of a segment, or at most half a pixel to its
    left or right, as the segment is wide or high. -/
def Beside (p q z : Pixel) : Prop :=
  ∃ u : ℚ, (0 ≤ u ∧ u ≤ 1) ∧
    if rows p q ≤ columns p q then
      ((between p q).along u).1 = z.x ∧ |(z.y : ℚ) - ((between p q).along u).2| ≤ 1 / 2
    else ((between p q).along u).2 = z.y ∧ |(z.x : ℚ) - ((between p q).along u).1| ≤ 1 / 2

/-- Along the longer direction the share of the way is exact. -/
theorem stride_exact {n k : ℕ} {s start goal : ℤ} (hway : (k : ℤ) * s = goal - start) (hn : n ≤ k) :
    (start : ℚ) + n / k * (goal - start) = (start + n * s : ℤ) := by
  have hway' : (goal : ℚ) - start = k * s := by exact_mod_cast hway.symm
  rw [hway']
  push_cast
  rcases Nat.eq_zero_or_pos k with rfl | hk
  · obtain rfl : n = 0 := by omega
    simp
  · have hne : (k : ℚ) ≠ 0 := by exact_mod_cast hk.ne'
    rw [← mul_assoc, div_mul_cancel₀ _ hne]

theorem pointAt_beside {p q : Pixel} {i : Nat} (hi : i ≤ steps p q) : Beside p q (pointAt p q i) := by
  obtain ⟨hx, hy⟩ := pointAt_near hi
  have h0 : (0 : ℚ) ≤ i / steps p q := by positivity
  have h1 : (i : ℚ) / steps p q ≤ 1 :=
    div_le_one_of_le₀ (by exact_mod_cast hi) (Nat.cast_nonneg _)
  refine ⟨_, ⟨h0, h1⟩, ?_⟩
  split
  · next hle =>
    have hsteps : steps p q = columns p q := max_eq_left hle
    refine ⟨?_, hy⟩
    rw [hsteps] at hi ⊢
    rw [pointAt, strides_of_le hle]
    exact stride_exact (columns_mul_sx p q) hi
  · next hlt =>
    have hsteps : steps p q = rows p q := max_eq_right (by omega)
    refine ⟨?_, hx⟩
    rw [hsteps] at hi ⊢
    rw [pointAt, strides_of_lt (by omega)]
    exact stride_exact (rows_mul_sy p q) hi

/-! ## The whole walk -/

theorem walk_getElem? {p q : Pixel} {i : Nat} (hi : i ≤ steps p q) :
    (walk p q)[i]? = some (pointAt p q i) := by
  rw [walk_eq, List.getElem?_map, List.getElem?_range (by omega)]
  rfl

theorem forall_mem_walk {p q : Pixel} {P : Pixel → Prop} (h : ∀ i ≤ steps p q, P (pointAt p q i)) :
    ∀ z ∈ walk p q, P z := by
  intro z hz
  obtain ⟨i, hi, rfl⟩ := mem_walk.mp hz
  exact h i hi

theorem walk_isChain (p q : Pixel) : (walk p q).IsChain Adjacent := by
  rw [walk_eq, List.isChain_map, List.isChain_range_succ]
  intro i hi
  exact pointAt_adjacent hi

theorem walk_nodup (p q : Pixel) : (walk p q).Nodup := by
  rw [walk_eq]
  apply List.Nodup.map _ List.nodup_range
  intro i j h
  exact pointAt_injective h

theorem walk_length (p q : Pixel) : (walk p q).length = steps p q + 1 := by
  rw [walk_eq, List.length_map, List.length_range]

theorem walk_head? (p q : Pixel) : (walk p q).head? = some p := by
  rw [List.head?_eq_getElem?, walk_getElem? (Nat.zero_le _), pointAt_zero]

theorem walk_getLast? (p q : Pixel) : (walk p q).getLast? = some q := by
  rw [List.getLast?_eq_getElem?, walk_length, Nat.add_sub_cancel, walk_getElem? (Nat.le_refl _),
    pointAt_last]

/-- The plain loop ends, and visits the pixels of the walk. -/
theorem walks_iff (p q : Pixel) (ps : List Pixel) :
    (Course.between p q).Walks ⟨p, (Course.between p q).dx + (Course.between p q).dy⟩ ps ↔
      ps = walk p q := by
  rw [← walkerAt_zero]
  exact walksIn_iff rfl (fun i hi => step_walkerAt hi) ps

/-- So does the compiled one, in its range. -/
theorem walksIn_wrap_iff {p q : Pixel} (hp : Fits p) (hq : Fits q) (hrange : 3 * steps p q < 2 ^ 63)
    (ps : List Pixel) :
    (Course.betweenIn wrap p q).WalksIn wrap (.startIn wrap p q) ps ↔ ps = walk p q := by
  rw [startIn_wrap hrange]
  exact walksIn_iff rfl (fun i hi => stepIn_wrap hp hq hrange hi) ps

/-- The pixels of a walk that is wider than high. -/
theorem walk_wide {p q : Pixel} (hle : rows p q ≤ columns p q) {i : Nat} (hi : i ≤ columns p q) :
    (walk p q)[i]? = some ⟨p.x + i * (Course.between p q).sx,
      p.y + minor (columns p q) (rows p q) i * (Course.between p q).sy⟩ := by
  have hsteps : i ≤ steps p q := hi.trans (le_max_left _ _)
  rw [walk_getElem? hsteps, pointAt, strides_of_le hle]

/-- The pixels of a walk that is higher than wide. -/
theorem walk_high {p q : Pixel} (hlt : columns p q < rows p q) {i : Nat} (hi : i ≤ rows p q) :
    (walk p q)[i]? = some ⟨p.x + minor (rows p q) (columns p q) i * (Course.between p q).sx,
      p.y + i * (Course.between p q).sy⟩ := by
  have hsteps : i ≤ steps p q := hi.trans (le_max_right _ _)
  rw [walk_getElem? hsteps, pointAt, strides_of_lt hlt]

/-- **A walk from its start to its goal.** The plain loop ends and visits the pixels of the walk, and so does
    the compiled one between ends of 64 bits, as long as three times the longer distance is of 64 bits too.
    The walk takes one step for each pixel of the longer distance, from the start to the goal, and is nowhere
    twice. Along the longer direction it moves on at every step, and along the shorter one it keeps to the
    line. So each pixel is next to the one before, between the ends, and beside the line. -/
theorem walk_traversal (p q : Pixel) :
    (∀ ps, (Course.between p q).Walks ⟨p, (Course.between p q).dx + (Course.between p q).dy⟩ ps ↔
      ps = walk p q) ∧
    (Fits p → Fits q → 3 * max (columns p q) (rows p q) < 2 ^ 63 → ∀ ps,
      (Course.betweenIn wrap p q).WalksIn wrap (.startIn wrap p q) ps ↔ ps = walk p q) ∧
    (walk p q).length = max (columns p q) (rows p q) + 1 ∧
    (walk p q).head? = some p ∧ (walk p q).getLast? = some q ∧ (walk p q).Nodup ∧
    (rows p q ≤ columns p q → ∃ j, Tracks (columns p q) (rows p q) j ∧ ∀ i ≤ columns p q,
      (walk p q)[i]? =
        some ⟨p.x + i * (Course.between p q).sx, p.y + j i * (Course.between p q).sy⟩) ∧
    (columns p q < rows p q → ∃ j, Tracks (rows p q) (columns p q) j ∧ ∀ i ≤ rows p q,
      (walk p q)[i]? =
        some ⟨p.x + j i * (Course.between p q).sx, p.y + i * (Course.between p q).sy⟩) ∧
    (walk p q).IsChain Adjacent ∧ (∀ z ∈ walk p q, Boxed p q z) ∧ ∀ z ∈ walk p q, Beside p q z := by
  refine ⟨walks_iff p q, walksIn_wrap_iff, walk_length p q, walk_head? p q, walk_getLast? p q, walk_nodup p q,
    ?wide, ?high, walk_isChain p q, ?boxed, ?beside⟩
  case wide =>
    intro hle
    exact ⟨minor (columns p q) (rows p q), minor_tracks hle, fun i hi => walk_wide hle hi⟩
  case high =>
    intro hlt
    exact ⟨minor (rows p q) (columns p q), minor_tracks hlt.le, fun i hi => walk_high hlt hi⟩
  case boxed =>
    apply forall_mem_walk
    intro i hi
    exact pointAt_boxed hi
  case beside =>
    apply forall_mem_walk
    intro i hi
    exact pointAt_beside hi

/-- To the left and up, in 64 bits: the half step between the second and the third column goes up. -/
theorem walk_traversal_leftward :
    (Course.betweenIn wrap ⟨0, 0⟩ ⟨-4, 2⟩).WalksIn wrap (.startIn wrap ⟨0, 0⟩ ⟨-4, 2⟩)
      [⟨0, 0⟩, ⟨-1, 1⟩, ⟨-2, 1⟩, ⟨-3, 2⟩, ⟨-4, 2⟩] := by
  obtain ⟨-, hcompiled, -⟩ := walk_traversal ⟨0, 0⟩ ⟨-4, 2⟩
  exact (hcompiled (by decide) (by decide) (by decide) _).mpr (by decide)

/-- **Too far in 64 bits.** Between two ends that are `2 ^ 63` columns apart, the distance comes out negative.
    Neither direction is taken, so the compiled loop stands at its start and never ends. -/
theorem wide_walk_endless :
    ¬ ∃ ps, (Course.betweenIn wrap ⟨-2 ^ 62, 0⟩ ⟨2 ^ 62, 5⟩).WalksIn wrap
      (.startIn wrap ⟨-2 ^ 62, 0⟩ ⟨2 ^ 62, 5⟩) ps := by
  rintro ⟨ps, h⟩
  exact h.moves (by decide) (by decide)

end Wireframe.Raster
