import Wireframe.Proofs.Raster.Traversal

/-!
# `Wireframe.Proofs.Raster.Clipped` — what clipping keeps

In exact arithmetic clipping keeps the segments that meet the rectangle of a picture, and of each the
points that it shares with the rectangle, from the first to the last. So the ends of what is kept round to
pixels on the picture or just beyond its last row and column, and a walk between them is no longer than
the picture, however long the segment was. Between them the compiled loop has room in 64 bits.

## Contents
- `Segment.Passes`, `Meets`: the points of a segment, and whether one is inside.
- `clip_isSome`: which segments are kept.
- `IsPart`, `clip_isPart`: what is kept of a segment.
- `Fitting`, `pixelOf_fitting`: rounded ends; `walksIn_wrap_of_fitting`: the compiled loop between them.
- `clipping_exact`: all of it, for lists of segments.
-/

namespace Wireframe

/-- A point of a segment. -/
def Segment.Passes (s : Segment ℚ) (v : ℚ × ℚ) : Prop := ∃ t, (0 ≤ t ∧ t ≤ 1) ∧ s.along t = v

theorem Segment.along_zero (s : Segment ℚ) : s.along 0 = (s.x0, s.y0) := by
  simp only [Segment.along, zero_mul, add_zero]

theorem Segment.along_one (s : Segment ℚ) : s.along 1 = (s.x1, s.y1) := by
  simp only [Segment.along, one_mul, add_sub_cancel]

theorem Segment.passes_start (s : Segment ℚ) : s.Passes (s.x0, s.y0) :=
  ⟨0, ⟨le_rfl, zero_le_one⟩, s.along_zero⟩

theorem Segment.passes_stop (s : Segment ℚ) : s.Passes (s.x1, s.y1) :=
  ⟨1, ⟨zero_le_one, le_rfl⟩, s.along_one⟩

namespace Raster

variable {width height : ℚ} {s r : Segment ℚ}

/-! ## Which segments are kept -/

/-- Some point of the segment is in the rectangle. -/
def Meets (width height : ℚ) (s : Segment ℚ) : Prop := ∃ v, s.Passes v ∧ Inside width height v

theorem clip_isSome : (clip? width height s).isSome = true ↔ Meets width height s := by
  cases h : clip? width height s with
  | none =>
    constructor
    · intro hkept
      cases hkept
    · rintro ⟨v, ⟨t, ht, rfl⟩, hinside⟩
      exact absurd ⟨ht, hinside⟩ (clip_none h t)
  | some r =>
    constructor
    · intro _
      obtain ⟨t0, t1, hle, hinside, -⟩ := clip_some h
      obtain ⟨ht, hfirst⟩ := (hinside t0).mpr ⟨le_rfl, hle⟩
      exact ⟨_, ⟨t0, ht, rfl⟩, hfirst⟩
    · intro _
      rfl

instance decidableMeets (width height : ℚ) (s : Segment ℚ) : Decidable (Meets width height s) :=
  decidable_of_iff _ clip_isSome

/-! ## What is kept of a segment -/

/-- The part of a segment in the rectangle: its points are those of the segment that are inside, it runs
    in the direction of the segment, and it is the segment itself if that is inside as a whole. -/
structure IsPart (width height : ℚ) (s r : Segment ℚ) : Prop where
  passes : ∀ v, r.Passes v ↔ s.Passes v ∧ Inside width height v
  directed : ∃ t0 t1, (0 ≤ t0 ∧ t0 ≤ t1 ∧ t1 ≤ 1) ∧ (r.x0, r.y0) = s.along t0 ∧ (r.x1, r.y1) = s.along t1
  whole : (∀ v, s.Passes v → Inside width height v) → r = s

theorem clip_isPart (h : clip? width height s = some r) : IsPart width height s r := by
  obtain ⟨t0, t1, hle, hinside, rfl⟩ := clip_some h
  obtain ⟨⟨h0, -⟩, -⟩ := (hinside t0).mpr ⟨le_rfl, hle⟩
  obtain ⟨⟨-, h1⟩, -⟩ := (hinside t1).mpr ⟨hle, le_rfl⟩
  refine ⟨?passes, ⟨t0, t1, ⟨h0, hle, h1⟩, rfl, rfl⟩, ?whole⟩
  case passes =>
    intro v
    constructor
    · rintro ⟨u, ⟨hu0, hu1⟩, rfl⟩
      obtain ⟨ht, hin⟩ := (hinside _).mpr (share_mem hle hu0 hu1)
      rw [along_part]
      exact ⟨⟨_, ht, rfl⟩, hin⟩
    · rintro ⟨⟨t, ht, rfl⟩, hin⟩
      obtain ⟨hfirst, hlast⟩ := (hinside t).mp ⟨ht, hin⟩
      obtain ⟨u, hu, rfl⟩ := exists_share hfirst hlast
      exact ⟨u, hu, along_part ..⟩
  case whole =>
    intro hall
    -- both ends are inside, so nothing is cut off
    have hstart := (hinside 0).mp ⟨⟨le_rfl, zero_le_one⟩, hall _ ⟨0, ⟨le_rfl, zero_le_one⟩, rfl⟩⟩
    have hstop := (hinside 1).mp ⟨⟨zero_le_one, le_rfl⟩, hall _ ⟨1, ⟨zero_le_one, le_rfl⟩, rfl⟩⟩
    rw [le_antisymm hstart.1 h0, le_antisymm h1 hstop.2, s.along_zero, s.along_one]

theorem clipAll_parts (width height : ℚ) (segments : List (Segment ℚ)) :
    List.Forall₂ (IsPart width height) (segments.filter fun s => Meets width height s)
      (clipAll width height segments) := by
  induction segments with
  | nil => exact .nil
  | cons s rest ih =>
    cases h : clip? width height s with
    | none =>
      have hmisses : ¬ Meets width height s := by
        rw [← clip_isSome, h]
        exact Bool.false_ne_true
      rw [clipAll, List.filterMap_cons_none h, List.filter_cons_of_neg (by simpa using hmisses)]
      exact ih
    | some r =>
      have hmeets : Meets width height s := by
        rw [← clip_isSome, h]
        rfl
      rw [clipAll, List.filterMap_cons_some h, List.filter_cons_of_pos (by simpa using hmeets)]
      exact .cons (clip_isPart h) ih

/-- Both ends of what is kept are inside. -/
theorem ends_inside (hr : r ∈ clipAll width height segments) :
    Inside width height (r.x0, r.y0) ∧ Inside width height (r.x1, r.y1) := by
  obtain ⟨s, -, h⟩ := List.mem_filterMap.mp hr
  have hpart := clip_isPart h
  exact ⟨((hpart.passes _).mp r.passes_start).2, ((hpart.passes _).mp r.passes_stop).2⟩

/-! ## Rounded ends -/

/-- A pixel on the picture, or just beyond its last row or column. -/
def Fitting (width height : ℚ) (p : Pixel) : Prop :=
  (0 ≤ p.x ∧ (p.x : ℚ) ≤ width) ∧ 0 ≤ p.y ∧ (p.y : ℚ) ≤ height

theorem floor_fitting {x bound : ℚ} (h : -(1 / 2) ≤ x ∧ x ≤ bound - 1 / 2) :
    0 ≤ ⌊x + 1 / 2⌋ ∧ ((⌊x + 1 / 2⌋ : ℤ) : ℚ) ≤ bound := by
  have hfloor := Int.floor_le (x + 1 / 2)
  exact ⟨Int.floor_nonneg.mpr (by linarith [h.1]), by linarith [h.2]⟩

theorem pixelOf_fitting {v : ℚ × ℚ} (h : Inside width height v) : Fitting width height (pixelOf v) :=
  ⟨floor_fitting h.1, floor_fitting h.2⟩

theorem natAbs_sub_le {m n : ℤ} {bound : ℚ} (hm : 0 ≤ m ∧ (m : ℚ) ≤ bound) (hn : 0 ≤ n ∧ (n : ℚ) ≤ bound) :
    ((n - m).natAbs : ℚ) ≤ bound := by
  have hm0 : (0 : ℚ) ≤ m := by exact_mod_cast hm.1
  have hn0 : (0 : ℚ) ≤ n := by exact_mod_cast hn.1
  rw [Nat.cast_natAbs, Int.cast_abs, Int.cast_sub, abs_le]
  exact ⟨by linarith [hm.2], by linarith [hn.2]⟩

theorem steps_le {p q : Pixel} (hp : Fitting width height p) (hq : Fitting width height q) :
    (steps p q : ℚ) ≤ max width height := by
  rw [steps, Nat.cast_max]
  exact max_le_max (natAbs_sub_le hp.1 hq.1) (natAbs_sub_le hp.2 hq.2)

/-- A walk between such pixels is no longer than the picture. -/
theorem walk_length_le {p q : Pixel} (hp : Fitting width height p) (hq : Fitting width height q) :
    ((walk p q).length : ℚ) ≤ max width height + 1 := by
  rw [walk_length, Nat.cast_add, Nat.cast_one]
  exact add_le_add_left (steps_le hp hq) 1

theorem Fitting.fits {p : Pixel} (hp : Fitting width height p) (hwidth : width ≤ 2 ^ 61)
    (hheight : height ≤ 2 ^ 61) : Fits p := by
  obtain ⟨⟨hleft, hright⟩, hlow, hhigh⟩ := hp
  have hx : p.x ≤ 2 ^ 61 := by exact_mod_cast hright.trans hwidth
  have hy : p.y ≤ 2 ^ 61 := by exact_mod_cast hhigh.trans hheight
  simp only [Fits]
  omega

/-- **The compiled loop draws the same.** On a picture of at most `2 ^ 61` columns and rows, it visits
    the pixels of the walk. -/
theorem walksIn_wrap_of_fitting {p q : Pixel} (hp : Fitting width height p) (hq : Fitting width height q)
    (hwidth : width ≤ 2 ^ 61) (hheight : height ≤ 2 ^ 61) (ps : List Pixel) :
    (Course.betweenIn wrap p q).WalksIn wrap (.startIn wrap p q) ps ↔ ps = walk p q := by
  have hsteps : steps p q ≤ 2 ^ 61 := by exact_mod_cast (steps_le hp hq).trans (max_le hwidth hheight)
  exact walksIn_wrap_iff (hp.fits hwidth hheight) (hq.fits hwidth hheight) (by omega) ps

/-! ## Lists of segments -/

/-- **Clipping is exact.** The segments that meet the rectangle are kept, in their order, and of each the
    part inside. Its ends round to pixels that fit, and the walk between these, which is what is drawn of
    the segment, is no longer than the picture. -/
theorem clipping_exact (width height : ℚ) (segments : List (Segment ℚ)) :
    List.Forall₂ (IsPart width height) (segments.filter fun s => Meets width height s)
      (clipAll width height segments) ∧
    ∀ r ∈ clipAll width height segments, ∃ p q,
      pixelAt r.x0 r.y0 = .ok p ∧ pixelAt r.x1 r.y1 = .ok q ∧
      Fitting width height p ∧ Fitting width height q ∧
      pixels r = .ok (walk p q) ∧ ((walk p q).length : ℚ) ≤ max width height + 1 := by
  refine ⟨clipAll_parts width height segments, ?_⟩
  intro r hr
  obtain ⟨hstart, hstop⟩ := ends_inside hr
  have hp := pixelOf_fitting hstart
  have hq := pixelOf_fitting hstop
  exact ⟨_, _, rfl, rfl, hp, hq, pixels_exact r, walk_length_le hp hq⟩

end Raster

end Wireframe
