import Wireframe.Proofs.Decimal.Ratio
import Wireframe.Proofs.Geometry.Sound
import Wireframe.Proofs.Raster.Draw

/-!
# `Wireframe.Proofs.Raster.Range` — drawing stays within the doubles

Clipping computes the ends of what is seen from the ends of a segment and from two parameters between 0
and 1. As long as the ends of the segment stay away from the end of the range of doubles, so do these, and
every one of them lies in a pixel. Stored coordinates are far away from it, and segments with infinite
coordinates are left out, so drawing a geometry cannot fail but for its colour.

## Contents
- `Moderate`: segments that stay away from the end of the range.
- `parameters_le_one`: clipping shortens.
- `clip?_below`, `pixels_defined`, `visits_defined_of_moderate`: what is seen lies in pixels.
- `Geometry.Stored.moderate`: the pieces of a geometry are moderate.
-/

namespace Wireframe.Raster

open Decimal

/-- The coordinates of a segment in order. -/
def coordinates (s : Segment Float) : List Float := [s.x0, s.y0, s.x1, s.y1]

/-- The finite coordinates of a segment are below `2^900`. -/
def Moderate (s : Segment Float) : Prop := ∀ x ∈ coordinates s, x.isFinite = true → Below 900 x

theorem finite_iff (s : Segment Float) :
    isFinite s = true ↔ ∀ x ∈ coordinates s, x.isFinite = true := by
  have hmodel : ∀ x : Float, Scalar.isFinite x = x.isFinite := fun _ => rfl
  simp only [isFinite, coordinates, hmodel, Bool.and_eq_true, List.forall_mem_cons, and_assoc,
    List.not_mem_nil, false_implies, implies_true, and_true]

/-! ## Clipping -/

/-- The parameters between which a segment is seen lie between 0 and 1. -/
theorem parameters_le_one {bs : List (Border Float)} (h : entry bs ≤ exit bs) :
    ((0.0 : Float) ≤ entry bs ∧ entry bs ≤ 1.0) ∧ (0.0 : Float) ≤ exit bs ∧ exit bs ≤ 1.0 := by
  have hentry : (0.0 : Float) ≤ entry bs := le_foldl_max (double_le_self h).1
  have hexit : exit bs ≤ 1.0 := foldl_min_le (double_le_self h).2
  exact ⟨⟨hentry, double_le_trans h hexit⟩, double_le_trans hentry h, hexit⟩

theorem one_below : Below 1 1.0 := by
  have hfield : exponentField 1.0 = 1023 := by decide
  exact Nat.le_of_eq hfield

theorem half_below : Below 0 0.5 := by
  have hfield : exponentField 0.5 = 1022 := by decide
  exact Nat.le_of_eq hfield

/-- A point of a segment at a parameter between 0 and 1 is hardly further away than the ends. -/
theorem point_below {b : Nat} {x y t : Float} (hx : Below b x) (hy : Below b y) (h0 : 0.0 ≤ t)
    (h1 : t ≤ 1.0) (hb : b ≤ 940) : Below (b + 6) (x + t * (y - x)) := by
  have ht : Below 1 t := Below.of_le h0 h1 one_below (by omega)
  have hway : Below (1 + (b + 2) + 1) (t * (y - x)) := ht.mul (hy.sub hx (by omega)) (by omega)
  exact ((hx.mono (by omega)).add (hway.mono (by omega : _ ≤ b + 4)) (by omega)).mono (by omega)

/-- The ends of what is seen of a segment. -/
theorem clip?_below {width height : Float} {s r : Segment Float} (hs : Moderate s)
    (h : clip? width height s = some r) : ∀ x ∈ coordinates r, Below 906 x := by
  simp only [clip?] at h
  split at h
  · next hkept =>
    cases h
    rw [Bool.and_eq_true, Bool.and_eq_true] at hkept
    obtain ⟨⟨hfinite, -⟩, hle⟩ := hkept
    obtain ⟨⟨hentry, hentry'⟩, hexit, hexit'⟩ := parameters_le_one (scalar_le.mp hle)
    have hbelow : ∀ x ∈ coordinates s, Below 900 x := fun x hx => hs x hx ((finite_iff s).mp hfinite x hx)
    simp only [coordinates, List.forall_mem_cons, List.not_mem_nil, false_implies, implies_true,
      and_true] at hbelow ⊢
    obtain ⟨hx0, hy0, hx1, hy1⟩ := hbelow
    exact ⟨point_below hx0 hx1 hentry hentry' (by decide), point_below hy0 hy1 hentry hentry' (by decide),
      point_below hx0 hx1 hexit hexit' (by decide), point_below hy0 hy1 hexit hexit' (by decide)⟩
  · cases h

/-! ## Pixels -/

theorem round_defined {x : Float} (h : Below 906 x) : ∃ n, round x = .ok n := by
  have hhalf : Below 908 (x + 0.5) := h.add (half_below.mono (by decide)) (by decide)
  obtain ⟨n, hn⟩ := floor_of_isFinite (hhalf.isFinite (by decide))
  have hfloor : Scalar.floor? (x + Scalar.half) = some n := hn
  exact ⟨n, by rw [round, hfloor]⟩

theorem pixels_defined {r : Segment Float} (h : ∀ x ∈ coordinates r, Below 906 x) :
    ∃ walk, pixels r = .ok walk := by
  simp only [coordinates, List.forall_mem_cons, List.not_mem_nil, false_implies, implies_true,
    and_true] at h
  obtain ⟨hx0, hy0, hx1, hy1⟩ := h
  obtain ⟨x0, hx0⟩ := round_defined hx0
  obtain ⟨y0, hy0⟩ := round_defined hy0
  obtain ⟨x1, hx1⟩ := round_defined hx1
  obtain ⟨y1, hy1⟩ := round_defined hy1
  exact ⟨walk ⟨x0, y0⟩ ⟨x1, y1⟩, by rw [pixels, pixelAt, hx0, hy0, pixelAt, hx1, hy1]; rfl⟩

/-- **Whatever is seen of moderate segments lies in pixels.** -/
theorem visits_defined_of_moderate {segments : List (Segment Float)} (h : ∀ s ∈ segments, Moderate s)
    (screen : Screen) : ∃ walks, visits segments screen = .ok walks := by
  refine mapM_defined fun r hr => ?_
  obtain ⟨s, hs, hclip⟩ := List.mem_filterMap.mp hr
  exact pixels_defined (clip?_below (h s hs) hclip)

end Wireframe.Raster

namespace Wireframe.Geometry

open Decimal Raster

/-! ## Pieces of geometries -/

/-- Stored coordinates are far away from the end of the range. -/
theorem store_below {p : Vec3 Float} {x : Float} (hx : x ∈ (store p).toList) (h : x.isFinite = true) :
    Below 132 x := by
  obtain ⟨y, rfl⟩ : ∃ y, x = single y := by
    simp only [store, Vec3.toList, Vec3.map, List.mem_cons, List.not_mem_nil, or_false] at hx
    rcases hx with rfl | rfl | rfl
    · exact ⟨p.x, rfl⟩
    · exact ⟨p.y, rfl⟩
    · exact ⟨p.z, rfl⟩
  exact single_below h

theorem Stored.moderate {g : Geometry Float} (hg : g.Stored) {closed : Bool} {s : Segment Float}
    (hs : s ∈ g.segments closed) : Moderate s := by
  obtain ⟨p, hp, q, hq, rfl⟩ := mem_segments hs
  obtain ⟨p', rfl⟩ := hg p hp
  obtain ⟨q', rfl⟩ := hg q hq
  have hstored : ∀ p : Vec3 Float, ∀ x ∈ (store p).toList, x.isFinite = true → Below 900 x :=
    fun p x hx hfinite => (store_below hx hfinite).mono (by decide)
  intro x hx hfinite
  simp only [coordinates, piece, List.mem_cons, List.not_mem_nil, or_false] at hx
  rcases hx with rfl | rfl | rfl | rfl
  · exact hstored p' _ (by simp [Vec3.toList]) hfinite
  · exact hstored p' _ (by simp [Vec3.toList]) hfinite
  · exact hstored q' _ (by simp [Vec3.toList]) hfinite
  · exact hstored q' _ (by simp [Vec3.toList]) hfinite

end Wireframe.Geometry
