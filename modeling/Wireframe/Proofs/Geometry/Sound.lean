import Wireframe.Proofs.Geometry.Pieces
import Wireframe.Proofs.Basic

/-!
# `Wireframe.Proofs.Geometry.Sound` — what every geometry keeps

The buffers of a geometry fit, and its vertices are kept as they are stored. Every way of building a
geometry sees to both.

## Contents
- `Stored`, `Sound`: vertices as they are stored, in buffers that fit.
- `polylines_ofPolylines`, `polylines_ofTriangles`: the polylines that a geometry is built of.
- `Sound.ofPolylines`, `Sound.ofLines`, `Sound.ofTriangles`, `Sound.ofTriangleArray`, `Sound.ofArrays`,
  `Sound.transform`, `Sound.concat`: ways of building.
-/

namespace Wireframe.Geometry

variable {α : Type}

/-! ## Lists of polylines -/

theorem totals_fits (start : Nat) (counts : List Nat) :
    ∃ stops, totals start counts = start :: stops ∧ Fits start stops (start + counts.sum) := by
  induction counts generalizing start with
  | nil => exact ⟨[], rfl, .nil _⟩
  | cons n counts ih =>
    obtain ⟨stops, htotals, hfits⟩ := ih (start + n)
    refine ⟨totals (start + n) counts, rfl, ?_⟩
    rw [htotals, List.sum_cons, ← Nat.add_assoc]
    exact .cons (Nat.le_add_right _ _) hfits

theorem valid_ofPolylines (lines : List (List (Vec3 α))) : (ofPolylines lines).Valid := by
  obtain ⟨stops, htotals, hfits⟩ := totals_fits 0 (lines.map List.length)
  refine valid_iff.mpr ⟨stops, htotals, ?_⟩
  rw [Nat.zero_add] at hfits
  rwa [ofPolylines, List.length_flatten]

/-- **The polylines that a geometry is built of are its polylines.** -/
theorem polylines_ofPolylines (lines : List (List (Vec3 α))) : (ofPolylines lines).polylines = lines := by
  have hcut : ∀ start, cut start (totals start (lines.map List.length)).tail lines.flatten = lines := by
    induction lines with
    | nil => exact fun start => rfl
    | cons line lines ih =>
      intro start
      obtain ⟨stops, htotals, -⟩ := totals_fits (start + line.length) (lines.map List.length)
      have hrest := ih (start + line.length)
      rw [htotals, List.tail_cons] at hrest
      simp only [List.map_cons, totals, List.tail_cons, htotals, cut, List.flatten_cons,
        Nat.add_sub_cancel_left, List.take_left, List.drop_left, hrest]
  obtain ⟨stops, htotals, -⟩ := totals_fits 0 (lines.map List.length)
  have hlines := hcut 0
  rw [htotals, List.tail_cons] at hlines
  rw [polylines, ofPolylines, htotals]
  exact hlines

variable [Scalar α]

/-- Every vertex is kept as it is stored. -/
def Stored (g : Geometry α) : Prop := ∀ p ∈ g.points, ∃ q, p = store q

/-- The buffers fit, and every vertex is kept as it is stored. -/
structure Sound (g : Geometry α) : Prop where
  valid : g.Valid
  stored : g.Stored

omit [Scalar α] in
/-- Triangles are polylines of three vertices. -/
theorem range_map_eq_totals (n start : Nat) :
    (List.range (n + 1)).map (start + 3 * ·) = totals start (List.replicate n 3) := by
  induction n generalizing start with
  | zero => rfl
  | succ n ih =>
    rw [List.range_succ_eq_map, List.map_cons, List.map_map, List.replicate_succ, totals, ← ih]
    congr 1
    refine List.map_congr_left fun i _ => ?_
    simp only [Function.comp_apply]
    omega

theorem ofTriangles_eq (ts : List (Triangle (Vec3 α))) :
    ofTriangles ts = ofPolylines (ts.map fun t => t.toList.map store) := by
  have hoffsets : (List.range (ts.length + 1)).map (3 * ·) = totals 0 (List.replicate ts.length 3) := by
    rw [← range_map_eq_totals]
    simp only [Nat.zero_add]
  have hlengths : (ts.map fun t => t.toList.map store).map List.length = List.replicate ts.length 3 := by
    rw [List.map_map]
    exact List.map_eq_replicate_iff.mpr fun t _ => rfl
  rw [ofTriangles, ofPolylines, hoffsets, hlengths, List.flatMap_def]

/-- The polylines of triangles are their corners. -/
theorem polylines_ofTriangles (ts : List (Triangle (Vec3 α))) :
    (ofTriangles ts).polylines = ts.map fun t => t.toList.map store := by
  rw [ofTriangles_eq, polylines_ofPolylines]

theorem lineCount_ofTriangles (ts : List (Triangle (Vec3 α))) : (ofTriangles ts).lineCount = ts.length := by
  simp only [lineCount, ofTriangles, List.length_map, List.length_range, Nat.add_sub_cancel]

namespace Sound

theorem ofPolylines (lines : List (List (Vec3 α))) :
    (Geometry.ofPolylines (lines.map (List.map store))).Sound := by
  refine ⟨valid_ofPolylines _, fun p hp => ?_⟩
  obtain ⟨line, hline, hp⟩ := List.mem_flatten.mp hp
  obtain ⟨line, -, rfl⟩ := List.mem_map.mp hline
  obtain ⟨q, -, rfl⟩ := List.mem_map.mp hp
  exact ⟨q, rfl⟩

theorem empty : (Geometry.empty : Geometry α).Sound := ofPolylines []

theorem ofLines {ts : List (Except Error (Tensor α))} {g : Geometry α} (h : Geometry.ofLines ts = .ok g) :
    g.Sound := by
  obtain ⟨lines, -, rfl⟩ := map_ok h
  exact ofPolylines lines

theorem ofTriangles (ts : List (Triangle (Vec3 α))) : (Geometry.ofTriangles ts).Sound := by
  have hmap : ts.map (fun t => t.toList.map store) = (ts.map Triangle.toList).map (List.map store) := by
    rw [List.map_map]
    rfl
  rw [ofTriangles_eq, hmap]
  exact ofPolylines _

theorem ofTriangleArray {t : Tensor α} {g : Geometry α} (h : Geometry.ofTriangleArray t = .ok g) :
    g.Sound := by
  unfold Geometry.ofTriangleArray at h
  split at h
  · cases h
    exact empty
  · split at h
    · cases h
      exact ofTriangles _
    · cases h

theorem transform {g : Geometry α} (hg : g.Sound) (m : Matrix α) : (g.transform m).Sound := by
  unfold Geometry.transform
  split
  · exact hg
  · have hlength : ((m.apply g.points).map store).length = g.points.length := by
      unfold Matrix.apply
      rw [List.length_map]
      dsimp only
      split <;> exact List.length_map _
    refine ⟨?_, fun p hp => ?_⟩
    · rw [valid_iff, hlength]
      exact valid_iff.mp hg.valid
    · obtain ⟨q, -, rfl⟩ := List.mem_map.mp hp
      exact ⟨q, rfl⟩

theorem concat {g h : Geometry α} (hg : g.Sound) (hh : h.Sound) : (g.concat h).Sound := by
  refine ⟨hg.valid.concat hh.valid, ?_⟩
  unfold Geometry.concat
  split
  · exact hh.stored
  · split
    · exact hg.stored
    · exact fun p hp => (List.mem_append.mp hp).elim (hg.stored p) (hh.stored p)

end Sound

/-! ## Given offsets -/

theorem pairwise_of_ascending {offsets : List Int} (h : ascending offsets = true) :
    offsets.Pairwise (· ≤ ·) := by
  induction offsets with
  | nil => exact .nil
  | cons a rest ih =>
    cases rest with
    | nil => exact List.pairwise_singleton _ _
    | cons b rest =>
      simp only [ascending, Bool.and_eq_true, decide_eq_true_eq] at h
      have hrest := ih h.2
      refine .cons (fun c hc => ?_) hrest
      rcases List.mem_cons.mp hc with rfl | hc
      · exact h.1
      · exact Int.le_trans h.1 ((List.pairwise_cons.mp hrest).1 c hc)

omit [Scalar α] in
/-- Offsets that are not refused fit. -/
theorem valid_of_checkOffsets {ps : List (Vec3 α)} {offsets : List Int} {os : List Nat}
    (h : checkOffsets ps.length offsets = .ok os) : (Geometry.mk ps os).Valid := by
  unfold checkOffsets at h
  split at h
  · next first last hfirst hlast =>
    simp only [bne_iff_ne, ne_eq, ite_not, Bool.not_eq_true'] at h
    split at h
    · next hzero =>
      split at h
      · next hend =>
        split at h
        · cases h
        · next hascending =>
          cases h
          have hpairwise := pairwise_of_ascending (Bool.not_eq_false _ ▸ hascending)
          refine ⟨?_, ?_, ?_⟩
          · rw [List.head?_map, hfirst, hzero]
            rfl
          · rw [List.getLast?_map, hlast, hend]
            rfl
          · rw [List.pairwise_map]
            exact hpairwise.imp fun hle => Int.toNat_le_toNat hle
      · cases h
    · cases h
  · cases h

theorem Sound.ofArrays {points : Tensor α} {offsets : Except Error (Tensor Int)} {g : Geometry α}
    (h : Geometry.ofArrays points offsets = .ok g) : g.Sound := by
  unfold Geometry.ofArrays at h
  split at h
  · obtain ⟨os, -, h⟩ := bind_ok h
    split at h
    · cases h
    · obtain ⟨ps, -, h⟩ := bind_ok h
      obtain ⟨stops, hstops, h⟩ := bind_ok h
      cases h
      have hcheck : checkOffsets (ps.map store).length os.entries = .ok stops := by rwa [List.length_map]
      refine ⟨valid_of_checkOffsets hcheck, fun p hp => ?_⟩
      obtain ⟨q, -, rfl⟩ := List.mem_map.mp hp
      exact ⟨q, rfl⟩
  · cases h

end Wireframe.Geometry
