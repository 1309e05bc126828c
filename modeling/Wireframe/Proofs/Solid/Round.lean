import Wireframe.Solid.Sphere
import Wireframe.Solid.Torus
import Wireframe.Proofs.Geometry.Sound
import Wireframe.Proofs.Solid.Grid

/-!
# `Wireframe.Proofs.Solid.Round` — spheres and tori are closed surfaces

On a torus the last row of the grid repeats the first one, and the last column the first one. On a sphere
columns meet likewise, while all of the first row is one pole and all of the last row the other. With at
least three rows and columns the triangles fit together: across each edge lies one other triangle. At the
poles of a sphere every other triangle is flat, and these are the ones that it leaves out.

## Contents
- `SameOnTorus`, `torusPlaces`, `torus_fitting`: tori.
- `SameOnSphere`, `spherePlaces`, `sphere_fitting`: spheres.
- `proper_iff_mem_spherePlaces`, `filter_torusPlaces`, `exists_edge`: the triangles that a sphere leaves out.
- `torusLabel`, `sphereLabel`: labels of the points.
- `closedSurface_torusMesh`, `closedSurface_sphereMesh`, `sphereMesh_eq_filter`: closed surfaces.
- `sphere_ok`, `torus_ok`: the geometries.
- `round_solids_closed` assembles the results.
-/

namespace Wireframe.Solid

variable {β : Type}

/-! ## Tori -/

/-- Positions that are the same on a torus. -/
structure SameOnTorus (n : Nat) (s t : Nat × Nat) : Prop where
  row : Meet n s.1 t.1
  column : Meet n s.2 t.2

/-- The places of the triangles of a torus: both halves of all cells. -/
def torusPlaces (n : Nat) : List Place :=
  placesOf .lower (List.range n) n ++ placesOf .upper (List.range n) n

theorem torusMesh_eq (point : Nat → Nat → β) (n : Nat) :
    torusMesh point n = (torusPlaces n).map (Place.triangle point) := by
  rw [torusMesh, torusPlaces, List.map_append, lowerTriangles_eq, upperTriangles_eq]

section

variable {n : Nat}

theorem mem_torusPlaces {p : Place} : p ∈ torusPlaces n ↔ p.row < n ∧ p.column < n := by
  obtain ⟨half, i, j⟩ := p
  simp only [torusPlaces, List.mem_append, mem_placesOf, List.mem_range]
  cases half <;> simp

theorem torus_fitting (hn : 3 ≤ n) : Fitting (SameOnTorus n) (torusPlaces n) := by
  refine ⟨?apart, ?unique, ?opposite⟩
  case apart =>
    rintro ⟨half, i, j⟩ hp d hd ⟨hrow, hcolumn⟩
    obtain ⟨hi, hj⟩ := mem_torusPlaces.mp hp
    cases half with
    | lower =>
      rcases mem_lower.mp hd with rfl | rfl | rfl <;> simp only [Meet] at hi hj hrow hcolumn <;> omega
    | upper =>
      rcases mem_upper.mp hd with rfl | rfl | rfl <;> simp only [Meet] at hi hj hrow hcolumn <;> omega
  case unique =>
    -- the six directions of edges differ, because there are three rows and columns at least
    rintro ⟨half, i, j⟩ hp ⟨half', i', j'⟩ hq d hd e he ⟨hrow, hcolumn⟩ ⟨hrow', hcolumn'⟩
    obtain ⟨hi, hj⟩ := mem_torusPlaces.mp hp
    obtain ⟨hi', hj'⟩ := mem_torusPlaces.mp hq
    cases half <;> cases half' <;> simp only [mem_lower, mem_upper] at hd he <;>
      rcases hd with rfl | rfl | rfl <;> rcases he with rfl | rfl | rfl <;>
      simp only [Meet, Place.mk.injEq, reduceCtorEq, true_and, false_and, and_false, false_or, or_false]
        at hi hj hi' hj' hrow hrow' hcolumn hcolumn' ⊢ <;> omega
  case opposite =>
    -- across an edge lies the other half of the cell, or a half of the next cell
    rintro ⟨half, i, j⟩ hp d hd
    obtain ⟨hi, hj⟩ := mem_torusPlaces.mp hp
    cases half with
    | lower =>
      rcases mem_lower.mp hd with rfl | rfl | rfl
      · obtain ⟨k, hk, hmeet⟩ := exists_before hj
        exact ⟨⟨.upper, i, k⟩, mem_torusPlaces.mpr ⟨hi, hk⟩, _, mem_upper.mpr (.inr (.inl rfl)),
          ⟨.refl i, hmeet⟩, .refl (i + 1), hmeet⟩
      · obtain ⟨k, hk, hmeet⟩ := exists_after hi
        exact ⟨⟨.upper, k, j⟩, mem_torusPlaces.mpr ⟨hk, hj⟩, _, mem_upper.mpr (.inr (.inr rfl)),
          ⟨hmeet, .refl j⟩, hmeet, .refl (j + 1)⟩
      · exact ⟨⟨.upper, i, j⟩, mem_torusPlaces.mpr ⟨hi, hj⟩, _, mem_upper.mpr (.inl rfl),
          ⟨.refl (i + 1), .refl (j + 1)⟩, .refl i, .refl j⟩
    | upper =>
      rcases mem_upper.mp hd with rfl | rfl | rfl
      · exact ⟨⟨.lower, i, j⟩, mem_torusPlaces.mpr ⟨hi, hj⟩, _, mem_lower.mpr (.inr (.inr rfl)),
          ⟨.refl i, .refl j⟩, .refl (i + 1), .refl (j + 1)⟩
      · obtain ⟨k, hk, hmeet⟩ := exists_after hj
        exact ⟨⟨.lower, i, k⟩, mem_torusPlaces.mpr ⟨hi, hk⟩, _, mem_lower.mpr (.inl rfl),
          ⟨.refl (i + 1), hmeet⟩, .refl i, hmeet⟩
      · obtain ⟨k, hk, hmeet⟩ := exists_before hi
        exact ⟨⟨.lower, k, j⟩, mem_torusPlaces.mpr ⟨hk, hj⟩, _, mem_lower.mpr (.inr (.inl rfl)),
          ⟨hmeet, .refl (j + 1)⟩, hmeet, .refl j⟩

end

/-! ## Spheres -/

/-- Positions that are the same on a sphere: the first row is one pole, the last row the other one. -/
structure SameOnSphere (n : Nat) (s t : Nat × Nat) : Prop where
  row : s.1 = t.1
  column : s.1 = 0 ∨ s.1 = n ∨ Meet n s.2 t.2

/-- The places of the triangles of a sphere: the last row has no lower halves, the first no upper ones. -/
def spherePlaces (n : Nat) : List Place :=
  placesOf .lower (List.range (n - 1)) n ++ placesOf .upper ((List.range (n - 1)).map (· + 1)) n

theorem sphereMesh_eq (point : Nat → Nat → β) (n : Nat) :
    sphereMesh point n = (spherePlaces n).map (Place.triangle point) := by
  rw [sphereMesh, spherePlaces, List.map_append, lowerTriangles_eq, upperTriangles_eq]

section

variable {n : Nat}

theorem SameOnSphere.of_meet {j j' : Nat} (h : Meet n j j') (i : Nat) : SameOnSphere n (i, j) (i, j') :=
  ⟨rfl, .inr (.inr h)⟩

theorem SameOnSphere.refl (s : Nat × Nat) : SameOnSphere n s s := .of_meet (.refl s.2) s.1

theorem lower_mem_spherePlaces {i j : Nat} : ⟨.lower, i, j⟩ ∈ spherePlaces n ↔ i + 1 < n ∧ j < n := by
  simp only [spherePlaces, List.mem_append, mem_placesOf, List.mem_range, true_and, reduceCtorEq, false_and,
    or_false]
  omega

theorem upper_mem_spherePlaces {i j : Nat} : ⟨.upper, i, j⟩ ∈ spherePlaces n ↔ (0 < i ∧ i < n) ∧ j < n := by
  simp only [spherePlaces, List.mem_append, mem_placesOf, List.mem_range, List.mem_map, true_and,
    reduceCtorEq, false_and, false_or]
  refine and_congr_left fun _ => ?_
  constructor
  · rintro ⟨k, hk, rfl⟩
    omega
  · intro hi
    exact ⟨i - 1, by omega, by omega⟩

theorem spherePlaces_subset {p : Place} (hp : p ∈ spherePlaces n) : p ∈ torusPlaces n := by
  obtain ⟨half, i, j⟩ := p
  cases half with
  | lower =>
    obtain ⟨hi, hj⟩ := lower_mem_spherePlaces.mp hp
    exact mem_torusPlaces.mpr ⟨Nat.lt_of_succ_lt hi, hj⟩
  | upper =>
    obtain ⟨⟨-, hi⟩, hj⟩ := upper_mem_spherePlaces.mp hp
    exact mem_torusPlaces.mpr ⟨hi, hj⟩

theorem sphere_fitting (hn : 3 ≤ n) : Fitting (SameOnSphere n) (spherePlaces n) := by
  refine ⟨?apart, ?unique, ?opposite⟩
  case apart =>
    rintro ⟨half, i, j⟩ hp d hd ⟨hrow, hcolumn⟩
    cases half with
    | lower =>
      obtain ⟨hi, hj⟩ := lower_mem_spherePlaces.mp hp
      rcases mem_lower.mp hd with rfl | rfl | rfl <;> simp only [Meet] at hrow hcolumn <;> omega
    | upper =>
      obtain ⟨hi, hj⟩ := upper_mem_spherePlaces.mp hp
      rcases mem_upper.mp hd with rfl | rfl | rfl <;> simp only [Meet] at hrow hcolumn <;> omega
  case unique =>
    -- rows tell an edge to a pole from the others, and columns tell the edges to one pole apart
    rintro ⟨half, i, j⟩ hp ⟨half', i', j'⟩ hq d hd e he ⟨hrow, hcolumn⟩ ⟨hrow', hcolumn'⟩
    cases half <;> cases half' <;>
      simp only [lower_mem_spherePlaces, upper_mem_spherePlaces, mem_lower, mem_upper] at hp hq hd he <;>
      rcases hd with rfl | rfl | rfl <;> rcases he with rfl | rfl | rfl <;>
      simp only [Meet, Place.mk.injEq, reduceCtorEq, true_and, false_and, and_false, false_or, or_false]
        at hrow hrow' hcolumn hcolumn' ⊢ <;> omega
  case opposite =>
    -- as on a torus, but next to a pole the edges to it are those of the cells beside
    rintro ⟨half, i, j⟩ hp d hd
    cases half with
    | lower =>
      obtain ⟨hi, hj⟩ := lower_mem_spherePlaces.mp hp
      rcases mem_lower.mp hd with rfl | rfl | rfl
      · obtain ⟨k, hk, hmeet⟩ := exists_before hj
        by_cases hpole : i = 0
        · exact ⟨⟨.lower, i, k⟩, lower_mem_spherePlaces.mpr ⟨hi, hk⟩, _, mem_lower.mpr (.inr (.inr rfl)),
            ⟨rfl, .inl hpole⟩, .of_meet hmeet (i + 1)⟩
        · exact ⟨⟨.upper, i, k⟩, upper_mem_spherePlaces.mpr ⟨by omega, hk⟩, _,
            mem_upper.mpr (.inr (.inl rfl)), .of_meet hmeet i, .of_meet hmeet (i + 1)⟩
      · exact ⟨⟨.upper, i + 1, j⟩, upper_mem_spherePlaces.mpr ⟨by omega, hj⟩, _,
          mem_upper.mpr (.inr (.inr rfl)), .of_meet (.refl j) (i + 1), .of_meet (.refl (j + 1)) (i + 1)⟩
      · obtain ⟨k, hk, hmeet⟩ := exists_after hj
        by_cases hpole : i = 0
        · exact ⟨⟨.lower, i, k⟩, lower_mem_spherePlaces.mpr ⟨hi, hk⟩, _, mem_lower.mpr (.inl rfl),
            .of_meet hmeet (i + 1), rfl, .inl hpole⟩
        · exact ⟨⟨.upper, i, j⟩, upper_mem_spherePlaces.mpr ⟨by omega, hj⟩, _, mem_upper.mpr (.inl rfl),
            .of_meet (.refl (j + 1)) (i + 1), .of_meet (.refl j) i⟩
    | upper =>
      obtain ⟨⟨hfirst, hi⟩, hj⟩ := upper_mem_spherePlaces.mp hp
      rcases mem_upper.mp hd with rfl | rfl | rfl
      · obtain ⟨k, hk, hmeet⟩ := exists_before hj
        by_cases hpole : i + 1 = n
        · exact ⟨⟨.upper, i, k⟩, upper_mem_spherePlaces.mpr ⟨⟨hfirst, hi⟩, hk⟩, _,
            mem_upper.mpr (.inr (.inl rfl)), .of_meet hmeet i, rfl, .inr (.inl hpole)⟩
        · exact ⟨⟨.lower, i, j⟩, lower_mem_spherePlaces.mpr ⟨by omega, hj⟩, _,
            mem_lower.mpr (.inr (.inr rfl)), .of_meet (.refl j) i, .of_meet (.refl (j + 1)) (i + 1)⟩
      · obtain ⟨k, hk, hmeet⟩ := exists_after hj
        by_cases hpole : i + 1 = n
        · exact ⟨⟨.upper, i, k⟩, upper_mem_spherePlaces.mpr ⟨⟨hfirst, hi⟩, hk⟩, _, mem_upper.mpr (.inl rfl),
            ⟨rfl, .inr (.inl hpole)⟩, .of_meet hmeet i⟩
        · exact ⟨⟨.lower, i, k⟩, lower_mem_spherePlaces.mpr ⟨by omega, hk⟩, _, mem_lower.mpr (.inl rfl),
            .of_meet hmeet (i + 1), .of_meet hmeet i⟩
      · obtain ⟨r, rfl⟩ : ∃ r, i = r + 1 := ⟨i - 1, by omega⟩
        exact ⟨⟨.lower, r, j⟩, lower_mem_spherePlaces.mpr ⟨hi, hj⟩, _, mem_lower.mpr (.inr (.inl rfl)),
          .of_meet (.refl (j + 1)) (r + 1), .of_meet (.refl j) (r + 1)⟩

/-! ## The triangles that a sphere leaves out -/

/-- The halves at a pole are flat, and no others are. -/
theorem proper_iff_mem_spherePlaces (hn : 3 ≤ n) {label : Nat → Nat → β}
    (hlabel : Labels n (SameOnSphere n) label) {p : Place} (hp : p ∈ torusPlaces n) :
    (p.triangle label).Proper ↔ p ∈ spherePlaces n := by
  constructor
  · rintro ⟨hab, hbc, hca⟩
    obtain ⟨half, i, j⟩ := p
    obtain ⟨hi, hj⟩ := mem_torusPlaces.mp hp
    simp only at hi hj
    cases half with
    | lower =>
      refine lower_mem_spherePlaces.mpr ⟨?_, hj⟩
      by_contra hlast
      have hpole : SameOnSphere n (i + 1, j) (i + 1, j + 1) := ⟨rfl, .inr (.inl (by omega))⟩
      exact hbc ((hlabel (i + 1, j) (i + 1, j + 1) ⟨hi, by omega⟩ ⟨hi, hj⟩).mpr hpole)
    | upper =>
      refine upper_mem_spherePlaces.mpr ⟨⟨?_, hi⟩, hj⟩
      by_contra hfirst
      have hpole : SameOnSphere n (i, j + 1) (i, j) := ⟨rfl, .inl (by omega)⟩
      exact hca ((hlabel (i, j + 1) (i, j) ⟨by omega, hj⟩ ⟨by omega, by omega⟩).mpr hpole)
  · intro hkept
    exact (sphere_fitting hn).proper hlabel (fun q hq => mem_torusPlaces.mp (spherePlaces_subset hq)) hkept

theorem filter_not_last (n : Nat) : (List.range n).filter (fun i => i + 1 < n) = List.range (n - 1) := by
  cases n with
  | zero => rfl
  | succ m =>
    have hkept : ∀ i ∈ List.range m, decide (i + 1 < m + 1) = true := by simp
    rw [List.range_succ, List.filter_append, List.filter_eq_self.mpr hkept]
    simp

theorem filter_not_first (n : Nat) :
    (List.range n).filter (fun i => 0 < i) = (List.range (n - 1)).map (· + 1) := by
  cases n with
  | zero => rfl
  | succ m =>
    have hkept : ∀ i ∈ (List.range m).map Nat.succ, decide (0 < i) = true := by simp
    rw [List.range_succ_eq_map, List.filter_cons_of_neg (by simp), List.filter_eq_self.mpr hkept]
    rfl

theorem filter_torusPlaces : (torusPlaces n).filter (· ∈ spherePlaces n) = spherePlaces n := by
  have hlower : ∀ p ∈ placesOf .lower (List.range n) n,
      decide (p ∈ spherePlaces n) = decide (p.row + 1 < n) := by
    rintro ⟨half, i, j⟩ hp
    obtain ⟨rfl, hi, hj⟩ := mem_placesOf.mp hp
    exact decide_eq_decide.mpr (lower_mem_spherePlaces.trans (and_iff_left hj))
  have hupper : ∀ p ∈ placesOf .upper (List.range n) n,
      decide (p ∈ spherePlaces n) = decide (0 < p.row) := by
    rintro ⟨half, i, j⟩ hp
    obtain ⟨rfl, hi, hj⟩ := mem_placesOf.mp hp
    have hrow : i < n := List.mem_range.mp hi
    exact decide_eq_decide.mpr (upper_mem_spherePlaces.trans ((and_iff_left hj).trans (and_iff_left hrow)))
  rw [torusPlaces, List.filter_append, List.filter_congr hlower, List.filter_congr hupper,
    filter_placesOf .lower (List.range n) n (fun i => i + 1 < n),
    filter_placesOf .upper (List.range n) n (fun i => 0 < i), filter_not_last, filter_not_first, spherePlaces]

/-- Every edge of a cell that is more than a point is an edge of the triangles that are kept. -/
theorem exists_edge (hn : 3 ≤ n) {p : Place} (hp : p ∈ torusPlaces n) {d : (Nat × Nat) × (Nat × Nat)}
    (hd : d ∈ p.corners.edges) (hne : ¬ SameOnSphere n d.1 d.2) : ∃ q ∈ spherePlaces n,
      ∃ e ∈ q.corners.edges, SameOnSphere n e.1 d.1 ∧ SameOnSphere n e.2 d.2 := by
  by_cases hkept : p ∈ spherePlaces n
  · exact ⟨p, hkept, d, hd, .refl d.1, .refl d.2⟩
  · -- a flat triangle goes to the pole and back, along two edges of the cells beside
    obtain ⟨half, i, j⟩ := p
    obtain ⟨hi, hj⟩ := mem_torusPlaces.mp hp
    simp only at hi hj
    cases half with
    | lower =>
      rw [lower_mem_spherePlaces] at hkept
      have hpole : i + 1 = n := by omega
      rcases mem_lower.mp hd with rfl | rfl | rfl
      · exact ⟨⟨.upper, i, j⟩, upper_mem_spherePlaces.mpr ⟨by omega, hj⟩, _, mem_upper.mpr (.inl rfl),
          .refl (i, j), rfl, .inr (.inl hpole)⟩
      · exact absurd ⟨rfl, .inr (.inl hpole)⟩ hne
      · obtain ⟨k, hk, hmeet⟩ := exists_before hj
        exact ⟨⟨.upper, i, k⟩, upper_mem_spherePlaces.mpr ⟨by omega, hk⟩, _, mem_upper.mpr (.inr (.inl rfl)),
          ⟨rfl, .inr (.inl hpole)⟩, .of_meet hmeet.symm i⟩
    | upper =>
      rw [upper_mem_spherePlaces] at hkept
      have hpole : i = 0 := by omega
      rcases mem_upper.mp hd with rfl | rfl | rfl
      · obtain ⟨k, hk, hmeet⟩ := exists_after hj
        exact ⟨⟨.lower, i, k⟩, lower_mem_spherePlaces.mpr ⟨by omega, hk⟩, _, mem_lower.mpr (.inl rfl),
          ⟨rfl, .inl hpole⟩, .of_meet hmeet.symm (i + 1)⟩
      · exact ⟨⟨.lower, i, j⟩, lower_mem_spherePlaces.mpr ⟨by omega, hj⟩, _,
          mem_lower.mpr (.inr (.inr rfl)), .refl (i + 1, j + 1), rfl, .inl hpole⟩
      · exact absurd ⟨rfl, .inl hpole⟩ hne

end

/-! ## Labels of spheres and tori -/

/-- Labels of a torus: remainders of rows and of columns. -/
def torusLabel (n i j : Nat) : Nat × Nat := (i % n, j % n)

/-- Labels of a sphere: rows, and remainders of columns where the row is no pole. -/
def sphereLabel (n i j : Nat) : Nat × Nat := (i, if i = 0 ∨ i = n then 0 else j % n)

theorem labels_torusLabel {n : Nat} (hn : 0 < n) : Labels n (SameOnTorus n) (torusLabel n) := by
  rintro ⟨i, j⟩ ⟨i', j'⟩ ⟨hi, hj⟩ ⟨hi', hj'⟩
  simp only [torusLabel, Prod.mk.injEq]
  rw [mod_eq_mod_iff hn hi hi', mod_eq_mod_iff hn hj hj']
  exact ⟨fun h => ⟨h.1, h.2⟩, fun h => ⟨h.row, h.column⟩⟩

theorem labels_sphereLabel {n : Nat} (hn : 0 < n) : Labels n (SameOnSphere n) (sphereLabel n) := by
  rintro ⟨i, j⟩ ⟨i', j'⟩ ⟨hi, hj⟩ ⟨hi', hj'⟩
  simp only [sphereLabel, Prod.mk.injEq]
  constructor
  · rintro ⟨rfl, hcolumn⟩
    by_cases hpole : i = 0 ∨ i = n
    · exact ⟨rfl, or_assoc.mp (.inl hpole)⟩
    · rw [if_neg hpole, if_neg hpole, mod_eq_mod_iff hn hj hj'] at hcolumn
      exact .of_meet hcolumn i
  · rintro ⟨hrow, hcolumn⟩
    simp only at hrow hcolumn
    subst hrow
    refine ⟨rfl, ?_⟩
    by_cases hpole : i = 0 ∨ i = n
    · rw [if_pos hpole, if_pos hpole]
    · rw [if_neg hpole, if_neg hpole, mod_eq_mod_iff hn hj hj']
      exact (or_assoc.mpr hcolumn).resolve_left hpole

/-! ## Closed surfaces -/

section

variable {n : Nat} {label : Nat → Nat → β}

theorem length_sphereMesh (point : Nat → Nat → β) (n : Nat) :
    (sphereMesh point n).length = 2 * n * (n - 1) := by
  rw [sphereMesh_eq, List.length_map, spherePlaces, List.length_append, length_placesOf, length_placesOf,
    List.length_map, List.length_range]
  ring

theorem length_torusMesh (point : Nat → Nat → β) (n : Nat) : (torusMesh point n).length = 2 * n * n := by
  rw [torusMesh_eq, List.length_map, torusPlaces, List.length_append, length_placesOf, length_placesOf,
    List.length_range]
  ring

/-- The triangles over any points are those over the positions, with a point at each. -/
theorem sphereMesh_eq_map (point : Nat → Nat → β) (n : Nat) :
    sphereMesh point n = (sphereMesh Prod.mk n).map (Triangle.map fun s => point s.1 s.2) := by
  rw [sphereMesh_eq, sphereMesh_eq, List.map_map]
  exact List.map_congr_left fun p _ => triangle_eq_map point p

theorem torusMesh_eq_map (point : Nat → Nat → β) (n : Nat) :
    torusMesh point n = (torusMesh Prod.mk n).map (Triangle.map fun s => point s.1 s.2) := by
  rw [torusMesh_eq, torusMesh_eq, List.map_map]
  exact List.map_congr_left fun p _ => triangle_eq_map point p

theorem closedSurface_torusMesh [DecidableEq β] (hn : 3 ≤ n) (hlabel : Labels n (SameOnTorus n) label) :
    ClosedSurface (torusMesh label n) := by
  rw [torusMesh_eq]
  have hnodup : (torusPlaces n).Nodup := nodup_halves List.nodup_range List.nodup_range n
  exact (torus_fitting hn).closed hlabel hnodup fun p hp => mem_torusPlaces.mp hp

theorem closedSurface_sphereMesh [DecidableEq β] (hn : 3 ≤ n) (hlabel : Labels n (SameOnSphere n) label) :
    ClosedSurface (sphereMesh label n) := by
  rw [sphereMesh_eq]
  have hrows : ((List.range (n - 1)).map (· + 1)).Nodup := List.nodup_range.map Nat.succ_injective
  have hnodup : (spherePlaces n).Nodup := nodup_halves List.nodup_range hrows n
  exact (sphere_fitting hn).closed hlabel hnodup fun p hp => mem_torusPlaces.mp (spherePlaces_subset hp)

/-- Of the triangles of all cells a sphere leaves out those that are flat. -/
theorem sphereMesh_eq_filter [DecidableEq β] (hn : 3 ≤ n) (hlabel : Labels n (SameOnSphere n) label) :
    sphereMesh label n = (torusMesh label n).filter fun t => t.Proper := by
  have hsame : ∀ p ∈ torusPlaces n, decide (p ∈ spherePlaces n) = decide (p.triangle label).Proper := by
    intro p hp
    exact decide_eq_decide.mpr (proper_iff_mem_spherePlaces hn hlabel hp).symm
  rw [torusMesh_eq, List.filter_map, sphereMesh_eq, ← filter_torusPlaces, List.filter_congr hsame]
  rfl

/-- The flat triangles have no edge that the others lack. -/
theorem exists_triangle (hn : 3 ≤ n) (hlabel : Labels n (SameOnSphere n) label) {t : Triangle β}
    (ht : t ∈ torusMesh label n) {e : β × β} (he : e ∈ t.edges) (hne : e.1 ≠ e.2) :
    ∃ u ∈ sphereMesh label n, e ∈ u.edges := by
  rw [torusMesh_eq] at ht
  obtain ⟨p, hp, rfl⟩ := List.mem_map.mp ht
  obtain ⟨d, hd, rfl⟩ := mem_edges_triangle.mp he
  have hgrid : ∀ {q f}, q ∈ torusPlaces n → f ∈ q.corners.edges → InGrid n f.1 ∧ InGrid n f.2 := by
    intro q f hq hf
    exact inGrid_corners (mem_torusPlaces.mp hq).1 (mem_torusPlaces.mp hq).2 hf
  obtain ⟨hfrom, hto⟩ := hgrid hp hd
  have hd' : ¬ SameOnSphere n d.1 d.2 := by
    intro hsame
    exact hne ((hlabel d.1 d.2 hfrom hto).mpr hsame)
  obtain ⟨q, hq, f, hf, hsame, hsame'⟩ := exists_edge hn hp hd hd'
  obtain ⟨hfrom', hto'⟩ := hgrid (spherePlaces_subset hq) hf
  refine ⟨q.triangle label, ?_, mem_edges_triangle.mpr ⟨f, hf, ?_⟩⟩
  · rw [sphereMesh_eq]
    exact List.mem_map_of_mem hq
  · rw [(hlabel f.1 d.1 hfrom' hfrom).mpr hsame, (hlabel f.2 d.2 hto' hto).mpr hsame']

end

section

variable {α : Type} [Scalar α] [Angle α] [Shown α] {n : Nat}

/-- A sphere of at least three steps has its triangles as polylines. -/
theorem sphere_ok (hn : 3 ≤ n) (center : Vec3 α) {radius : α}
    (hradius : Scalar.lt radius Scalar.zero = false) : ∃ g, sphere center radius n = .ok g ∧
      g.polylines = (sphereMesh (sphereGrid center radius n) n).map (fun t => t.toList.map Geometry.store) ∧
      g.lineCount = 2 * n * (n - 1) := by
  have hstep : ¬ (n : Int) < 3 := by omega
  refine ⟨_, ?_, Geometry.polylines_ofTriangles _, ?_⟩
  · simp only [sphere, hradius, Bool.false_eq_true, if_false, if_neg hstep, Int.toNat_natCast]
  · rw [Geometry.lineCount_ofTriangles, length_sphereMesh]

/-- A torus of at least three steps has its triangles as polylines. -/
theorem torus_ok (hn : 3 ≤ n) (center : Vec3 α) {r0 r1 : α} (h0 : Scalar.lt r0 Scalar.zero = false)
    (h1 : Scalar.lt r1 Scalar.zero = false) : ∃ g, torus center r0 r1 n = .ok g ∧
      g.polylines = (torusMesh (fun i j => torusGrid r0 r1 n i j + center) n).map
        (fun t => t.toList.map Geometry.store) ∧
      g.lineCount = 2 * n * n := by
  have hstep : ¬ (n : Int) < 3 := by omega
  refine ⟨_, ?_, Geometry.polylines_ofTriangles _, ?_⟩
  · simp only [torus, h0, h1, Bool.or_false, Bool.false_eq_true, if_false, if_neg hstep, Int.toNat_natCast]
  · rw [Geometry.lineCount_ofTriangles, length_torusMesh]

end

/-- **Spheres and tori are closed surfaces.** Seen as labels that are equal just where positions of the grid
    are the same point, the triangles are not flat, and each edge belongs to exactly two of them, which go
    along it in opposite directions. What a sphere leaves out of the triangles of all cells are the flat
    ones, and no edge is lost with them. There are such labels, the triangles over any grid of points are at
    the same positions, and they are the polylines of the solids. -/
theorem round_solids_closed {n : Nat} (hn : 3 ≤ n) :
    (∀ {β : Type} [DecidableEq β] {label : Nat → Nat → β}, Labels n (SameOnSphere n) label →
      ClosedSurface (sphereMesh label n) ∧
      sphereMesh label n = ((torusMesh label n).filter fun t => t.Proper) ∧
      ∀ t ∈ torusMesh label n, ∀ e ∈ t.edges, e.1 ≠ e.2 → ∃ u ∈ sphereMesh label n, e ∈ u.edges) ∧
    (∀ {β : Type} [DecidableEq β] {label : Nat → Nat → β}, Labels n (SameOnTorus n) label →
      ClosedSurface (torusMesh label n)) ∧
    (Labels n (SameOnSphere n) (sphereLabel n) ∧ Labels n (SameOnTorus n) (torusLabel n)) ∧
    (∀ {β : Type} (point : Nat → Nat → β),
      (sphereMesh point n).length = 2 * n * (n - 1) ∧ (torusMesh point n).length = 2 * n * n ∧
      sphereMesh point n = (sphereMesh Prod.mk n).map (Triangle.map fun s => point s.1 s.2) ∧
      torusMesh point n = (torusMesh Prod.mk n).map (Triangle.map fun s => point s.1 s.2)) ∧
    ∀ {α : Type} [Scalar α] [Angle α] [Shown α] (center : Vec3 α) {r0 r1 : α},
      Scalar.lt r0 Scalar.zero = false → Scalar.lt r1 Scalar.zero = false →
      (∃ g, sphere center r0 n = .ok g ∧ g.lineCount = 2 * n * (n - 1) ∧ g.polylines =
        (sphereMesh (sphereGrid center r0 n) n).map fun t => t.toList.map Geometry.store) ∧
      ∃ g, torus center r0 r1 n = .ok g ∧ g.lineCount = 2 * n * n ∧ g.polylines =
        (torusMesh (fun i j => torusGrid r0 r1 n i j + center) n).map fun t =>
          t.toList.map Geometry.store := by
  refine ⟨?sphere, ?torus, ?labels, ?points, ?solids⟩
  case sphere =>
    intro β _ label hlabel
    exact ⟨closedSurface_sphereMesh hn hlabel, sphereMesh_eq_filter hn hlabel,
      fun t ht e he hne => exists_triangle hn hlabel ht he hne⟩
  case torus => exact fun hlabel => closedSurface_torusMesh hn hlabel
  case labels => exact ⟨labels_sphereLabel (by omega), labels_torusLabel (by omega)⟩
  case points =>
    intro β point
    exact ⟨length_sphereMesh point n, length_torusMesh point n, sphereMesh_eq_map point n,
      torusMesh_eq_map point n⟩
  case solids =>
    intro α _ _ _ center r0 r1 h0 h1
    obtain ⟨g, hg, hlines, hcount⟩ := sphere_ok hn center h0
    obtain ⟨g', hg', hlines', hcount'⟩ := torus_ok hn center h0 h1
    exact ⟨⟨g, hg, hcount, hlines⟩, g', hg', hcount', hlines'⟩

/-- The coarsest solids have twelve and eighteen triangles. -/
theorem round_solids_three :
    3 ≤ 3 ∧ ClosedSurface (sphereMesh (sphereLabel 3) 3) ∧ (sphereMesh (sphereLabel 3) 3).length = 12 ∧
      ClosedSurface (torusMesh (torusLabel 3) 3) ∧ (torusMesh (torusLabel 3) 3).length = 18 := by
  obtain ⟨hsphere, htorus, ⟨hs, ht⟩, hpoints, -⟩ := round_solids_closed (n := 3) (by decide)
  exact ⟨by decide, (hsphere hs).1, (hpoints (sphereLabel 3)).1, htorus ht, (hpoints (torusLabel 3)).2.1⟩

end Wireframe.Solid
