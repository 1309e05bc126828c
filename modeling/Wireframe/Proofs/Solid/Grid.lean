import Wireframe.Solid.Grid
import Wireframe.Proofs.Solid.Surface

/-!
# `Wireframe.Proofs.Solid.Grid` — triangles over a grid fit together

A triangle over a grid is known by its place: a cell and one of its two halves. Which triangles have an
edge in common is a matter of positions alone, once it is known which positions are the same point. So the
points are labels here: equal where positions are the same, and nowhere else.

## Contents
- `Place`, `placesOf`: places, and those in some rows; `lowerTriangles_eq`, `upperTriangles_eq`.
- `Labels`: labels of positions.
- `Fitting`, `Fitting.closed`: positions at which triangles fit together, so that they make up a closed
  surface.
- `Meet`, `exists_before`, `exists_after`, `mod_eq_mod_iff`: rows and columns of which the last repeats the
  first.
-/

namespace Wireframe.Solid

variable {β : Type}

/-! ## Places -/

/-- Which of the two triangles of a cell. -/
inductive Half where
  | lower
  | upper
  deriving DecidableEq, Repr

/-- Where a triangle lies in a grid. -/
structure Place where
  half : Half
  row : Nat
  column : Nat
  deriving DecidableEq, Repr

/-- The triangle at a place. -/
def Place.triangle (point : Nat → Nat → β) : Place → Triangle β
  | ⟨.lower, i, j⟩ => ⟨point i j, point (i + 1) j, point (i + 1) (j + 1)⟩
  | ⟨.upper, i, j⟩ => ⟨point i j, point (i + 1) (j + 1), point i (j + 1)⟩

/-- The places of one half in some rows. -/
def placesOf (half : Half) (rows : List Nat) (columns : Nat) : List Place :=
  rows.flatMap fun i => (List.range columns).map fun j => ⟨half, i, j⟩

theorem lowerTriangles_eq (point : Nat → Nat → β) (rows : List Nat) (columns : Nat) :
    lowerTriangles point rows columns = (placesOf .lower rows columns).map (Place.triangle point) := by
  simp only [lowerTriangles, placesOf, List.map_flatMap, List.map_map]
  rfl

theorem upperTriangles_eq (point : Nat → Nat → β) (rows : List Nat) (columns : Nat) :
    upperTriangles point rows columns = (placesOf .upper rows columns).map (Place.triangle point) := by
  simp only [upperTriangles, placesOf, List.map_flatMap, List.map_map]
  rfl

theorem mem_placesOf {half : Half} {rows : List Nat} {columns : Nat} {p : Place} :
    p ∈ placesOf half rows columns ↔ p.half = half ∧ p.row ∈ rows ∧ p.column < columns := by
  obtain ⟨h, i, j⟩ := p
  simp only [placesOf, List.mem_flatMap, List.mem_map, List.mem_range, Place.mk.injEq]
  constructor
  · rintro ⟨i, hi, j, hj, rfl, rfl, rfl⟩
    exact ⟨rfl, hi, hj⟩
  · rintro ⟨rfl, hi, hj⟩
    exact ⟨i, hi, j, hj, rfl, rfl, rfl⟩

theorem nodup_placesOf (half : Half) {rows : List Nat} (h : rows.Nodup) (columns : Nat) :
    (placesOf half rows columns).Nodup := by
  refine List.nodup_flatMap.mpr ⟨?_, ?_⟩
  · intro i _
    apply List.nodup_range.map
    intro j j' heq
    exact (Place.mk.inj heq).2.2
  · apply h.imp
    intro i i' hne p hp hp'
    obtain ⟨j, -, rfl⟩ := List.mem_map.mp hp
    obtain ⟨j', -, heq⟩ := List.mem_map.mp hp'
    exact hne (Place.mk.inj heq).2.1.symm

theorem nodup_halves {rows rows' : List Nat} (h : rows.Nodup) (h' : rows'.Nodup) (n : Nat) :
    (placesOf .lower rows n ++ placesOf .upper rows' n).Nodup := by
  refine List.nodup_append.mpr ⟨nodup_placesOf _ h n, nodup_placesOf _ h' n, ?_⟩
  intro p hp q hq heq
  have hlower := (mem_placesOf.mp hp).1
  rw [heq, (mem_placesOf.mp hq).1] at hlower
  cases hlower

theorem length_placesOf (half : Half) (rows : List Nat) (columns : Nat) :
    (placesOf half rows columns).length = rows.length * columns := by
  simp [placesOf, List.length_flatMap, List.map_const', Nat.mul_comm]

theorem filter_placesOf (half : Half) (rows : List Nat) (columns : Nat) (keep : Nat → Bool) :
    (placesOf half rows columns).filter (fun p => keep p.row) =
      placesOf half (rows.filter keep) columns := by
  induction rows with
  | nil => rfl
  | cons i rest ih =>
    -- a row is kept as a whole or left out as a whole
    have hcons : placesOf half (i :: rest) columns =
        (List.range columns).map (fun j => ⟨half, i, j⟩) ++ placesOf half rest columns := List.flatMap_cons
    rw [hcons, List.filter_append, ih]
    cases hi : keep i with
    | true =>
      rw [List.filter_cons_of_pos hi, List.filter_eq_self.mpr ?_]
      · rfl
      · intro p hp
        obtain ⟨j, -, rfl⟩ := List.mem_map.mp hp
        exact hi
    | false =>
      rw [List.filter_cons_of_neg (by simp [hi]), List.filter_eq_nil_iff.mpr ?_, List.nil_append]
      intro p hp
      obtain ⟨j, -, rfl⟩ := List.mem_map.mp hp
      simp [hi]

/-- The triangle over the positions of a grid. -/
def Place.corners (p : Place) : Triangle (Nat × Nat) := p.triangle Prod.mk

theorem triangle_eq_map (point : Nat → Nat → β) (p : Place) :
    p.triangle point = p.corners.map (fun s => point s.1 s.2) := by
  obtain ⟨half, i, j⟩ := p
  cases half with
  | lower => rfl
  | upper => rfl

/-- The edges of a lower triangle: down, to the right and back. -/
theorem mem_lower {i j : Nat} {d : (Nat × Nat) × (Nat × Nat)} :
    d ∈ (Place.mk .lower i j).corners.edges ↔
      d = ((i, j), (i + 1, j)) ∨ d = ((i + 1, j), (i + 1, j + 1)) ∨ d = ((i + 1, j + 1), (i, j)) :=
  Triangle.mem_edges

/-- The edges of an upper triangle: across, up and to the left. -/
theorem mem_upper {i j : Nat} {d : (Nat × Nat) × (Nat × Nat)} :
    d ∈ (Place.mk .upper i j).corners.edges ↔
      d = ((i, j), (i + 1, j + 1)) ∨ d = ((i + 1, j + 1), (i, j + 1)) ∨ d = ((i, j + 1), (i, j)) :=
  Triangle.mem_edges

/-! ## Labels -/

/-- A position of a grid with `n` cells in each direction. -/
def InGrid (n : Nat) (s : Nat × Nat) : Prop := s.1 ≤ n ∧ s.2 ≤ n

/-- Labels for the positions of a grid, equal just where the positions are the same. -/
def Labels (n : Nat) (same : Nat × Nat → Nat × Nat → Prop) (label : Nat → Nat → β) : Prop :=
  ∀ s t : Nat × Nat, InGrid n s → InGrid n t → (label s.1 s.2 = label t.1 t.2 ↔ same s t)

/-- The corners of a cell lie in the grid. -/
theorem inGrid_corners {n : Nat} {p : Place} (hrow : p.row < n) (hcolumn : p.column < n)
    {d : (Nat × Nat) × (Nat × Nat)} (hd : d ∈ p.corners.edges) : InGrid n d.1 ∧ InGrid n d.2 := by
  obtain ⟨half, i, j⟩ := p
  simp only [InGrid]
  cases half with
  | lower => rcases mem_lower.mp hd with rfl | rfl | rfl <;> simp only at hrow hcolumn ⊢ <;> omega
  | upper => rcases mem_upper.mp hd with rfl | rfl | rfl <;> simp only at hrow hcolumn ⊢ <;> omega

/-- How triangles at some places fit together when some positions are the same: no edge leads from a
    position to the same one, edges that lead between the same positions belong to one place, and every
    edge is there the other way round. -/
structure Fitting (same : Nat × Nat → Nat × Nat → Prop) (places : List Place) : Prop where
  apart : ∀ p ∈ places, ∀ d ∈ p.corners.edges, ¬ same d.1 d.2
  unique : ∀ p ∈ places, ∀ q ∈ places, ∀ d ∈ p.corners.edges, ∀ e ∈ q.corners.edges,
    same d.1 e.1 → same d.2 e.2 → q = p
  opposite : ∀ p ∈ places, ∀ d ∈ p.corners.edges, ∃ q ∈ places, ∃ e ∈ q.corners.edges,
    same d.1 e.2 ∧ same d.2 e.1

/-- The edges of a triangle lead between the labels of its corners. -/
theorem mem_edges_triangle {label : Nat → Nat → β} {p : Place} {e : β × β} :
    e ∈ (p.triangle label).edges ↔
      ∃ d ∈ p.corners.edges, (label d.1.1 d.1.2, label d.2.1 d.2.2) = e := by
  rw [triangle_eq_map, Triangle.edges_map, List.mem_map]
  rfl

namespace Fitting

variable {n : Nat} {same : Nat × Nat → Nat × Nat → Prop} {places : List Place} {label : Nat → Nat → β}

/-- Triangles that fit together are not flat. -/
theorem proper (h : Fitting same places) (hlabel : Labels n same label)
    (hplaces : ∀ p ∈ places, p.row < n ∧ p.column < n) {p : Place} (hp : p ∈ places) :
    (p.triangle label).Proper := by
  rw [Triangle.proper_iff]
  intro e he heq
  obtain ⟨d, hd, rfl⟩ := mem_edges_triangle.mp he
  obtain ⟨hfrom, hto⟩ := inGrid_corners (hplaces p hp).1 (hplaces p hp).2 hd
  exact h.apart p hp d hd ((hlabel d.1 d.2 hfrom hto).mp heq)

/-- Triangles that fit together make up a closed surface over any labels. -/
theorem closed [DecidableEq β] (h : Fitting same places) (hlabel : Labels n same label)
    (hnodup : places.Nodup) (hplaces : ∀ p ∈ places, p.row < n ∧ p.column < n) :
    ClosedSurface (places.map (Place.triangle label)) := by
  have hgrid : ∀ p ∈ places, ∀ d ∈ p.corners.edges, InGrid n d.1 ∧ InGrid n d.2 := by
    intro p hp d hd
    exact inGrid_corners (hplaces p hp).1 (hplaces p hp).2 hd
  refine closedSurface_of hnodup ?proper ?unique ?opposite
  case proper =>
    intro p hp
    exact h.proper hlabel hplaces hp
  case unique =>
    -- equal labels are at positions that are the same, and such edges belong to one place
    intro p hp q hq e he he'
    obtain ⟨d, hd, rfl⟩ := mem_edges_triangle.mp he
    obtain ⟨d', hd', heq⟩ := mem_edges_triangle.mp he'
    obtain ⟨hfrom, hto⟩ := Prod.mk.inj heq
    have hin := hgrid p hp d hd
    have hin' := hgrid q hq d' hd'
    exact h.unique p hp q hq d hd d' hd' ((hlabel d.1 d'.1 hin.1 hin'.1).mp hfrom.symm)
      ((hlabel d.2 d'.2 hin.2 hin'.2).mp hto.symm)
  case opposite =>
    intro p hp e he
    obtain ⟨d, hd, rfl⟩ := mem_edges_triangle.mp he
    obtain ⟨q, hq, d', hd', hfrom, hto⟩ := h.opposite p hp d hd
    have hin := hgrid p hp d hd
    have hin' := hgrid q hq d' hd'
    refine ⟨q, hq, mem_edges_triangle.mpr ⟨d', hd', ?_⟩⟩
    rw [← (hlabel d.1 d'.2 hin.1 hin'.2).mpr hfrom, ← (hlabel d.2 d'.1 hin.2 hin'.1).mpr hto]
    rfl

end Fitting

/-! ## Rows and columns that meet -/

/-- The first and the last of `n + 1` rows or columns meet. -/
def Meet (n i j : Nat) : Prop := i = j ∨ i = 0 ∧ j = n ∨ i = n ∧ j = 0

section

variable {n : Nat}

theorem Meet.refl (i : Nat) : Meet n i i := .inl rfl

theorem Meet.symm {i j : Nat} (h : Meet n i j) : Meet n j i := by
  unfold Meet at h ⊢
  omega

/-- Before every column there is one; before the first it is the last. -/
theorem exists_before {j : Nat} (h : j < n) : ∃ k, k < n ∧ Meet n j (k + 1) := by
  by_cases hj : j = 0
  · exact ⟨n - 1, by omega, .inr (.inl ⟨hj, by omega⟩)⟩
  · exact ⟨j - 1, by omega, .inl (by omega)⟩

/-- After every column there is one; after the last it is the first. -/
theorem exists_after {j : Nat} (h : j < n) : ∃ k, k < n ∧ Meet n (j + 1) k := by
  by_cases hj : j + 1 = n
  · exact ⟨0, by omega, .inr (.inr ⟨hj, rfl⟩)⟩
  · exact ⟨j + 1, by omega, .inl rfl⟩

/-- Remainders are equal where the first and the last meet. -/
theorem mod_eq_mod_iff {i j : Nat} (hn : 0 < n) (hi : i ≤ n) (hj : j ≤ n) :
    i % n = j % n ↔ Meet n i j := by
  have hmod : ∀ {k}, k ≤ n → k % n = if k = n then 0 else k := by
    intro k hk
    split
    · next heq => rw [heq, Nat.mod_self]
    · next hne => exact Nat.mod_eq_of_lt (by omega)
  rw [hmod hi, hmod hj]
  unfold Meet
  split <;> split <;> omega

end

end Wireframe.Solid
