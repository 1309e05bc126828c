import Wireframe.Proofs.Geometry.Sound

/-!
# `Wireframe.Proofs.Geometry.Concat` — unions of polylines

A union where both parts have vertices has the polylines of both. A part without vertices adds nothing,
which loses its polylines if it has any: they have no vertices, so nothing of them is ever drawn, but they
are polylines all the same. Vertices, and the polylines that have some, are always kept.

## Contents
- `length_polylines`, `flatten_polylines`: counting polylines and vertices.
- `concat_cases`, `concat_vertexCount`: unions by cases.
- `Hollow`, `Joins`, `polylines_concat_iff`, `lineCount_concat_iff`: when a union has all polylines.
- `drawable_concat`: the polylines that have vertices.
- `concat_assoc`, `concat_empty_iff`: laws of unions.
- `union_laws`: all of it; `hollow_lost`: a polyline that a union loses.
-/

namespace Wireframe.Geometry

variable {α : Type} {g h k : Geometry α}

/-! ## Counting -/

theorem length_cut (start : Nat) (stops : List Nat) (ps : List (Vec3 α)) :
    (cut start stops ps).length = stops.length := by
  induction stops generalizing start ps with
  | nil => rfl
  | cons stop stops ih => rw [cut, List.length_cons, List.length_cons, ih]

theorem length_polylines (hg : g.Valid) : g.polylines.length = g.lineCount := by
  obtain ⟨stops, hoffsets, -⟩ := valid_iff.mp hg
  rw [polylines, lineCount, hoffsets, length_cut, List.length_cons, Nat.add_sub_cancel]

theorem flatten_cut {start last : Nat} {stops : List Nat} {ps : List (Vec3 α)} (h : Fits start stops last)
    (hlast : last = start + ps.length) : (cut start stops ps).flatten = ps := by
  induction h generalizing ps with
  | nil start =>
    obtain rfl : ps = [] := List.eq_nil_of_length_eq_zero (by omega)
    rfl
  | @cons start stop last stops hle h ih =>
    have hmost := h.le
    have hrest : last = stop + (ps.drop (stop - start)).length := by
      rw [List.length_drop]
      omega
    rw [cut, List.flatten_cons, ih hrest, List.take_append_drop]

/-- The vertices are those of the polylines one after the other. -/
theorem flatten_polylines (hg : g.Valid) : g.polylines.flatten = g.points := by
  obtain ⟨stops, hoffsets, hfits⟩ := valid_iff.mp hg
  rw [polylines, hoffsets]
  exact flatten_cut hfits (Nat.zero_add _).symm

/-- Without vertices every polyline is empty. -/
theorem eq_nil_of_mem_polylines (hg : g.Valid) (hempty : g.isEmpty = true) {line : List (Vec3 α)}
    (hline : line ∈ g.polylines) : line = [] := by
  have hflat := flatten_polylines hg
  rw [List.isEmpty_iff.mp hempty, List.flatten_eq_nil_iff] at hflat
  exact hflat line hline

/-! ## Unions by cases -/

theorem concat_of_isEmpty (hg : g.isEmpty = true) (h : Geometry α) : g.concat h = h := if_pos hg

theorem concat_isEmpty (hg : g.isEmpty = false) (hh : h.isEmpty = true) : g.concat h = g := by
  rw [concat, hg, hh]
  rfl

/-- A union is one of its parts, where the other has no vertices, or both one after the other. -/
theorem concat_cases (g h : Geometry α) :
    (g.isEmpty = true ∧ g.concat h = h) ∨
    (g.isEmpty = false ∧ h.isEmpty = true ∧ g.concat h = g) ∨
    (g.isEmpty = false ∧ h.isEmpty = false ∧
      g.concat h = ⟨g.points ++ h.points, g.offsets ++ h.offsets.tail.map (· + g.points.length)⟩) := by
  cases hg : g.isEmpty with
  | true => exact .inl ⟨rfl, concat_of_isEmpty hg h⟩
  | false =>
    cases hh : h.isEmpty with
    | true => exact .inr (.inl ⟨rfl, rfl, concat_isEmpty hg hh⟩)
    | false => exact .inr (.inr ⟨rfl, rfl, concat_eq hg hh⟩)

theorem isEmpty_concat (g h : Geometry α) : (g.concat h).isEmpty = (g.isEmpty && h.isEmpty) := by
  obtain ⟨hg, hunion⟩ | ⟨hg, -, hunion⟩ | ⟨hg, -, hunion⟩ := concat_cases g h
  · rw [hunion, hg, Bool.true_and]
  · rw [hunion, hg, Bool.false_and]
  · have hpoints : g.points ++ h.points ≠ [] :=
      List.append_ne_nil_of_left_ne_nil (List.isEmpty_eq_false_iff.mp hg) _
    rw [hunion, hg, Bool.false_and]
    exact List.isEmpty_eq_false_iff.mpr hpoints

theorem vertexCount_of_isEmpty (hg : g.isEmpty = true) : g.vertexCount = 0 := by
  rw [vertexCount, List.isEmpty_iff.mp hg, List.length_nil]

theorem concat_vertexCount (g h : Geometry α) :
    (g.concat h).vertexCount = g.vertexCount + h.vertexCount := by
  obtain ⟨hg, hunion⟩ | ⟨-, hh, hunion⟩ | ⟨-, -, hunion⟩ := concat_cases g h
  · rw [hunion, vertexCount_of_isEmpty hg, Nat.zero_add]
  · rw [hunion, vertexCount_of_isEmpty hh, Nat.add_zero]
  · rw [hunion]
    exact List.length_append

/-! ## Polylines -/

/-- Polylines, but no vertices. -/
def Hollow (g : Geometry α) : Prop := g.isEmpty = true ∧ g.lineCount ≠ 0

/-- Nothing is lost when two geometries are joined: the first is not hollow, and the second is not hollow
    either unless the first has no polylines. -/
def Joins (g h : Geometry α) : Prop := ¬ g.Hollow ∧ (g.lineCount = 0 ∨ ¬ h.Hollow)

theorem polylines_eq_nil_iff (hg : g.Valid) : g.polylines = [] ↔ g.lineCount = 0 := by
  rw [← length_polylines hg, List.length_eq_zero_iff]

/-- A geometry with vertices has polylines. -/
theorem isEmpty_of_lineCount (hg : g.Valid) (hcount : g.lineCount = 0) : g.isEmpty = true := by
  have hflat := flatten_polylines hg
  rw [(polylines_eq_nil_iff hg).mpr hcount, List.flatten_nil] at hflat
  rw [isEmpty, ← hflat]
  rfl

theorem not_hollow_iff (hg : g.isEmpty = true) : ¬ g.Hollow ↔ g.lineCount = 0 := by
  simp [Hollow, hg]

theorem not_hollow_of_vertices (hg : g.isEmpty = false) : ¬ g.Hollow := by
  simp [Hollow, hg]

/-- **The polylines of a union.** It has those of both unless a part that it leaves out is hollow. -/
theorem polylines_concat_iff (hg : g.Valid) (hh : h.Valid) :
    (g.concat h).polylines = g.polylines ++ h.polylines ↔ Joins g h := by
  rw [Joins]
  obtain ⟨hgempty, hunion⟩ | ⟨hgempty, hhempty, hunion⟩ | ⟨hgempty, hhempty, -⟩ := concat_cases g h
  · rw [hunion, not_hollow_iff hgempty, List.self_eq_append_left, polylines_eq_nil_iff hg]
    constructor
    · intro hcount
      exact ⟨hcount, .inl hcount⟩
    · rintro ⟨hcount, -⟩
      exact hcount
  · rw [hunion, not_hollow_iff hhempty, List.self_eq_append_right, polylines_eq_nil_iff hh]
    constructor
    · intro hcount
      exact ⟨not_hollow_of_vertices hgempty, .inr hcount⟩
    · rintro ⟨-, hnone | hcount⟩
      · rw [isEmpty_of_lineCount hg hnone] at hgempty
        cases hgempty
      · exact hcount
  · constructor
    · intro _
      exact ⟨not_hollow_of_vertices hgempty, .inr (not_hollow_of_vertices hhempty)⟩
    · intro _
      exact polylines_concat hg hh hgempty hhempty

/-- Polylines are missing exactly if their numbers do not add up. -/
theorem lineCount_concat_iff (hg : g.Valid) (hh : h.Valid) :
    (g.concat h).lineCount = g.lineCount + h.lineCount ↔ Joins g h := by
  rw [← polylines_concat_iff hg hh]
  constructor
  · intro hsum
    obtain ⟨-, hunion⟩ | ⟨-, -, hunion⟩ | ⟨hgempty, hhempty, -⟩ := concat_cases g h
    · rw [hunion] at hsum ⊢
      rw [(polylines_eq_nil_iff hg).mpr (by omega), List.nil_append]
    · rw [hunion] at hsum ⊢
      rw [(polylines_eq_nil_iff hh).mpr (by omega), List.append_nil]
    · exact polylines_concat hg hh hgempty hhempty
  · intro hlines
    rw [← length_polylines (hg.concat hh), hlines, List.length_append, length_polylines hg,
      length_polylines hh]

/-- The polylines that have vertices. -/
def drawable (g : Geometry α) : List (List (Vec3 α)) := g.polylines.filter fun line => !line.isEmpty

theorem drawable_of_isEmpty (hg : g.Valid) (hempty : g.isEmpty = true) : g.drawable = [] := by
  rw [drawable, List.filter_eq_nil_iff]
  intro line hline
  rw [eq_nil_of_mem_polylines hg hempty hline]
  exact Bool.false_ne_true

/-- **What has vertices is never lost.** -/
theorem drawable_concat (hg : g.Valid) (hh : h.Valid) :
    (g.concat h).drawable = g.drawable ++ h.drawable := by
  obtain ⟨hgempty, hunion⟩ | ⟨-, hhempty, hunion⟩ | ⟨hgempty, hhempty, -⟩ := concat_cases g h
  · rw [hunion, drawable_of_isEmpty hg hgempty, List.nil_append]
  · rw [hunion, drawable_of_isEmpty hh hhempty, List.append_nil]
  · rw [drawable, polylines_concat hg hh hgempty hhempty, List.filter_append]
    rfl

/-! ## Laws -/

theorem concat_assoc (g : Geometry α) (hh : h.Valid) (k : Geometry α) :
    (g.concat h).concat k = g.concat (h.concat k) := by
  obtain ⟨hgempty, hgh⟩ | ⟨-, hhempty, hgh⟩ | ⟨hgempty, hhempty, hgh⟩ := concat_cases g h
  · rw [hgh, concat_of_isEmpty hgempty]
  · rw [hgh, concat_of_isEmpty hhempty]
  · have hvertices : (g.concat h).isEmpty = false := by rw [isEmpty_concat, hgempty, Bool.false_and]
    obtain ⟨hfalse, -⟩ | ⟨-, hkempty, hhk⟩ | ⟨-, hkempty, hhk⟩ := concat_cases h k
    · rw [hhempty] at hfalse
      cases hfalse
    · rw [hhk, concat_isEmpty hvertices hkempty]
    · have hmore : (h.concat k).isEmpty = false := by rw [isEmpty_concat, hhempty, Bool.false_and]
      obtain ⟨stops, hoffsets, -⟩ := valid_iff.mp hh
      rw [concat_eq hvertices hkempty, concat_eq hgempty hmore, hgh, hhk]
      -- the offsets of the third part move by the vertices of the first and of the second
      have hshift : (· + (g.points ++ h.points).length) =
          (· + g.points.length) ∘ (· + h.points.length) := by
        funext n
        simp only [List.length_append, Function.comp_apply]
        omega
      simp only [hoffsets, List.cons_append, List.tail_cons, List.append_assoc, List.map_append,
        List.map_map, hshift]

theorem eq_empty_of_lineCount (hg : g.Valid) (hcount : g.lineCount = 0) : g = empty := by
  obtain ⟨stops, hoffsets, -⟩ := valid_iff.mp hg
  have hpoints := List.isEmpty_iff.mp (isEmpty_of_lineCount hg hcount)
  rw [lineCount, hoffsets, List.length_cons, Nat.add_sub_cancel, List.length_eq_zero_iff] at hcount
  rw [hcount] at hoffsets
  obtain ⟨points, offsets⟩ := g
  cases hpoints
  cases hoffsets
  rfl

theorem concat_empty_iff (hg : g.Valid) : g.concat empty = g ↔ ¬ g.Hollow := by
  cases hgempty : g.isEmpty with
  | true =>
    rw [concat_of_isEmpty hgempty, not_hollow_iff hgempty]
    constructor
    · intro heq
      rw [← heq]
      rfl
    · intro hcount
      exact (eq_empty_of_lineCount hg hcount).symm
  | false =>
    constructor
    · intro _
      exact not_hollow_of_vertices hgempty
    · intro _
      exact concat_isEmpty hgempty rfl

/-- **Laws of unions.** A union of valid geometries is valid, has the vertices of both and all polylines
    with vertices, in order, and it does not matter how three geometries are put together. It has all
    polylines exactly if the first is not hollow and the second is not hollow either, unless the first has
    no polylines; then and only then their numbers add up. The geometry without polylines changes nothing
    in front, and nothing behind what is not hollow. -/
theorem union_laws (hg : g.Valid) (hh : h.Valid) (k : Geometry α) :
    (g.concat h).Valid ∧
    ((g.concat h).polylines = g.polylines ++ h.polylines ↔ Joins g h) ∧
    ((g.concat h).lineCount = g.lineCount + h.lineCount ↔ Joins g h) ∧
    (g.concat h).vertexCount = g.vertexCount + h.vertexCount ∧
    (g.concat h).drawable = g.drawable ++ h.drawable ∧
    (g.concat h).concat k = g.concat (h.concat k) ∧
    empty.concat g = g ∧ (g.concat empty = g ↔ ¬ g.Hollow) :=
  ⟨hg.concat hh, polylines_concat_iff hg hh, lineCount_concat_iff hg hh, concat_vertexCount g h,
    drawable_concat hg hh, concat_assoc g hh k, concat_of_isEmpty rfl g, concat_empty_iff hg⟩

/-- A segment, and a polyline without vertices before a single point: nothing is lost. -/
theorem union_laws_segment_point :
    (ofPolylines [[⟨0, 0, 0⟩, ⟨1, 1, 1⟩]] : Geometry Float).Valid ∧
    (ofPolylines [[], [⟨2, 2, 2⟩]] : Geometry Float).Valid ∧
    ((ofPolylines [[⟨0, 0, 0⟩, ⟨1, 1, 1⟩]] : Geometry Float).concat
      (ofPolylines [[], [⟨2, 2, 2⟩]])).polylines = [[⟨0, 0, 0⟩, ⟨1, 1, 1⟩], [], [⟨2, 2, 2⟩]] :=
  ⟨valid_ofPolylines _, valid_ofPolylines _,
    (union_laws (valid_ofPolylines _) (valid_ofPolylines _) empty).2.1.mpr
      ⟨fun hhollow => Bool.false_ne_true hhollow.1, .inr fun hhollow => Bool.false_ne_true hhollow.1⟩⟩

/-- A polyline without vertices in front of a segment is lost. -/
theorem hollow_lost :
    (ofPolylines [[]] : Geometry Float).Valid ∧
    (ofPolylines [[⟨0, 0, 0⟩, ⟨1, 1, 1⟩]] : Geometry Float).Valid ∧
    ((ofPolylines [[]] : Geometry Float).concat (ofPolylines [[⟨0, 0, 0⟩, ⟨1, 1, 1⟩]])).lineCount = 1 ∧
    ((ofPolylines [[]] : Geometry Float).concat (ofPolylines [[⟨0, 0, 0⟩, ⟨1, 1, 1⟩]])).polylines ≠
      (ofPolylines [[]] : Geometry Float).polylines ++
        (ofPolylines [[⟨0, 0, 0⟩, ⟨1, 1, 1⟩]] : Geometry Float).polylines := by
  refine ⟨valid_ofPolylines _, valid_ofPolylines _, rfl, fun heq => ?_⟩
  have hcount := congrArg List.length heq
  cases hcount

end Wireframe.Geometry
