import Wireframe.Proofs.Tensor
import Wireframe.Proofs.Geometry.Concat

/-!
# `Wireframe.Proofs.Geometry.Lines` — a geometry keeps the lines it is built of

A line comes as an array of coordinates in one of three layouts: in threes one after the other, or in rows
of two or three. Every other shape is refused. What is built of lines has a polyline for each of them, also
for those without vertices, and a polyline is what stands between two offsets.

## Contents
- `getElem_cut`, `Valid.slice`: a polyline between its offsets.
- `Line`, `LineShape`: the layouts, and the shapes that they have.
- `lineOf_of_line`, `exists_line`, `lineOf_refused`: reading one line.
- `linesOf_eq_mapM`, `linesOf_forall₂`, `ofLines_error_iff`: reading all of them.
- `triangleOf_slice`, `ofTriangleArray_eq`: triangles are lines of three vertices.
- `lines_kept`: the geometry of a list of lines.
-/

namespace Wireframe.Geometry

variable {α : Type}

/-! ## A polyline between its offsets -/

theorem getElem_cut {ps line : List (Vec3 α)} {start last i : Nat} {stops : List Nat}
    (h : Fits start stops last) (hline : (cut start stops (ps.drop start))[i]? = some line) :
    ∃ a b, (start :: stops)[i]? = some a ∧ stops[i]? = some b ∧ (ps.drop a).take (b - a) = line := by
  induction h generalizing i with
  | nil => cases hline
  | @cons start stop last stops hle h ih =>
    have hdrop : (ps.drop start).drop (stop - start) = ps.drop stop := by
      rw [List.drop_drop, Nat.add_sub_cancel' hle]
    rw [cut, hdrop] at hline
    cases i with
    | zero =>
      cases hline
      exact ⟨start, stop, rfl, rfl, rfl⟩
    | succ i => exact ih hline

/-- A polyline consists of the vertices between its offset and the next one. -/
theorem Valid.slice {g : Geometry α} (hg : g.Valid) {i : Nat} {line : List (Vec3 α)}
    (h : g.polylines[i]? = some line) :
    ∃ start stop, g.offsets[i]? = some start ∧ g.offsets[i + 1]? = some stop ∧
      (g.points.drop start).take (stop - start) = line := by
  obtain ⟨stops, hoffsets, hfits⟩ := valid_iff.mp hg
  rw [polylines, hoffsets] at h
  rw [hoffsets]
  exact getElem_cut hfits h

/-! ## The layouts of a line -/

variable [Scalar α]

/-- What the vertices are that an array of coordinates stands for. -/
inductive Line : Tensor α → List (Vec3 α) → Prop
  /-- Coordinates one after the other, in threes. -/
  | flat (ps : List (Vec3 α)) : Line ⟨[3 * ps.length], ps.flatMap Vec3.toList⟩ ps
  /-- Rows of three coordinates. -/
  | rows (ps : List (Vec3 α)) : Line ⟨[ps.length, 3], ps.flatMap Vec3.toList⟩ ps
  /-- Rows of two coordinates, which lie in the plane `z = 0`. -/
  | plane (qs : List (α × α)) :
    Line ⟨[qs.length, 2], qs.flatMap fun q => [q.1, q.2]⟩ (qs.map fun q => ⟨q.1, q.2, Scalar.zero⟩)

/-- One axis whose length is a multiple of three, or two axes and two or three columns. -/
def LineShape (shape : List Nat) : Prop :=
  (∃ n, shape = [3 * n]) ∨ (∃ n, shape = [n, 2]) ∨ ∃ n, shape = [n, 3]

section
omit [Scalar α]

theorem filterMap_pointOfRow (ps : List (Vec3 α)) :
    (ps.map Vec3.toList).filterMap Matrix.pointOfRow? = ps := by
  rw [List.filterMap_map]
  exact List.filterMap_some

theorem length_row (ps : List (Vec3 α)) : ∀ r ∈ ps.map Vec3.toList, r.length = 3 := by
  intro r hr
  obtain ⟨p, -, rfl⟩ := List.mem_map.mp hr
  rfl

theorem pointsOf_flatMap (shape : List Nat) (ps : List (Vec3 α)) :
    Matrix.pointsOf ⟨shape, ps.flatMap Vec3.toList⟩ = .ok ps := by
  have hlength : (ps.flatMap Vec3.toList).length = ps.length * 3 := by
    simp [List.length_flatMap, Vec3.toList]
  have hrows := Tensor.chunks_flatten (length_row ps)
  rw [List.length_map] at hrows
  rw [Matrix.pointsOf, Tensor.rows?, hlength, Nat.mul_mod_left,
    if_pos (beq_self_eq_true 0), Nat.mul_div_cancel _ (by decide), List.flatMap_def, hrows]
  exact congrArg Except.ok (filterMap_pointOfRow ps)

/-- Rows of three numbers are points. -/
theorem exists_points {rows : List (List α)} (h : ∀ r ∈ rows, r.length = 3) :
    ∃ ps : List (Vec3 α), rows = ps.map Vec3.toList := by
  have hrange : rows ∈ Set.range (List.map Vec3.toList) := by
    rw [Set.range_list_map]
    intro r hr
    obtain ⟨x, y, z, rfl⟩ := List.length_eq_three.mp (h r hr)
    exact ⟨⟨x, y, z⟩, rfl⟩
  obtain ⟨ps, rfl⟩ := hrange
  exact ⟨ps, rfl⟩

/-- Rows of two numbers are pairs. -/
theorem exists_pairs {rows : List (List α)} (h : ∀ r ∈ rows, r.length = 2) :
    ∃ qs : List (α × α), rows = qs.map fun q => [q.1, q.2] := by
  have hrange : rows ∈ Set.range (List.map fun q : α × α => [q.1, q.2]) := by
    rw [Set.range_list_map]
    intro r hr
    obtain ⟨x, y, rfl⟩ := List.length_eq_two.mp (h r hr)
    exact ⟨(x, y), rfl⟩
  obtain ⟨qs, rfl⟩ := hrange
  exact ⟨qs, rfl⟩

end

theorem lineOf_of_line {t : Tensor α} {ps : List (Vec3 α)} (h : Line t ps) : lineOf t = .ok ps := by
  cases h with
  | flat =>
    rw [lineOf]
    simp only [Nat.mul_mod_right, bne_self_eq_false, Bool.false_eq_true, if_false]
    exact pointsOf_flatMap _ ps
  | rows =>
    have hrows := Tensor.map_entries_slices (length_row ps)
    rw [List.length_map, ← List.flatMap_def] at hrows
    rw [lineOf]
    simp only [hrows, filterMap_pointOfRow]
  | plane qs =>
    have hlength : ∀ r ∈ qs.map fun q => [q.1, q.2], r.length = 2 := by
      intro r hr
      obtain ⟨q, -, rfl⟩ := List.mem_map.mp hr
      rfl
    have hrows := Tensor.map_entries_slices hlength
    rw [List.length_map, ← List.flatMap_def] at hrows
    rw [lineOf]
    simp only [hrows]
    rw [List.filterMap_map, ← List.filterMap_eq_map]
    rfl

/-- An array of one of the shapes is a line. -/
theorem exists_line {t : Tensor α} (ht : t.Full) (hshape : LineShape t.shape) : ∃ ps, Line t ps := by
  rcases hshape with ⟨n, hshape⟩ | ⟨n, hshape⟩ | ⟨n, hshape⟩
  · have hlength : t.entries.length = n * 3 := by
      rw [ht, hshape, Tensor.count_cons, Tensor.count_nil, Nat.mul_one, Nat.mul_comm]
    obtain ⟨rows, rfl, hrows, hentries⟩ := Tensor.exists_rows hlength
    obtain ⟨ps, rfl⟩ := exists_points hrows
    obtain ⟨shape, entries⟩ := t
    cases hshape
    cases hentries
    rw [List.length_map, ← List.flatMap_def]
    exact ⟨ps, .flat ps⟩
  · obtain ⟨rows, -, hrows, rfl⟩ := ht.exists_rows hshape
    obtain ⟨qs, rfl⟩ := exists_pairs hrows
    rw [List.length_map, ← List.flatMap_def]
    exact ⟨_, .plane qs⟩
  · obtain ⟨rows, -, hrows, rfl⟩ := ht.exists_rows hshape
    obtain ⟨ps, rfl⟩ := exists_points hrows
    rw [List.length_map, ← List.flatMap_def]
    exact ⟨ps, .rows ps⟩

/-- An array of another shape is refused. -/
theorem lineOf_refused {t : Tensor α} (h : ¬ LineShape t.shape) :
    ∃ e, lineOf t = .error e ∧ e.kind = .value := by
  unfold lineOf
  split
  · next n hshape =>
    split
    · exact ⟨.flatLength, rfl, rfl⟩
    · next hmod =>
      refine absurd (.inl ⟨n / 3, ?_⟩) h
      rw [hshape, Nat.mul_div_cancel' (Nat.dvd_of_mod_eq_zero (by simpa using hmod))]
  · next n hshape => exact absurd (.inr (.inl ⟨n, hshape⟩)) h
  · next n hshape => exact absurd (.inr (.inr ⟨n, hshape⟩)) h
  · exact ⟨.lineShape t.shape, rfl, rfl⟩

/-! ## Lists of lines -/

theorem linesOf_eq_mapM (ts : List (Tensor α)) : linesOf (ts.map .ok) = ts.mapM lineOf := by
  induction ts with
  | nil => rfl
  | cons t ts ih =>
    rw [List.map_cons, linesOf, ih, List.mapM_cons]
    rfl

/-- Lines of the right shapes are all read. -/
theorem linesOf_forall₂ {ts : List (Tensor α)} (hfull : ∀ t ∈ ts, t.Full)
    (hshape : ∀ t ∈ ts, LineShape t.shape) :
    ∃ lines, linesOf (ts.map .ok) = .ok lines ∧ List.Forall₂ Line ts lines := by
  rw [linesOf_eq_mapM]
  induction ts with
  | nil => exact ⟨[], rfl, .nil⟩
  | cons t ts ih =>
    obtain ⟨ht, hfull⟩ := List.forall_mem_cons.mp hfull
    obtain ⟨hts, hshape⟩ := List.forall_mem_cons.mp hshape
    obtain ⟨ps, hps⟩ := exists_line ht hts
    obtain ⟨lines, hlines, hall⟩ := ih hfull hshape
    exact ⟨ps :: lines, by rw [List.mapM_cons, lineOf_of_line hps, hlines]; rfl, .cons hps hall⟩

/-- A line of another shape is refused, whatever the others are. -/
theorem ofLines_error_iff {ts : List (Tensor α)} (hfull : ∀ t ∈ ts, t.Full) :
    (∃ e, ofLines (ts.map .ok) = .error e ∧ e.kind = .value) ↔ ∃ t ∈ ts, ¬ LineShape t.shape := by
  constructor
  · rintro ⟨e, he, -⟩
    by_contra hno
    push Not at hno
    obtain ⟨lines, hlines, -⟩ := linesOf_forall₂ hfull hno
    rw [ofLines, hlines] at he
    cases he
  · rintro ⟨t, ht, hshape⟩
    cases hlines : linesOf (ts.map .ok) with
    | ok lines =>
      rw [linesOf_eq_mapM] at hlines
      obtain ⟨line, hline⟩ := (mapM_results hlines).2 t ht
      obtain ⟨e, he, -⟩ := lineOf_refused hshape
      rw [he] at hline
      cases hline
    | error e =>
      refine ⟨e, by rw [ofLines, hlines]; rfl, ?_⟩
      -- the failure is that of the first line that is refused
      rw [linesOf_eq_mapM] at hlines
      obtain ⟨before, s, after, rfl, -, hs⟩ := mapM_error_iff.mp hlines
      have hs' : ¬ LineShape s.shape := by
        intro hgood
        obtain ⟨ps, hps⟩ := exists_line (hfull s (by simp)) hgood
        rw [lineOf_of_line hps] at hs
        cases hs
      obtain ⟨e', he', hkind⟩ := lineOf_refused hs'
      rw [hs] at he'
      cases he'
      exact hkind

/-! ## Triangles -/

/-- A part of an array of triangles is a triangle, and a line of its three corners. -/
theorem triangleOf_slice {t : Tensor α} (ht : t.Full) (hshape : t.shape = [3, 3]) :
    ∃ c : Triangle (Vec3 α), triangleOf? t = some c ∧ Line t c.toList := by
  obtain ⟨rows, hlength, hrows, rfl⟩ := ht.exists_rows hshape
  have hentries := Tensor.map_entries_slices hrows
  obtain ⟨ps, rfl⟩ := exists_points hrows
  rw [List.length_map] at hlength
  obtain ⟨a, b, c, rfl⟩ := List.length_eq_three.mp hlength
  refine ⟨⟨a, b, c⟩, ?_, .rows [a, b, c]⟩
  have hcorners : (Tensor.slices ⟨[3, 3], ([a, b, c].map Vec3.toList).flatten⟩).filterMap
      (fun r => Matrix.pointOfRow? r.entries) = [a, b, c] := by
    rw [← filterMap_pointOfRow [a, b, c], ← hentries, List.filterMap_map]
    rfl
  unfold triangleOf?
  simp only [List.length_map, List.length_cons, List.length_nil] at hcorners ⊢
  rw [hcorners]

theorem linesOf_triangles {parts : List (Tensor α)} (h : ∀ p ∈ parts, p.Full ∧ p.shape = [3, 3]) :
    linesOf (parts.map .ok) = .ok ((parts.filterMap triangleOf?).map Triangle.toList) := by
  induction parts with
  | nil => rfl
  | cons p parts ih =>
    obtain ⟨⟨hp, hshape⟩, hparts⟩ := List.forall_mem_cons.mp h
    obtain ⟨c, hc, hline⟩ := triangleOf_slice hp hshape
    rw [List.map_cons, linesOf, ih hparts, List.filterMap_cons_some hc, List.map_cons]
    show (do let line ← lineOf p; _) = _
    rw [lineOf_of_line hline]
    rfl

/-- **Triangles are lines of three vertices.** -/
theorem ofTriangleArray_eq {t : Tensor α} (ht : t.Full) {k : Nat} (hshape : t.shape = [k, 3, 3]) :
    ofTriangleArray t = ofLines (t.slices.map .ok) := by
  have hparts : ∀ p ∈ t.slices, p.Full ∧ p.shape = [3, 3] :=
    fun p hp => ⟨ht.slice hp, Tensor.shape_of_mem_slices hshape hp⟩
  rw [ofLines, linesOf_triangles hparts, ofTriangleArray, hshape]
  split
  · next hempty =>
    -- no entries means no triangles
    have hk : k = 0 := by
      rw [List.isEmpty_iff] at hempty
      rw [Tensor.Full, hempty, hshape] at ht
      simp only [Tensor.count_cons, Tensor.count_nil, List.length_nil] at ht
      omega
    have hslices : t.slices = [] := by
      rw [Tensor.slices, hshape, hk]
      rfl
    rw [hslices]
    rfl
  · rw [ofTriangles_eq]
    simp only [Except.map, List.map_map]
    rfl

/-! ## What a geometry is built of -/

/-- **Lines are kept.** Lines are refused if and only if one of them has none of the shapes. Otherwise the
    geometry is valid and has as many polylines as lines; between an offset and the next one stand the
    vertices of that line, each coordinate rounded to single precision. Triangles are kept as lines of their
    three corners. -/
theorem lines_kept {ts : List (Tensor Float)} (hfull : ∀ t ∈ ts, t.Full) :
    ((∃ e, ofLines (ts.map .ok) = .error e ∧ e.kind = .value) ↔ ∃ t ∈ ts, ¬ LineShape t.shape) ∧
    ((∀ t ∈ ts, LineShape t.shape) → ∃ g, ofLines (ts.map .ok) = .ok g ∧ g.Valid ∧
      g.lineCount = ts.length ∧ ∀ i t, ts[i]? = some t → ∃ ps start stop, Line t ps ∧
        g.offsets[i]? = some start ∧ g.offsets[i + 1]? = some stop ∧
        (g.points.drop start).take (stop - start) = ps.map (Vec3.map Decimal.single)) ∧
    (∀ (t : Tensor Float) k, t.Full → t.shape = [k, 3, 3] →
      ofTriangleArray t = ofLines (t.slices.map .ok)) := by
  refine ⟨ofLines_error_iff hfull, fun hshape => ?_, fun t k ht hk => ofTriangleArray_eq ht hk⟩
  obtain ⟨lines, hlines, hall⟩ := linesOf_forall₂ hfull hshape
  have hvalid := valid_ofPolylines (lines.map (List.map store))
  refine ⟨_, by rw [ofLines, hlines]; rfl, hvalid, ?_, ?_⟩
  · rw [← length_polylines hvalid, polylines_ofPolylines, List.length_map, hall.length_eq]
  · intro i t ht
    obtain ⟨hi, rfl⟩ := List.getElem?_eq_some_iff.mp ht
    have hi' : i < lines.length := hall.length_eq ▸ hi
    have hpolyline : (ofPolylines (lines.map (List.map store))).polylines[i]? = some (lines[i].map store) := by
      rw [polylines_ofPolylines, List.getElem?_map, List.getElem?_eq_getElem hi']
      rfl
    obtain ⟨start, stop, hstart, hstop, hslice⟩ := hvalid.slice hpolyline
    exact ⟨lines[i], start, stop, (List.forall₂_iff_get.mp hall).2 i hi hi', hstart, hstop, hslice⟩

/-- Coordinates in threes, a line without vertices, and a row of two coordinates: the last of them is the
    point behind the two of the first line. -/
theorem lines_kept_layouts :
    (∀ t ∈ ([⟨[6], [0.0, 0.0, 0.0, 1.0, 1.0, 1.0]⟩, ⟨[0], []⟩, ⟨[1, 2], [0.1, 2.0]⟩] : List (Tensor Float)),
      t.Full ∧ LineShape t.shape) ∧
    ∃ g, ofLines ([⟨[6], [0.0, 0.0, 0.0, 1.0, 1.0, 1.0]⟩, ⟨[0], []⟩, ⟨[1, 2], [0.1, 2.0]⟩].map .ok) = .ok g ∧
      g.lineCount = 3 ∧ ∃ start stop, g.offsets[2]? = some start ∧ g.offsets[3]? = some stop ∧
        (g.points.drop start).take (stop - start) =
          [⟨Decimal.single 0.1, Decimal.single 2.0, Decimal.single 0.0⟩] := by
  have hlayouts : ∀ t ∈ ([⟨[6], [0.0, 0.0, 0.0, 1.0, 1.0, 1.0]⟩, ⟨[0], []⟩, ⟨[1, 2], [0.1, 2.0]⟩] :
      List (Tensor Float)), t.Full ∧ LineShape t.shape := by
    simp only [List.forall_mem_cons, List.not_mem_nil, false_implies, implies_true, and_true]
    exact ⟨⟨rfl, .inl ⟨2, rfl⟩⟩, ⟨rfl, .inl ⟨0, rfl⟩⟩, rfl, .inr (.inl ⟨1, rfl⟩)⟩
  refine ⟨hlayouts, ?_⟩
  obtain ⟨-, hkept, -⟩ := lines_kept fun t ht => (hlayouts t ht).1
  obtain ⟨g, hg, -, hcount, hpolyline⟩ := hkept fun t ht => (hlayouts t ht).2
  refine ⟨g, hg, hcount, ?_⟩
  obtain ⟨ps, start, stop, hline, hstart, hstop, hslice⟩ := hpolyline 2 _ rfl
  obtain rfl : [⟨0.1, 2.0, 0.0⟩] = ps := Except.ok.inj (lineOf_of_line hline)
  exact ⟨start, stop, hstart, hstop, hslice⟩

end Wireframe.Geometry
