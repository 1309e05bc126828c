import Wireframe.Proofs.Geometry.Sound

/-!
# `Wireframe.Proofs.Geometry.Joined` — which vertices are joined

Of the vertices that follow one another in the buffer, those are joined of which the second does not start
a polyline. That is a mask over the buffer, and it knows nothing of polylines: where some of them have no
vertices, several start at one place, or behind the last vertex. What is joined is all the same what each
polyline joins on its own.

## Contents
- `cut_getElem?`, `polylines_getElem?`: a polyline by its number.
- `unbroken`, `openPieces_eq_unbroken`: the mask.
- `linePieces_eq`, `closing_toList`: the pieces of one polyline.
- `segments_by_polyline`: all pieces of a geometry.
-/

namespace Wireframe.Geometry

variable {α : Type} {g : Geometry α}

/-! ## Polylines by their numbers -/

theorem cut_getElem? {start last : Nat} {stops : List Nat} (h : Fits start stops last)
    (ps : List (Vec3 α)) (i : Nat) :
    (cut start stops (ps.drop start))[i]? =
      (start :: stops)[i]?.bind fun a => stops[i]?.map fun b => ps.extract a b := by
  induction h generalizing i with
  | nil start => cases i <;> rfl
  | @cons start stop last stops hle h ih =>
    cases i with
    | zero => rfl
    | succ i =>
      have hdrop : (ps.drop start).drop (stop - start) = ps.drop stop := by
        rw [List.drop_drop, Nat.add_sub_cancel' hle]
      rw [cut, List.getElem?_cons_succ, hdrop, ih i, List.getElem?_cons_succ, List.getElem?_cons_succ]

/-- A polyline has the vertices between its offset and the next one. -/
theorem polylines_getElem? (hg : g.Valid) (i : Nat) :
    g.polylines[i]? =
      g.offsets[i]?.bind fun start => g.offsets[i + 1]?.map fun stop => g.points.extract start stop := by
  obtain ⟨stops, hoffsets, hfits⟩ := valid_iff.mp hg
  rw [polylines, hoffsets, List.getElem?_cons_succ]
  exact cut_getElem? hfits g.points i

/-! ## The mask -/

/-- The pieces from vertex to vertex, except to those that start a polyline. -/
def unbroken (starts : List Nat) (ps : List (Vec3 α)) : List (Segment α) :=
  ((ps.zip ps.tail).zipIdx 1).filterMap fun e =>
    if e.2 ∈ starts then none else some (piece e.1.1 e.1.2)

/-- Starts that are behind are not looked at any more; the others stay. -/
theorem mem_dropWhile_iff {starts : List Nat} {i j : Nat} (h : i < j) :
    j ∈ starts.dropWhile (· ≤ i) ↔ j ∈ starts := by
  constructor
  · intro hj
    exact (List.dropWhile_sublist _).mem hj
  · intro hj
    rw [← List.takeWhile_append_dropWhile (p := (· ≤ i)) (l := starts)] at hj
    rcases List.mem_append.mp hj with hj | hj
    · have hle := List.mem_takeWhile_imp (p := (· ≤ i)) hj
      simp only [decide_eq_true_eq] at hle
      omega
    · exact hj

/-- Of starts in order, the first that is not behind is the next place if any is. -/
theorem head?_dropWhile_iff {starts : List Nat} (h : starts.Pairwise (· ≤ ·)) (i : Nat) :
    (starts.dropWhile (· ≤ i)).head? = some (i + 1) ↔ i + 1 ∈ starts := by
  rw [← mem_dropWhile_iff (Nat.lt_succ_self i)]
  constructor
  · exact List.mem_of_head?
  · intro hmem
    have hsorted := h.sublist (List.dropWhile_sublist (· ≤ i))
    have hahead := List.head?_dropWhile_not (· ≤ i) starts
    cases hdrop : starts.dropWhile (· ≤ i) with
    | nil =>
      rw [hdrop] at hmem
      cases hmem
    | cons a rest =>
      rw [hdrop] at hmem hsorted hahead
      have ha : ¬ a ≤ i := of_decide_eq_false hahead
      rcases List.mem_cons.mp hmem with heq | hrest
      · exact congrArg some heq.symm
      · have hle := (List.pairwise_cons.mp hsorted).1 _ hrest
        exact congrArg some (by omega)

/-- The walk over the buffer does what the mask says. -/
theorem openPieces_eq_unbroken {starts : List Nat} (h : starts.Pairwise (· ≤ ·)) (ps : List (Vec3 α)) :
    openPieces starts 0 ps = unbroken starts ps := by
  have hfrom : ∀ (i : Nat) (starts' : List Nat), starts'.Pairwise (· ≤ ·) →
      (∀ j, i < j → (j ∈ starts' ↔ j ∈ starts)) →
      openPieces starts' i ps = ((ps.zip ps.tail).zipIdx (i + 1)).filterMap fun e =>
        if e.2 ∈ starts then none else some (piece e.1.1 e.1.2) := by
    induction ps with
    | nil => exact fun i starts' _ _ => rfl
    | cons p ps ih =>
      intro i starts' hsorted hsame
      cases ps with
      | nil => exact rfl
      | cons q rest =>
        have hdropped := hsorted.sublist (List.dropWhile_sublist (· ≤ i))
        have hrest := ih (i + 1) (starts'.dropWhile (· ≤ i)) hdropped fun j hj =>
          (mem_dropWhile_iff (by omega)).trans (hsame j (by omega))
        have hnext : ((starts'.dropWhile (· ≤ i)).head? == some (i + 1)) = decide (i + 1 ∈ starts) := by
          rw [Bool.eq_iff_iff, beq_iff_eq, decide_eq_true_iff, head?_dropWhile_iff hsorted,
            hsame (i + 1) (Nat.lt_succ_self i)]
        simp only [openPieces, hnext, hrest, List.tail_cons, List.zip_cons_cons, List.zipIdx_cons,
          List.filterMap_cons]
        by_cases hstart : i + 1 ∈ starts
        · simp [hstart]
        · simp [hstart]
  exact hfrom 0 starts h fun j _ => Iff.rfl

/-! ## One polyline -/

/-- A polyline joins each vertex to the next one. -/
theorem linePieces_eq (ps : List (Vec3 α)) : linePieces ps = ps.zipWith piece ps.tail := by
  induction ps with
  | nil => rfl
  | cons p ps ih =>
    cases ps with
    | nil => rfl
    | cons q rest => rw [linePieces, ih, List.tail_cons, List.tail_cons, List.zipWith_cons_cons]

/-- A polyline of three and more vertices is closed from the last to the first. -/
theorem closing_toList (ps : List (Vec3 α)) :
    (closing? ps).toList = if h : 3 ≤ ps.length then [piece ps[ps.length - 1] ps[0]] else [] := by
  unfold closing?
  split
  · next h =>
    rw [List.getLast?_eq_getElem?, List.head?_eq_getElem?, List.getElem?_eq_getElem (by omega),
      List.getElem?_eq_getElem (by omega)]
    rfl
  · rfl

/-! ## Geometries -/

/-- **Straight pieces, polyline by polyline.** A polyline has the vertices between its offset and the next
    one. The open pieces are those that the mask of starts leaves, and they are, polyline by polyline, the
    pieces from each vertex to the next. Closed, every polyline of three and more vertices adds the piece
    from its last vertex to its first one, behind all open pieces, and no other polyline adds any. -/
theorem segments_by_polyline (hg : g.Valid) :
    (∀ i, g.polylines[i]? = g.offsets[i]?.bind fun start =>
      g.offsets[i + 1]?.map fun stop => g.points.extract start stop) ∧
    g.segments false = unbroken g.offsets.dropLast g.points ∧
    g.segments false = g.polylines.flatMap (fun ps => ps.zipWith piece ps.tail) ∧
    g.segments true = g.segments false ++ g.polylines.flatMap fun ps =>
      if h : 3 ≤ ps.length then [piece ps[ps.length - 1] ps[0]] else [] := by
  have hopen : g.segments false = g.polylines.flatMap linePieces := by
    rw [segments_eq hg, if_neg Bool.false_ne_true, List.append_nil]
  refine ⟨polylines_getElem? hg, ?_, ?_, ?_⟩
  · have hstarts := hg.2.2.sublist (List.dropLast_sublist g.offsets)
    rw [segments, if_neg Bool.false_ne_true, List.append_nil, openPieces_eq_unbroken hstarts]
  · rw [hopen]
    exact List.flatMap_congr fun ps _ => linePieces_eq ps
  · rw [segments_eq hg, if_pos rfl, hopen, List.filterMap_eq_flatMap_toList]
    congr 1
    exact List.flatMap_congr fun ps _ => closing_toList ps

/-- Polylines without vertices in front, between and behind others, a point, a segment and a triangle. -/
theorem segments_by_polyline_mixed :
    (ofPolylines [[], [⟨1, 1, 0⟩], [⟨2, 0, 0⟩, ⟨3, 1, 0⟩], [], [⟨4, 0, 0⟩, ⟨5, 0, 0⟩, ⟨4, 1, 0⟩], []] :
      Geometry Int).Valid ∧
    (ofPolylines [[], [⟨1, 1, 0⟩], [⟨2, 0, 0⟩, ⟨3, 1, 0⟩], [], [⟨4, 0, 0⟩, ⟨5, 0, 0⟩, ⟨4, 1, 0⟩], []] :
      Geometry Int).segments true =
        [⟨2, 0, 3, 1⟩, ⟨4, 0, 5, 0⟩, ⟨5, 0, 4, 1⟩, ⟨4, 1, 4, 0⟩] := by
  refine ⟨valid_ofPolylines _, ?_⟩
  obtain ⟨-, -, hopen, hclosed⟩ := segments_by_polyline (valid_ofPolylines
    [[], [⟨1, 1, 0⟩], [⟨2, 0, 0⟩, ⟨3, 1, 0⟩], [], [⟨4, 0, 0⟩, ⟨5, 0, 0⟩, ⟨4, 1, 0⟩], ([] : List (Vec3 Int))])
  rw [hclosed, hopen, polylines_ofPolylines]
  decide

end Wireframe.Geometry
