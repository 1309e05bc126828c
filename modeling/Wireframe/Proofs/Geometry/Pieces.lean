import Wireframe.Geometry
import Mathlib

/-!
# `Wireframe.Proofs.Geometry.Pieces` — straight pieces, polyline by polyline

The pieces of a geometry are found in its buffers: a vertex is joined to the next one unless that one
starts a polyline, and the closing pieces are added after all others. Where the buffers fit, these are the
pieces of each polyline on its own.

## Contents
- `linePieces`, `closing?`: the pieces of one polyline.
- `Fits`, `valid_iff`: offsets one after the other.
- `polylines_concat`: the polylines of a union.
- `openPieces_append`, `openPieces_cut`, `closingPieces_cut`: a polyline and what follows it.
- `segments_eq`: all pieces of a geometry; `mem_segments`: they lie between its vertices.
- `segments_perm`, `segments_concat`: the order of polylines, and unions.
-/

namespace Wireframe.Geometry

variable {α : Type}

/-- The pieces between the vertices of a polyline. -/
def linePieces : List (Vec3 α) → List (Segment α)
  | p :: q :: rest => piece p q :: linePieces (q :: rest)
  | _ => []

/-- The piece that closes a polyline of at least three vertices. -/
def closing? (line : List (Vec3 α)) : Option (Segment α) :=
  if 3 ≤ line.length then
    match line.getLast?, line.head? with
    | some p, some q => some (piece p q)
    | _, _ => none
  else none

/-! ## Offsets -/

/-- Offsets from one place to another that do not fall. -/
inductive Fits : Nat → List Nat → Nat → Prop
  | nil (start : Nat) : Fits start [] start
  | cons {start stop last : Nat} {stops : List Nat} (hle : start ≤ stop) (h : Fits stop stops last) :
    Fits start (stop :: stops) last

namespace Fits

variable {start last : Nat} {stops : List Nat}

theorem le (h : Fits start stops last) : start ≤ last := by
  induction h with
  | nil => exact Nat.le_refl _
  | cons hle _ ih => exact Nat.le_trans hle ih

theorem mem_bounds (h : Fits start stops last) {s : Nat} (hs : s ∈ stops) : start ≤ s := by
  induction h with
  | nil => cases hs
  | cons hle _ ih =>
    rcases List.mem_cons.mp hs with rfl | hmem
    · exact hle
    · exact Nat.le_trans hle (ih hmem)

theorem append {next last' : Nat} {more : List Nat} (h : Fits start stops next)
    (h' : Fits next more last') : Fits start (stops ++ more) last' := by
  induction h with
  | nil => exact h'
  | cons hle _ ih => exact .cons hle (ih h')

theorem shift (h : Fits start stops last) (n : Nat) :
    Fits (start + n) (stops.map (· + n)) (last + n) := by
  induction h with
  | nil => exact .nil _
  | cons hle _ ih => exact .cons (Nat.add_le_add_right hle n) ih

theorem pairwise (h : Fits start stops last) : (start :: stops).Pairwise (· ≤ ·) := by
  induction h with
  | nil => exact List.pairwise_singleton _ _
  | cons hle h ih => exact .cons (fun s hs => (Fits.cons hle h).mem_bounds hs) ih

theorem getLast? (h : Fits start stops last) : (start :: stops).getLast? = some last := by
  induction h with
  | nil => rfl
  | cons _ _ ih => rwa [List.getLast?_cons_cons]

theorem of_pairwise (hpairwise : (start :: stops).Pairwise (· ≤ ·))
    (hlast : (start :: stops).getLast? = some last) : Fits start stops last := by
  induction stops generalizing start with
  | nil =>
    cases hlast
    exact .nil _
  | cons stop stops ih =>
    obtain ⟨hfirst, hrest⟩ := List.pairwise_cons.mp hpairwise
    rw [List.getLast?_cons_cons] at hlast
    exact .cons (hfirst stop List.mem_cons_self) (ih hrest hlast)

end Fits

theorem valid_iff {g : Geometry α} :
    g.Valid ↔ ∃ stops, g.offsets = 0 :: stops ∧ Fits 0 stops g.points.length := by
  constructor
  · rintro ⟨hhead, hlast, hpairwise⟩
    obtain ⟨stops, hoffsets⟩ := List.head?_eq_some_iff.mp hhead
    rw [hoffsets] at hlast hpairwise
    exact ⟨stops, hoffsets, .of_pairwise hpairwise hlast⟩
  · rintro ⟨stops, hoffsets, hfits⟩
    rw [Valid, hoffsets]
    exact ⟨rfl, hfits.getLast?, hfits.pairwise⟩

/-! ## Polylines -/

/-- Offsets and vertices of two lists of polylines one after the other. -/
theorem cut_append {start next : Nat} {stops more : List Nat} {ps qs : List (Vec3 α)}
    (h : Fits start stops next) (hnext : next = start + ps.length) :
    cut start (stops ++ more) (ps ++ qs) = cut start stops ps ++ cut next more qs := by
  induction h generalizing ps with
  | nil start =>
    obtain rfl : ps = [] := List.eq_nil_of_length_eq_zero (by omega)
    rfl
  | @cons start stop last stops hle h ih =>
    have hmost := h.le
    have hcount : stop - start ≤ ps.length := by omega
    have hlast : last = stop + (ps.drop (stop - start)).length := by
      rw [List.length_drop]
      omega
    rw [List.cons_append, cut, cut, List.take_append_of_le_length hcount,
      List.drop_append_of_le_length hcount, ih hlast, List.cons_append]

theorem cut_shift (n start : Nat) (stops : List Nat) (ps : List (Vec3 α)) :
    cut (start + n) (stops.map (· + n)) ps = cut start stops ps := by
  induction stops generalizing start ps with
  | nil => rfl
  | cons stop stops ih =>
    have hlength : stop + n - (start + n) = stop - start := by omega
    rw [List.map_cons, cut, cut, hlength, ih]

/-- A union where both have vertices. -/
theorem concat_eq {g h : Geometry α} (hg : g.isEmpty = false) (hh : h.isEmpty = false) :
    g.concat h = ⟨g.points ++ h.points, g.offsets ++ h.offsets.tail.map (· + g.points.length)⟩ := by
  simp [concat, hg, hh]

theorem Valid.concat {g h : Geometry α} (hg : g.Valid) (hh : h.Valid) : (g.concat h).Valid := by
  obtain ⟨stops, hoffsets, hfits⟩ := valid_iff.mp hg
  obtain ⟨more, hoffsets', hfits'⟩ := valid_iff.mp hh
  cases hgempty : g.isEmpty with
  | true => rwa [Geometry.concat, if_pos hgempty]
  | false =>
    cases hhempty : h.isEmpty with
    | true =>
      rw [Geometry.concat, hgempty, hhempty]
      exact hg
    | false =>
      have hshift := hfits'.shift g.points.length
      rw [Nat.zero_add, Nat.add_comm] at hshift
      rw [concat_eq hgempty hhempty, hoffsets, hoffsets', valid_iff]
      refine ⟨stops ++ more.map (· + g.points.length), rfl, ?_⟩
      rw [List.length_append]
      exact hfits.append hshift

/-- **The polylines of a union** are those of both, where both have vertices. -/
theorem polylines_concat {g h : Geometry α} (hg : g.Valid) (hh : h.Valid) (hgempty : g.isEmpty = false)
    (hhempty : h.isEmpty = false) : (g.concat h).polylines = g.polylines ++ h.polylines := by
  obtain ⟨stops, hoffsets, hfits⟩ := valid_iff.mp hg
  obtain ⟨more, hoffsets', -⟩ := valid_iff.mp hh
  have hshift := cut_shift g.points.length 0 more h.points
  rw [Nat.zero_add] at hshift
  rw [concat_eq hgempty hhempty, polylines, polylines, polylines, hoffsets, hoffsets']
  exact (cut_append hfits (Nat.zero_add _).symm).trans (congrArg _ hshift)

/-! ## Open pieces -/

/-- Starts that are already behind do not matter. -/
theorem openPieces_dropWhile (starts : List Nat) (i : Nat) (ps : List (Vec3 α)) :
    openPieces (starts.dropWhile (· ≤ i)) i ps = openPieces starts i ps := by
  have hbehind : (starts.dropWhile (· ≤ i)).dropWhile (· ≤ i) = starts.dropWhile (· ≤ i) :=
    List.dropWhile_eq_self_iff.mpr (List.dropWhile_get_zero_not _ _)
  match ps with
  | [] => simp only [openPieces]
  | [p] => simp only [openPieces]
  | p :: q :: rest => simp only [openPieces, hbehind]

/-- A polyline whose vertices are followed by the start of another one. -/
theorem openPieces_append {line rest : List (Vec3 α)} {starts : List Nat} {i : Nat} (hline : line ≠ [])
    (hbehind : ∀ s ∈ starts, i + line.length ≤ s)
    (hnext : rest ≠ [] → starts.head? = some (i + line.length)) :
    openPieces starts i (line ++ rest) = linePieces line ++ openPieces starts (i + line.length) rest := by
  induction line generalizing i with
  | nil => exact absurd rfl hline
  | cons p line ih =>
    have hahead : starts.dropWhile (· ≤ i) = starts := by
      rw [List.dropWhile_eq_self_iff]
      intro hpos hle
      have hmem := hbehind _ (List.getElem_mem hpos)
      rw [List.length_cons] at hmem
      have hle' : starts[0] ≤ i := of_decide_eq_true hle
      omega
    cases line with
    | nil =>
      cases rest with
      | nil => simp [openPieces, linePieces]
      | cons q rest =>
        have hhead : starts.head? = some (i + 1) := hnext (List.cons_ne_nil _ _)
        simp [openPieces, linePieces, hahead, hhead]
    | cons q line =>
      have hhead : (starts.head? == some (i + 1)) = false := by
        rw [beq_eq_false_iff_ne]
        intro heq
        have hmem := hbehind _ (List.mem_of_head? heq)
        simp only [List.length_cons] at hmem
        omega
      have hlength : i + (p :: q :: line).length = i + 1 + (q :: line).length := by
        simp only [List.length_cons]
        omega
      rw [hlength] at hbehind hnext ⊢
      have hrest := ih (List.cons_ne_nil _ _) hbehind hnext
      rw [List.cons_append] at hrest
      simp only [List.cons_append, openPieces, hahead, hhead, Bool.false_eq_true, if_false, linePieces, hrest]

/-- The starts of polylines are the offsets without the last. -/
theorem openPieces_cut {start last : Nat} {stops : List Nat} {ps : List (Vec3 α)}
    (h : Fits start stops last) (hlast : last = start + ps.length) :
    openPieces (start :: stops).dropLast start ps = (cut start stops ps).flatMap linePieces := by
  induction h generalizing ps with
  | nil start =>
    obtain rfl : ps = [] := List.eq_nil_of_length_eq_zero (by omega)
    simp [openPieces, cut]
  | @cons start stop last stops hle h ih =>
    have hmost := h.le
    have hlast : last = stop + (ps.drop (stop - start)).length := by
      rw [List.length_drop]
      omega
    have hrest := ih hlast
    have hdrop : openPieces (start :: stop :: stops).dropLast start ps =
        openPieces (stop :: stops).dropLast start ps := by
      rw [← openPieces_dropWhile, List.dropLast_cons_cons, List.dropWhile_cons_of_pos (by simp),
        openPieces_dropWhile]
    rw [hdrop, cut, List.flatMap_cons, ← hrest]
    -- a polyline without vertices adds nothing but one more start at the same place
    by_cases heq : stop = start
    · subst heq
      simp [linePieces]
    · have hstart : start + (ps.take (stop - start)).length = stop := by
        rw [List.length_take]
        omega
      have hline : ps.take (stop - start) ≠ [] := by
        intro hnil
        rw [hnil, List.length_nil] at hstart
        omega
      conv_lhs => rw [← List.take_append_drop (stop - start) ps]
      rw [openPieces_append hline, hstart]
      · intro s hs
        rw [hstart]
        rcases List.mem_cons.mp (List.mem_of_mem_dropLast hs) with heq' | hmem
        · exact Nat.le_of_eq heq'.symm
        · exact h.mem_bounds hmem
      · intro hne
        rw [hstart]
        -- only the last polyline is not followed by a start, and no vertex is left after it
        cases h with
        | nil =>
          refine absurd ?_ hne
          rw [List.drop_eq_nil_iff]
          omega
        | cons => rfl

/-! ## Closing pieces -/

theorem closing_take {ps : List (Vec3 α)} {start stop : Nat} (hle : start ≤ stop)
    (hstop : stop ≤ ps.length) :
    closing? ((ps.drop start).take (stop - start)) =
      if stop - start ≥ 3 then
        match ps.toArray[stop - 1]?, ps.toArray[start]? with
        | some p, some q => some (piece p q)
        | _, _ => none
      else none := by
  have hlength : ((ps.drop start).take (stop - start)).length = stop - start := by
    rw [List.length_take, List.length_drop]
    omega
  rw [closing?, hlength]
  by_cases h : 3 ≤ stop - start
  · have hlast : ((ps.drop start).take (stop - start)).getLast? = ps.toArray[stop - 1]? := by
      rw [List.getLast?_eq_getElem?, hlength, List.getElem?_take_of_lt (by omega), List.getElem?_drop,
        List.getElem?_toArray]
      congr 1
      omega
    have hhead : ((ps.drop start).take (stop - start)).head? = ps.toArray[start]? := by
      rw [List.head?_eq_getElem?, List.getElem?_take_of_lt (by omega), List.getElem?_drop,
        List.getElem?_toArray, Nat.add_zero]
    rw [if_pos h, if_pos h, hlast, hhead]
  · rw [if_neg h, if_neg h]

/-- The closing pieces of all polylines from one offset on. -/
theorem closingPieces_cut {ps : List (Vec3 α)} {start : Nat} {stops : List Nat}
    (h : Fits start stops ps.length) :
    ((start :: stops).zip stops).filterMap (fun (start, stop) =>
      if stop - start ≥ 3 then
        match ps.toArray[stop - 1]?, ps.toArray[start]? with
        | some p, some q => some (piece p q)
        | _, _ => none
      else none) = (cut start stops (ps.drop start)).filterMap closing? := by
  generalize hlast : ps.length = last at h
  induction h with
  | nil => rfl
  | @cons start stop last stops hle h ih =>
    have hmost := h.le
    have hdrop : (ps.drop start).drop (stop - start) = ps.drop stop := by
      rw [List.drop_drop, Nat.add_sub_cancel' hle]
    rw [cut, List.zip_cons_cons, List.filterMap_cons, List.filterMap_cons, hdrop, ih hlast,
      closing_take hle (by omega)]

/-! ## Geometries -/

/-- **The pieces of a geometry are those of its polylines**, first the open ones, then the closing ones. -/
theorem segments_eq {g : Geometry α} (h : g.Valid) (closed : Bool) :
    g.segments closed =
      g.polylines.flatMap linePieces ++ if closed then g.polylines.filterMap closing? else [] := by
  obtain ⟨stops, hoffsets, hfits⟩ := valid_iff.mp h
  have hlines : g.polylines = cut 0 stops g.points := by rw [polylines, hoffsets]
  have hopen : openPieces g.offsets.dropLast 0 g.points = g.polylines.flatMap linePieces := by
    rw [hlines, hoffsets, openPieces_cut hfits (Nat.zero_add _).symm]
  have hclosing : g.closingPieces = g.polylines.filterMap closing? := by
    rw [hlines, closingPieces, hoffsets]
    exact closingPieces_cut hfits
  rw [segments, hopen, hclosing]

theorem segments_of_isEmpty {g : Geometry α} (hg : g.isEmpty = true) (closed : Bool) :
    g.segments closed = [] := by
  have hpoints : g.points = [] := List.isEmpty_iff.mp hg
  have hclosing : g.closingPieces = [] := by
    rw [closingPieces, hpoints]
    refine List.filterMap_eq_nil_iff.mpr fun x _ => ?_
    simp
  rw [segments, hpoints, hclosing]
  simp [openPieces]

/-- The pieces of geometries whose polylines are the same up to their order. -/
theorem segments_perm {g h : Geometry α} (hg : g.Valid) (hh : h.Valid)
    (hlines : g.polylines.Perm h.polylines) (closed : Bool) :
    (g.segments closed).Perm (h.segments closed) := by
  rw [segments_eq hg, segments_eq hh]
  refine (hlines.flatMap_right _).append ?_
  cases closed with
  | false => exact .refl _
  | true => exact hlines.filterMap _

/-- The pieces of a union are those of both, in another order. -/
theorem segments_concat {g h : Geometry α} (hg : g.Valid) (hh : h.Valid) (closed : Bool) :
    ((g.concat h).segments closed).Perm (g.segments closed ++ h.segments closed) := by
  cases hgempty : g.isEmpty with
  | true => rw [concat, if_pos hgempty, segments_of_isEmpty hgempty, List.nil_append]
  | false =>
    cases hhempty : h.isEmpty with
    | true =>
      rw [segments_of_isEmpty hhempty, List.append_nil, concat, hgempty, hhempty]
      exact .refl _
    | false =>
      rw [segments_eq (hg.concat hh), polylines_concat hg hh hgempty hhempty, segments_eq hg,
        segments_eq hh, List.flatMap_append]
      cases closed with
      | false => simp
      | true =>
        rw [if_pos rfl, if_pos rfl, if_pos rfl, List.filterMap_append]
        -- the open pieces of the second stand before the closing pieces of the first
        generalize g.polylines.flatMap linePieces = openings
        generalize h.polylines.flatMap linePieces = openings'
        generalize g.polylines.filterMap closing? = closings
        generalize h.polylines.filterMap closing? = closings'
        rw [List.append_assoc, List.append_assoc]
        refine List.Perm.append_left openings ?_
        rw [← List.append_assoc, ← List.append_assoc]
        exact List.Perm.append_right closings' List.perm_append_comm

/-- Every piece of a geometry lies between two of its vertices. -/
theorem mem_segments {g : Geometry α} {closed : Bool} {s : Segment α} (h : s ∈ g.segments closed) :
    ∃ p ∈ g.points, ∃ q ∈ g.points, s = piece p q := by
  have hopen : ∀ (ps : List (Vec3 α)) (starts : List Nat) (i : Nat), s ∈ openPieces starts i ps →
      ∃ p ∈ ps, ∃ q ∈ ps, s = piece p q := by
    intro ps starts i hs
    fun_induction openPieces starts i ps with
    | case1 starts i p q rest starts' pieces hstart ih =>
      obtain ⟨p', hp', q', hq', heq⟩ := ih hs
      exact ⟨p', List.mem_cons_of_mem _ hp', q', List.mem_cons_of_mem _ hq', heq⟩
    | case2 starts i p q rest starts' pieces hstart ih =>
      rcases List.mem_cons.mp hs with rfl | hs
      · exact ⟨p, List.mem_cons_self, q, List.mem_cons_of_mem _ List.mem_cons_self, rfl⟩
      · obtain ⟨p', hp', q', hq', heq⟩ := ih hs
        exact ⟨p', List.mem_cons_of_mem _ hp', q', List.mem_cons_of_mem _ hq', heq⟩
    | case3 => cases hs
  rcases List.mem_append.mp h with hs | hs
  · exact hopen _ _ _ hs
  · cases closed with
    | false => cases hs
    | true =>
      obtain ⟨⟨start, stop⟩, -, hpiece⟩ := List.mem_filterMap.mp hs
      dsimp only at hpiece
      split at hpiece
      · split at hpiece
        · next p q hp hq =>
          cases hpiece
          rw [List.getElem?_toArray] at hp hq
          exact ⟨p, List.mem_of_getElem? hp, q, List.mem_of_getElem? hq, rfl⟩
        · cases hpiece
      · cases hpiece

end Wireframe.Geometry
