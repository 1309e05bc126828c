import Wireframe.Proofs.Raster.Paint

/-!
# `Wireframe.Proofs.Raster.Union` — the order of drawing

In one colour it does not matter which of two pixels is coloured first, so a picture depends on what is
visited, and the count on how often, but neither on the order. The pieces of a union are those of both
geometries in another order, and so are the pieces of polylines that are taken in another order.

## Contents
- `paintOne_comm`, `paintAll_perm`: visited pixels in another order.
- `visits_append`, `visits_perm`, `visits_frame`: visited pixels of segments.
- `drawSegments_append`, `drawSegments_perm`: segments one after the other, and in another order.
- `union_drawn_in_parts`: unions and reordered polylines.
-/

namespace Wireframe.Raster

open Document

/-! ## Pixels -/

theorem paintOne_comm (color : Rgb) (acc : Screen × Nat) (p q : Pixel) :
    paintOne color (paintOne color acc p) q = paintOne color (paintOne color acc q) p := by
  have hframe := fun p q => (paintOne_frame color acc p).contains_iff q
  by_cases hp : acc.1.Contains p
  · by_cases hq : acc.1.Contains q
    · rw [paintOne_of_contains ((hframe p q).mpr hq), paintOne_of_contains ((hframe q p).mpr hp),
        paintOne_of_contains hp, paintOne_of_contains hq]
      rw [Screen.paint_comm]
    · rw [paintOne_of_not_contains fun h => hq ((hframe p q).mp h), paintOne_of_not_contains hq]
  · rw [paintOne_of_not_contains hp, paintOne_of_not_contains fun h => hp ((hframe q p).mp h)]

/-- Pixels may be visited in any order. -/
theorem paintAll_perm {ps qs : List Pixel} (h : ps.Perm qs) (color : Rgb) (acc : Screen × Nat) :
    paintAll color acc ps = paintAll color acc qs :=
  h.foldl_eq' (fun p _ q _ acc => paintOne_comm color acc p q) acc

/-- What is counted before does not matter. -/
theorem paintAll_shift (color : Rgb) (screen : Screen) (n : Nat) (ps : List Pixel) :
    paintAll color (screen, n) ps =
      ((paintAll color (screen, 0) ps).1, n + (paintAll color (screen, 0) ps).2) := by
  have hpicture : (paintAll color (screen, n) ps).1 = (paintAll color (screen, 0) ps).1 := by
    have hsame : ∀ acc acc' : Screen × Nat, acc.1 = acc'.1 →
        (paintAll color acc ps).1 = (paintAll color acc' ps).1 := by
      induction ps with
      | nil => exact fun acc acc' h => h
      | cons p ps ih =>
        intro acc acc' h
        refine ih _ _ ?_
        rw [paintOne, paintOne, h]
        split
        · rfl
        · exact h
    exact hsame _ _ rfl
  refine Prod.ext hpicture ?_
  rw [paintAll_count, paintAll_count, Nat.zero_add]

/-! ## Segments -/

section
variable {α : Type} [Scalar α]

theorem visits_perm {xs ys : List (Segment α)} (h : xs.Perm ys) {screen : Screen}
    {walks : List (List Pixel)} (hwalks : visits xs screen = .ok walks) :
    ∃ walks', visits ys screen = .ok walks' ∧ walks.Perm walks' :=
  mapM_perm (h.filterMap _) hwalks

theorem visits_append {xs ys : List (Segment α)} {screen : Screen} {walks walks' : List (List Pixel)}
    (hx : visits xs screen = .ok walks) (hy : visits ys screen = .ok walks') :
    visits (xs ++ ys) screen = .ok (walks ++ walks') := by
  unfold visits at *
  rw [clipAll, List.filterMap_append, List.mapM_append]
  rw [clipAll] at hx hy
  rw [hx, hy]
  rfl

/-- Which pixels are visited depends on the size of the picture alone. -/
theorem visits_frame (xs : List (Segment α)) {screen after : Screen} (h : screen.SameFrame after) :
    visits xs after = visits xs screen := by
  rw [visits, visits, h.width, h.height]

theorem drawSegments_perm {xs ys : List (Segment α)} (h : xs.Perm ys) {screen : Screen}
    {walks : List (List Pixel)} (hwalks : visits xs screen = .ok walks) (v : Value) :
    drawSegments xs v screen = drawSegments ys v screen := by
  obtain ⟨walks', hwalks', hperm⟩ := visits_perm h hwalks
  have hpaint : ∀ c : Rgb, paintAll c (screen, 0) walks.flatten = paintAll c (screen, 0) walks'.flatten :=
    fun c => paintAll_perm hperm.flatten c _
  rw [drawSegments_eq hwalks, drawSegments_eq hwalks']
  simp only [hpaint]
  refine if_congr ?_ rfl rfl
  rw [← List.length_eq_zero_iff, hperm.length_eq, List.length_eq_zero_iff]

/-- Segments drawn one after the other. -/
theorem drawSegments_append {xs ys : List (Segment α)} {screen : Screen} {walks walks' : List (List Pixel)}
    (hx : visits xs screen = .ok walks) (hy : visits ys screen = .ok walks') (v : Value) :
    drawSegments (xs ++ ys) v screen = do
      let first ← drawSegments xs v screen
      let second ← drawSegments ys v first.1
      return (second.1, first.2 + second.2) := by
  rw [drawSegments_eq (visits_append hx hy), drawSegments_eq hx]
  -- a half without pixels does not read the colour, so it cannot fail where the whole does not
  by_cases hnone : walks = []
  · rw [if_pos hnone, hnone, List.nil_append]
    show _ = (drawSegments ys v screen >>= fun second => .ok (second.1, 0 + second.2))
    rw [drawSegments_eq hy]
    simp only [Nat.zero_add]
    split
    · rfl
    · cases Rgb.showable v <;> rfl
  · have happend : walks ++ walks' ≠ [] := fun h => hnone (List.append_eq_nil_iff.mp h).1
    rw [if_neg hnone, if_neg happend]
    cases hcolor : Rgb.showable v with
    | error e => rfl
    | ok c =>
      have hafter : visits ys (paintAll c (screen, 0) walks.flatten).1 = .ok walks' := by
        rw [visits_frame ys (paintAll_frame c (screen, 0) _), hy]
      have hflatten : paintAll c (screen, 0) (walks ++ walks').flatten =
          paintAll c (paintAll c (screen, 0) walks.flatten) walks'.flatten := by
        rw [List.flatten_append, paintAll, paintAll, paintAll, List.foldl_append]
      show Except.ok (paintAll c (screen, 0) (walks ++ walks').flatten) =
        (drawSegments ys v (paintAll c (screen, 0) walks.flatten).1 >>= fun second =>
          .ok (second.1, (paintAll c (screen, 0) walks.flatten).2 + second.2))
      rw [drawSegments_eq hafter, hcolor, hflatten, paintAll_shift]
      split
      · next hrest =>
        rw [hrest]
        rfl
      · rfl

end

/-! ## Unions -/

theorem drawAll_pair {α : Type} [Scalar α] (d d' : Drawing α) (v v' : Value) (screen : Screen) :
    drawAll [(d, v), (d', v')] screen = do
      let first ← drawSegments d.segments v screen
      let second ← drawSegments d'.segments v' first.1
      return (second.1, first.2 + second.2) := by
  have hlast : drawAll [(d', v')] = fun after => drawSegments d'.segments v' after := by
    funext after
    rw [drawAll, Drawing.draw_eq]
    cases drawSegments d'.segments v' after <;> rfl
  rw [drawAll, hlast, Drawing.draw_eq]

/-- **Unions are drawn in parts.** A union in one colour is drawn as both geometries one after the other,
    with the counts added up, and the order of both does not matter. Nor does the order of the polylines
    of a geometry, and of those that it is built from. -/
theorem union_drawn_in_parts (closed : Bool) (v : Value) (screen : Screen) :
    (∀ a b : Geometry Float, a.Sound → b.Sound →
      (Drawing.edges closed (a.concat b)).draw v screen =
          drawAll [(.edges closed a, v), (.edges closed b, v)] screen ∧
        (Drawing.edges closed (a.concat b)).draw v screen =
          drawAll [(.edges closed b, v), (.edges closed a, v)] screen) ∧
    (∀ g h : Geometry Float, g.Sound → h.Sound → g.polylines.Perm h.polylines →
      (Drawing.edges closed g).draw v screen = (Drawing.edges closed h).draw v screen) ∧
    ∀ lines lines' : List (List (Vec3 Float)), lines.Perm lines' →
      (Drawing.edges closed (.ofPolylines (lines.map (List.map Geometry.store)))).draw v screen =
        (Drawing.edges closed (.ofPolylines (lines'.map (List.map Geometry.store)))).draw v screen := by
  have hvisits : ∀ g : Geometry Float, g.Sound → ∃ walks, visits (g.segments closed) screen = .ok walks :=
    fun g hg => visits_defined_of_moderate (fun s hs => hg.stored.moderate hs) screen
  have hlines : ∀ g h : Geometry Float, g.Sound → h.Sound → g.polylines.Perm h.polylines →
      (Drawing.edges closed g).draw v screen = (Drawing.edges closed h).draw v screen := by
    intro g h hg hh hlines
    obtain ⟨walks, hwalks⟩ := hvisits g hg
    rw [Drawing.draw_eq, Drawing.draw_eq]
    exact drawSegments_perm (Geometry.segments_perm hg.valid hh.valid hlines closed) hwalks v
  refine ⟨fun a b ha hb => ?_, hlines, fun lines lines' hperm => ?_⟩
  · obtain ⟨walks, hwalks⟩ := hvisits a ha
    obtain ⟨walks', hwalks'⟩ := hvisits b hb
    have hunion := Geometry.segments_concat ha.valid hb.valid closed
    obtain ⟨both, hboth⟩ := hvisits _ (ha.concat hb)
    rw [Drawing.draw_eq, drawAll_pair, drawAll_pair]
    refine ⟨?_, ?_⟩
    · exact (drawSegments_perm hunion hboth v).trans (drawSegments_append hwalks hwalks' v)
    · exact (drawSegments_perm (hunion.trans List.perm_append_comm) hboth v).trans
        (drawSegments_append hwalks' hwalks v)
  · refine hlines _ _ (.ofPolylines lines) (.ofPolylines lines') ?_
    rw [Geometry.polylines_ofPolylines, Geometry.polylines_ofPolylines]
    exact hperm.map _

/-- A row and a column that cross: the pixel in the middle is counted twice. -/
theorem union_drawn_in_parts_cross :
    let row : Geometry Float := .ofPolylines ([[⟨0.0, 1.0, 0.0⟩, ⟨2.0, 1.0, 0.0⟩]].map (List.map Geometry.store))
    let column : Geometry Float :=
      .ofPolylines ([[⟨1.0, 0.0, 0.0⟩, ⟨1.0, 2.0, 0.0⟩]].map (List.map Geometry.store))
    ((Drawing.edges true (row.concat column)).draw (.str "#0000ff") (.blank 3 3 .white)).toOption.map
      Prod.snd = some 6 := by
  intro row column
  rw [((union_drawn_in_parts true (.str "#0000ff") (.blank 3 3 .white)).1 row column (.ofPolylines _)
    (.ofPolylines _)).1]
  decide +kernel

end Wireframe.Raster
