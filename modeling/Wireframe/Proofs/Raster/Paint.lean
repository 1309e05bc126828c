import Wireframe.Proofs.Raster.Range
import Wireframe.Proofs.Screen

/-!
# `Wireframe.Proofs.Raster.Paint` — what is drawn

A drawing visits pixels one walk after the other. Those on the picture are coloured and counted, as often
as they are visited; all others are passed over. So the ink on a picture that was clear is never more than
what was counted.

## Contents
- `pixel?_paintAll`, `paintAll_count`, `paintAll_ink`: pixels that are visited.
- `drawSegments_eq`: a drawing whose pixels are known, in any colour.
- `Drawing`, `Drawing.draw`, `drawAll`: drawings, and several of them.
- `drawn_pixels`: what a drawing changes, and what it counts.
-/

namespace Wireframe.Raster

open Document

/-! ## Visited pixels -/

variable {acc : Screen × Nat} {p q : Pixel} {color : Rgb}

theorem paintOne_of_contains (h : acc.1.Contains p) :
    paintOne color acc p = (acc.1.paint color p, acc.2 + 1) := by
  rw [paintOne, Screen.index?_of_contains h]

theorem paintOne_of_not_contains (h : ¬ acc.1.Contains p) : paintOne color acc p = acc := by
  rw [paintOne, Screen.index?_of_not_contains h]

theorem paintOne_frame (color : Rgb) (acc : Screen × Nat) (p : Pixel) :
    Screen.SameFrame acc.1 (paintOne color acc p).1 := by
  by_cases h : acc.1.Contains p
  · rw [paintOne_of_contains h, Screen.paint_of_contains h]
    exact ⟨rfl, rfl, rfl, Array.size_setIfInBounds⟩
  · rw [paintOne_of_not_contains h]
    exact .refl _

theorem paintAll_frame (color : Rgb) (acc : Screen × Nat) (ps : List Pixel) :
    Screen.SameFrame acc.1 (paintAll color acc ps).1 := by
  induction ps generalizing acc with
  | nil => exact .refl _
  | cons p ps ih => exact (paintOne_frame color acc p).trans (ih _)

/-- **The pixels that are visited are coloured, and no others.** -/
theorem pixel?_paintAll (hs : acc.1.Full) (ps : List Pixel) (q : Pixel) :
    (paintAll color acc ps).1.pixel? q =
      if acc.1.Contains q ∧ q ∈ ps then some color else acc.1.pixel? q := by
  induction ps generalizing acc with
  | nil =>
    rw [if_neg fun h => List.not_mem_nil h.2]
    rfl
  | cons p ps ih =>
    -- what the first visit leaves has the same size, so the others find the same pixels on it
    have hframe := paintOne_frame color acc p
    have hfirst : (paintOne color acc p).1.pixel? q =
        if acc.1.Contains q ∧ q = p then some color else acc.1.pixel? q := by
      by_cases hp : acc.1.Contains p
      · rw [paintOne_of_contains hp, Screen.pixel?_paint hs hp]
        refine if_congr ⟨fun h => ⟨h ▸ hp, h⟩, And.right⟩ rfl rfl
      · rw [paintOne_of_not_contains hp, if_neg]
        rintro ⟨hq, rfl⟩
        exact hp hq
    show (paintAll color (paintOne color acc p) ps).1.pixel? q = _
    rw [ih (hframe.full hs), hfirst]
    simp only [hframe.contains_iff q, List.mem_cons]
    grind

/-- Every visit on the picture is counted. -/
theorem paintAll_count (color : Rgb) (acc : Screen × Nat) (ps : List Pixel) :
    (paintAll color acc ps).2 = acc.2 + ps.countP (acc.1.Contains ·) := by
  induction ps generalizing acc with
  | nil => rfl
  | cons p ps ih =>
    have hcontains : (fun q => decide ((paintOne color acc p).1.Contains q)) =
        fun q => decide (acc.1.Contains q) := by
      funext q
      rw [decide_eq_decide]
      exact (paintOne_frame color acc p).contains_iff q
    show (paintAll color (paintOne color acc p) ps).2 = _
    rw [ih, hcontains, List.countP_cons]
    by_cases hp : acc.1.Contains p
    · rw [paintOne_of_contains hp]
      simp [hp]
      omega
    · rw [paintOne_of_not_contains hp]
      simp [hp]

/-- What ink is added is counted. -/
theorem paintAll_ink (color : Rgb) (acc : Screen × Nat) (ps : List Pixel) :
    (paintAll color acc ps).1.ink + acc.2 ≤ acc.1.ink + (paintAll color acc ps).2 := by
  induction ps generalizing acc with
  | nil => exact Nat.le_refl _
  | cons p ps ih =>
    have hrest := ih (paintOne color acc p)
    have hfirst : (paintOne color acc p).1.ink + acc.2 ≤ acc.1.ink + (paintOne color acc p).2 := by
      by_cases hp : acc.1.Contains p
      · rw [paintOne_of_contains hp]
        have hink := Screen.ink_paint_le hp color
        dsimp only
        omega
      · rw [paintOne_of_not_contains hp]
    show (paintAll color (paintOne color acc p) ps).1.ink + acc.2 ≤
      acc.1.ink + (paintAll color (paintOne color acc p) ps).2
    omega

/-! ## Segments -/

section
variable {α : Type} [Scalar α]

/-- A drawing whose pixels are known. The colour does not matter if there are none. -/
theorem drawSegments_eq {segments : List (Segment α)} {screen : Screen} {walks : List (List Pixel)}
    (h : visits segments screen = .ok walks) (v : Value) :
    drawSegments segments v screen =
      if walks = [] then .ok (screen, 0)
      else (Rgb.showable v).map fun c => paintAll c (screen, 0) walks.flatten := by
  unfold drawSegments
  unfold visits at h
  generalize clipAll (Scalar.ofInt screen.width) (Scalar.ofInt screen.height) segments = inside at h ⊢
  cases inside with
  | nil =>
    cases h
    rfl
  | cons s rest =>
    have hwalks : walks ≠ [] := by
      rw [List.mapM_cons] at h
      obtain ⟨w, -, h⟩ := bind_ok h
      obtain ⟨ws, -, h⟩ := bind_ok h
      cases h
      exact List.cons_ne_nil _ _
    rw [if_neg hwalks]
    simp only [h]
    cases Rgb.showable v with
    | error e => rfl
    | ok c => exact congrArg Except.ok (foldl_paintAll c (screen, 0) walks)

end

/-! ## Drawings -/

/-- What can be drawn: a geometry, open or closed, or a single segment. -/
inductive Drawing (α : Type) where
  | edges (closed : Bool) (g : Geometry α)
  | line (s : Segment α)

namespace Drawing

variable {α : Type}

/-- The straight pieces of a drawing. -/
def segments : Drawing α → List (Segment α)
  | edges closed g => g.segments closed
  | line s => [s]

/-- Draws in the colour that a value stands for. -/
def draw [Scalar α] (d : Drawing α) (color : Value) (screen : Screen) : Except Error (Screen × Nat) :=
  match d with
  | edges false g => drawLines g color screen
  | edges true g => drawPolygons g color screen
  | line s => drawSegments [s] color screen

theorem draw_eq [Scalar α] (d : Drawing α) (color : Value) (screen : Screen) :
    d.draw color screen = drawSegments d.segments color screen := by
  rcases d with ⟨_ | _, g⟩ | s <;> rfl

/-- The coordinates stay away from the end of the range of doubles. -/
def Moderate : Drawing Float → Prop
  | edges _ g => g.Stored
  | line s => Raster.Moderate s

theorem visits_defined {d : Drawing Float} (h : d.Moderate) (screen : Screen) :
    ∃ walks, visits d.segments screen = .ok walks := by
  refine visits_defined_of_moderate (fun s hs => ?_) screen
  cases d with
  | edges closed g => exact Geometry.Stored.moderate h hs
  | line s' =>
    rw [segments, List.mem_singleton] at hs
    rw [hs]
    exact h

end Drawing

/-- Draws one after the other, and adds up the counts. -/
def drawAll {α : Type} [Scalar α] : List (Drawing α × Value) → Screen → Except Error (Screen × Nat)
  | [], screen => .ok (screen, 0)
  | (d, color) :: rest, screen => do
    let first ← d.draw color screen
    let others ← drawAll rest first.1
    return (others.1, first.2 + others.2)

/-- Drawings add no more ink than they count. -/
theorem drawAll_ink {α : Type} [Scalar α] {ds : List (Drawing α × Value)} {screen : Screen}
    {r : Screen × Nat} (h : drawAll ds screen = .ok r) : r.1.ink ≤ screen.ink + r.2 := by
  induction ds generalizing screen r with
  | nil =>
    cases h
    exact Nat.le_add_right _ _
  | cons d ds ih =>
    obtain ⟨first, hfirst, h⟩ := bind_ok h
    obtain ⟨others, hothers, h⟩ := bind_ok h
    cases h
    rw [Drawing.draw_eq] at hfirst
    obtain ⟨c, ps, rfl⟩ := drawSegments_ok hfirst
    have hink := paintAll_ink c (screen, 0) ps
    have hrest := ih hothers
    dsimp only at hink ⊢
    omega

/-- **Drawing colours the pixels it visits.** Drawings with moderate coordinates find their pixels. What a
    drawing visits on the picture has its colour then, and nothing else is changed; the count is the number
    of visits on the picture. After any drawings on a clear picture there is no more ink than was counted. -/
theorem drawn_pixels :
    (∀ (d : Drawing Float) (screen : Screen), d.Moderate →
      ∃ walks, visits d.segments screen = .ok walks) ∧
    (∀ (d : Drawing Float) (screen : Screen) (v : Value) (c : Rgb), screen.Full →
      Rgb.showable v = .ok c →
        (∀ e, visits d.segments screen = .error e → d.draw v screen = .error e) ∧
        ∀ walks, visits d.segments screen = .ok walks →
          ∃ after, d.draw v screen = .ok (after, walks.flatten.countP (screen.Contains ·)) ∧
            screen.SameFrame after ∧
            ∀ p, after.get p =
              if screen.Contains p ∧ p ∈ walks.flatten then .ok c else screen.get p) ∧
    ∀ (ds : List (Drawing Float × Value)) (screen : Screen) (r : Screen × Nat),
      drawAll ds screen.clear = .ok r → r.1.ink ≤ r.2 := by
  refine ⟨fun d screen h => Drawing.visits_defined h screen, fun d screen v c hscreen hcolor => ⟨?_, ?_⟩, ?_⟩
  · intro e he
    rw [Drawing.draw_eq, drawSegments_of_showable hcolor, drawIn, he]
    rfl
  · intro walks hwalks
    refine ⟨(paintAll c (screen, 0) walks.flatten).1, ?_, paintAll_frame c (screen, 0) _,
      fun p => ?_⟩
    · have hcount := paintAll_count c (screen, 0) walks.flatten
      rw [Nat.zero_add] at hcount
      rw [Drawing.draw_eq, drawSegments_of_showable hcolor, drawIn, hwalks, ← hcount]
      exact congrArg Except.ok (foldl_paintAll c (screen, 0) walks)
    · have hpixel := @pixel?_paintAll (screen, 0) c hscreen walks.flatten p
      rw [Screen.get, Screen.get, hpixel]
      by_cases hvisited : screen.Contains p ∧ p ∈ walks.flatten
      · rw [if_pos hvisited, if_pos hvisited]
      · rw [if_neg hvisited, if_neg hvisited]
  · intro ds screen r h
    have hink := drawAll_ink h
    rwa [Screen.clear, Screen.ink_blank, Nat.zero_add] at hink

/-- A line from the left of a picture to the right of it visits its lowest row, and one pixel after it. -/
theorem drawn_pixels_row :
    ∃ after, (Drawing.line ⟨-2.0, 0.25, 9.0, 0.25⟩).draw (.str "#0000ff") (.blank 3 2 .white) =
        .ok (after, 3) ∧
      after.get ⟨2, 0⟩ = .ok ⟨0, 0, 255⟩ ∧ after.get ⟨2, 1⟩ = .ok .white := by
  obtain ⟨after, hdraw, -, hpixels⟩ := (drawn_pixels.2.1 (.line ⟨-2.0, 0.25, 9.0, 0.25⟩) (.blank 3 2 .white)
    (.str "#0000ff") ⟨0, 0, 255⟩ (Screen.blank_full 3 2 .white) (ok_of_toOption (by decide +kernel))).2
    [[⟨0, 0⟩, ⟨1, 0⟩, ⟨2, 0⟩, ⟨3, 0⟩]] (ok_of_toOption (by decide +kernel))
  exact ⟨after, hdraw, hpixels ⟨2, 0⟩, hpixels ⟨2, 1⟩⟩

end Wireframe.Raster
