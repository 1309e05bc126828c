import Wireframe.Raster.Draw
import Wireframe.Proofs.Basic

/-!
# `Wireframe.Proofs.Raster.Draw` — drawing in two parts

A drawing finds the pixels that it visits, and colours them. The pixels do not depend on the colour, and
the colour is read before any of them is coloured.

## Contents
- `visits`: the pixels of a drawing.
- `drawIn`, `drawSegments_of_showable`: drawing in a colour that is known.
- `foldl_paintAll`, `drawSegments_ok`: whatever is drawn is painted.
- `paintAll_clear`: painting keeps the size and the background of the picture.
-/

namespace Wireframe.Raster

open Document

variable {α : Type} [Scalar α]

/-- The pixels of what is seen of segments, segment by segment. -/
def visits (segments : List (Segment α)) (screen : Screen) : Except Error (List (List Pixel)) :=
  (clipAll (Scalar.ofInt screen.width) (Scalar.ofInt screen.height) segments).mapM pixels

/-- Drawing in a colour that is known. -/
def drawIn (c : Rgb) (segments : List (Segment α)) (screen : Screen) : Except Error (Screen × Nat) :=
  (visits segments screen).map fun ps => ps.foldl (paintAll c) (screen, 0)

/-- **A drawing colours the pixels it visits.** -/
theorem drawSegments_of_showable {v : Value} {c : Rgb} (h : Rgb.showable v = .ok c)
    (segments : List (Segment α)) (screen : Screen) :
    drawSegments segments v screen = drawIn c segments screen := by
  unfold drawSegments drawIn visits
  generalize clipAll (Scalar.ofInt screen.width) (Scalar.ofInt screen.height) segments = inside
  cases inside with
  | nil => rfl
  | cons s rest =>
    simp only [h]
    cases (s :: rest).mapM pixels <;> rfl

omit [Scalar α] in
theorem paintAll_clear (c : Rgb) (acc : Screen × Nat) (ps : List Pixel) :
    (paintAll c acc ps).1.clear = acc.1.clear := by
  induction ps generalizing acc with
  | nil => rfl
  | cons p rest ih =>
    have hone : (paintOne c acc p).1.clear = acc.1.clear := by
      unfold paintOne
      split
      · next i hi =>
        simp only [Screen.paint, hi]
        rfl
      · rfl
    exact (ih (paintOne c acc p)).trans hone

omit [Scalar α] in
theorem foldl_paintAll (color : Rgb) (acc : Screen × Nat) (walks : List (List Pixel)) :
    walks.foldl (paintAll color) acc = paintAll color acc walks.flatten := by
  rw [paintAll, List.foldl_flatten]
  rfl

/-- Whatever was drawn was painted in one colour. -/
theorem drawSegments_ok {segments : List (Segment α)} {v : Value} {screen : Screen} {r : Screen × Nat}
    (h : drawSegments segments v screen = .ok r) : ∃ c ps, r = paintAll c (screen, 0) ps := by
  unfold drawSegments at h
  split at h
  · cases h
    exact ⟨.black, [], rfl⟩
  · obtain ⟨c, -, h⟩ := bind_ok h
    obtain ⟨walks, -, h⟩ := bind_ok h
    cases h
    exact ⟨c, walks.flatten, foldl_paintAll c (screen, 0) walks⟩

end Wireframe.Raster
