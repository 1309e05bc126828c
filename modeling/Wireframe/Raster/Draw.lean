import Wireframe.Raster.Clip
import Wireframe.Raster.Walk

/-!
# `Wireframe.Raster.Draw` — drawing into the picture

A geometry is drawn as the straight pieces between its vertices, seen along the `z` axis. Each piece is
clipped, its ends are rounded to pixels, and the pixels of the walk between them are coloured.

## Contents
- `round`, `pixelAt`, `pixels`: from segments to pixels.
- `paintAll`: colours pixels and counts those on the picture.
- `drawSegments`, `drawLines`, `drawPolygons`: drawing.
-/

namespace Wireframe.Raster

open Document

variable {α : Type} [Scalar α]

/-- The column or row that a coordinate lies in; only a finite one lies in one. -/
def round (x : α) : Except Error Int :=
  match Scalar.floor? (x + Scalar.half) with
  | some n => .ok n
  | none => .error (if Scalar.isNaN x then .nanToInteger else .infinityToInteger)

/-- The pixel that a point lies in. -/
def pixelAt (x y : α) : Except Error Pixel := do
  return ⟨← round x, ← round y⟩

/-- The pixels of a segment. -/
def pixels (s : Segment α) : Except Error (List Pixel) := do
  let p ← pixelAt s.x0 s.y0
  let q ← pixelAt s.x1 s.y1
  return walk p q

/-- Colours a pixel and counts it if it is on the picture. -/
def paintOne (color : Rgb) (acc : Screen × Nat) (p : Pixel) : Screen × Nat :=
  match acc.1.index? p with
  | some _ => (acc.1.paint color p, acc.2 + 1)
  | none => acc

/-- Colours pixels and counts those on the picture, with repetition. -/
def paintAll (color : Rgb) (acc : Screen × Nat) (ps : List Pixel) : Screen × Nat :=
  ps.foldl (paintOne color) acc

/-- Draws segments; the colour is read only if some segment reaches the picture. -/
def drawSegments (segments : List (Segment α)) (color : Value) (screen : Screen) :
    Except Error (Screen × Nat) :=
  match clipAll (Scalar.ofInt screen.width) (Scalar.ofInt screen.height) segments with
  | [] => .ok (screen, 0)
  | inside => do
    let c ← Rgb.showable color
    return (← inside.mapM pixels).foldl (paintAll c) (screen, 0)

/-- Draws polylines as they are. -/
def drawLines (g : Geometry α) (color : Value) (screen : Screen) : Except Error (Screen × Nat) :=
  drawSegments (g.segments false) color screen

/-- Draws polylines of three and more vertices closed. -/
def drawPolygons (g : Geometry α) (color : Value) (screen : Screen) : Except Error (Screen × Nat) :=
  drawSegments (g.segments true) color screen

end Wireframe.Raster
