import Wireframe.Proofs.InPlace
import Wireframe.Proofs.Raster.Paint

/-!
# `Wireframe.Proofs.Raster.InPlace` — drawing pixel by pixel

A drawing clips, reads its colour, and then goes from segment to segment and from pixel to pixel. A segment
whose pixels could not be found would leave a picture on which those before it have been drawn. That does
not happen where all pixels can be found, which is so for every geometry as it is stored.

## Contents
- `drawInPlace`: a drawing pixel by pixel.
- `forM_of_mapM`: looks that are known to succeed.
- `drawInPlace_eq`: a drawing whose pixels can be found is one change.
- `visits_stored`, `visits_transform`: geometries as they are stored.
-/

namespace Wireframe.Raster

open Document InPlace

variable {α : Type} [Scalar α]

/-- Draws segments pixel by pixel. -/
def drawInPlace (segments : List (Segment α)) (color : Value) : InPlace Screen Unit := do
  let inside ← look fun s => .ok (clipAll (Scalar.ofInt s.width) (Scalar.ofInt s.height) segments)
  if inside.isEmpty then pure ()
  else
    let c ← look fun _ => Rgb.showable color
    inside.forM fun segment => do
      let ps ← look fun _ => pixels segment
      ps.forM fun p => modify fun s => s.paint c p

omit [Scalar α] in
/-- What is looked up before each part of the work may be looked up before the work, if it is there. -/
theorem forM_of_mapM {σ β γ : Type} {f : β → Except Error γ} {xs : List β} {ys : List γ}
    (h : xs.mapM f = .ok ys) (a : γ → InPlace σ Unit) :
    (xs.forM fun x => look (fun _ => f x) >>= a) = ys.forM a := by
  induction xs generalizing ys with
  | nil =>
    cases h
    rfl
  | cons x rest ih =>
    rw [List.mapM_cons] at h
    obtain ⟨y, hy, h⟩ := bind_ok h
    obtain ⟨ys', hys, h⟩ := bind_ok h
    cases h
    show ((look (fun _ => f x) >>= a) >>= fun _ => rest.forM fun x => look (fun _ => f x) >>= a) =
      (a y >>= fun _ => ys'.forM a)
    rw [ih hys, hy]
    rfl

omit [Scalar α] in
/-- Pixels that are painted one after the other, whatever is counted. -/
theorem foldl_paint (c : Rgb) (ps : List Pixel) (acc : Screen × Nat) :
    (paintAll c acc ps).1 = ps.foldl (fun s p => s.paint c p) acc.1 := by
  induction ps generalizing acc with
  | nil => rfl
  | cons p rest ih =>
    have hone : (paintOne c acc p).1 = acc.1.paint c p := by
      by_cases h : acc.1.Contains p
      · rw [paintOne_of_contains h]
      · rw [paintOne_of_not_contains h, Screen.paint_of_not_contains h]
    rw [paintAll, List.foldl_cons, ← paintAll, ih, hone, List.foldl_cons]

omit [Scalar α] in
theorem forM_paint (c : Rgb) (walks : List (List Pixel)) :
    (walks.forM fun ps => ps.forM fun p => modify fun s => s.paint c p : InPlace Screen Unit) =
      atOnce fun s => .ok (walks.foldl (paintAll c) (s, 0)).1 := by
  simp only [forM_modify, ← modify_eq, foldl_paintAll, foldl_paint, List.foldl_flatten]

/-- **Pixel by pixel.** A drawing whose pixels can be found on any picture is one change. -/
theorem drawInPlace_eq {segments : List (Segment α)}
    (h : ∀ screen, ∃ walks, visits segments screen = .ok walks) (color : Value) :
    drawInPlace segments color = atOnce fun s => (drawSegments segments color s).map Prod.fst := by
  funext s
  obtain ⟨walks, hwalks⟩ := h s
  rw [drawInPlace, look_bind_value]
  simp only [atOnce, drawSegments]
  have hfound : (clipAll (Scalar.ofInt s.width) (Scalar.ofInt s.height) segments).mapM pixels =
      .ok walks := hwalks
  generalize clipAll (Scalar.ofInt s.width) (Scalar.ofInt s.height) segments = inside at hfound ⊢
  cases inside with
  | nil => rfl
  | cons segment rest =>
    rw [List.isEmpty_cons, if_neg Bool.false_ne_true]
    cases Rgb.showable color with
    | error e => rfl
    | ok c =>
      rw [look_bind_value, forM_of_mapM hfound, forM_paint]
      simp only [hfound]
      rfl

/-! ## Geometries as they are stored -/

theorem visits_stored {g : Geometry Float} (hg : g.Stored) (closed : Bool) (screen : Screen) :
    ∃ walks, visits (g.segments closed) screen = .ok walks :=
  visits_defined_of_moderate (fun _ hs => hg.moderate hs) screen

/-- What is moved into place is stored again, unless it has no vertices to draw. -/
theorem visits_transform (g : Geometry Float) (t : Matrix Float) (screen : Screen) :
    ∃ walks, visits ((g.transform t).segments true) screen = .ok walks := by
  unfold Geometry.transform
  split
  · next hempty =>
    rw [Geometry.segments_of_isEmpty hempty]
    exact ⟨[], rfl⟩
  · refine visits_stored (fun p hp => ?_) true screen
    obtain ⟨q, -, rfl⟩ := List.mem_map.mp hp
    exact ⟨q, rfl⟩

end Wireframe.Raster
