import Wireframe.Color

/-!
# `Wireframe.Screen` — the picture

A rectangle of coloured pixels. Columns are counted from the left and rows from the bottom; the pixels
are kept row by row from the top.

## Contents
- `Screen`, `blank`, `clear`: pictures in one colour.
- `pixel?`, `get`, `getAt`, `paint`: single pixels.
- `ink`: the number of pixels that differ from the background.
- `ofValues`: a picture from given sizes and colour.
-/

namespace Wireframe

open Document

/-- A pixel by column and row. -/
structure Pixel where
  x : Int
  y : Int
  deriving DecidableEq, Repr, Inhabited

/-- A picture: its size, the colour it is cleared to, and the pixels from the top row down. -/
structure Screen where
  width : Nat
  height : Nat
  background : Rgb
  pixels : Array Rgb
  deriving Inhabited

namespace Screen

/-- A picture in one colour. -/
def blank (width height : Nat) (background : Rgb) : Screen :=
  ⟨width, height, background, Array.replicate (width * height) background⟩

/-- Every pixel in the background colour. -/
def clear (s : Screen) : Screen := blank s.width s.height s.background

/-- Where the colour of a pixel is kept, if it is on the picture. -/
def index? (s : Screen) (p : Pixel) : Option Nat :=
  if 0 ≤ p.x && p.x < s.width && 0 ≤ p.y && p.y < s.height then
    some ((s.height - 1 - p.y.toNat) * s.width + p.x.toNat)
  else none

/-- The colour of a pixel, if it is on the picture. -/
def pixel? (s : Screen) (p : Pixel) : Option Rgb := (s.index? p).bind fun i => s.pixels[i]?

/-- The colour of a pixel. -/
def get (s : Screen) (p : Pixel) : Except Error Rgb :=
  match s.pixel? p with
  | some c => .ok c
  | none => .error (.offScreen (toString p.x) (toString p.y))

/-- The colour of a pixel given by values. Numbers with a fraction part or a point are compared with the size
of the picture, but no pixel has one; and a truth value counts as a row but not as a column. -/
def getAt (s : Screen) (x y : Value) : Except Error Rgb := do
  let inside ← x.isBelow s.width
  let inside ← if inside then y.isBelow s.height else pure false
  if !inside then throw (.offScreen x.text y.text)
  match x, y.whole with
  | _, .error _ => throw .arrayIndex
  | .int x, .ok y => s.get ⟨x, y⟩
  | .bool _, .ok _ => throw .arrayShape
  | _, .ok _ => throw .arrayIndex

/-- Colours a pixel; one that is not on the picture changes nothing. -/
def paint (s : Screen) (color : Rgb) (p : Pixel) : Screen :=
  match s.index? p with
  | some i => { s with pixels := s.pixels.setIfInBounds i color }
  | none => s

/-- The number of pixels that differ from the background. -/
def ink (s : Screen) : Nat := s.pixels.foldl (fun n c => if c == s.background then n else n + 1) 0

/-- The rows of pixels from the top. -/
def rows (s : Screen) : List (List Rgb) :=
  (List.range s.height).map fun i =>
    (s.pixels.extract (i * s.width) ((i + 1) * s.width)).toList

/-- A picture from given sizes and colour; a size that is not positive is refused. -/
def ofValues (width height background : Value) : Except Error Screen := do
  let w ← width.toInteger
  if w ≤ 0 then throw (.screenSize width.text height.text)
  let h ← height.toInteger
  if h ≤ 0 then throw (.screenSize width.text height.text)
  return blank w.toNat h.toNat (← Rgb.showable background)

end Screen

end Wireframe
