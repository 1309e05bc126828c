import Wireframe.Tensor
import Wireframe.Screen

/-!
# `Wireframe.Picture.Jpeg` — pictures as JPEG files show them

A JPEG file holds a picture as waves. The colours become a brightness and two colour differences, the
differences at half the size; every square of eight by eight samples becomes a sum of cosine waves, and
the share of each wave is rounded to a multiple of a step that is coarser for finer waves. What is read
back is the sum of the rounded shares. All arithmetic is that of whole numbers with fixed binary points.

## Contents
- `Plane`, `Plane.sampleAt`: samples of one kind; beyond the borders the samples at the border go on.
- `forward`, `inverse`: the waves of a row of eight samples, and back.
- `rounded`: a square of samples after the rounding of its waves.
- `halved`, `doubled`: planes at half the size and back.
- `image`: the picture that is read back.
-/

namespace Wireframe.Picture.Jpeg

/-! ## Samples -/

/-- Samples of one kind, row by row. -/
structure Plane where
  width : Nat
  height : Nat
  samples : Array Int

namespace Plane

/-- The plane with given samples. -/
def tabulate (width height : Nat) (f : Nat → Nat → Int) : Plane :=
  ⟨width, height, Array.ofFn fun i : Fin (width * height) => f (i.val % width) (i.val / width)⟩

/-- A sample; beyond the right and the lower border the sample at the border counts. -/
def sampleAt (p : Plane) (x y : Nat) : Int :=
  (p.samples[min y (p.height - 1) * p.width + min x (p.width - 1)]?).getD 0

end Plane

/-- A number within the samples of eight bits. -/
def clip (n : Int) : Int := max 0 (min 255 n)

/-- A number divided by `2 ^ bits` and rounded, a half upwards. -/
def descale (bits : Nat) (n : Int) : Int := (n + 2 ^ (bits - 1)) / 2 ^ bits

/-! ## Waves

The shares of waves are computed with factors of thirteen binary places. -/

/-- The odd waves of four differences, and the same the other way round. -/
def odd (a b c d : Int) : Int × Int × Int × Int :=
  let e := (a + c + b + d) * 9633
  let ad := (a + d) * -7373
  let bc := (b + c) * -20995
  let ac := (a + c) * -16069 + e
  let bd := (b + d) * -3196 + e
  (a * 2446 + ad + ac, b * 16819 + bc + bd, c * 25172 + bc + ac, d * 12299 + ad + bd)

/-- The waves of eight samples: `whole` scales sums of samples, and `part` sums with factors. -/
def forward (whole part : Int → Int) : List Int → List Int
  | [d0, d1, d2, d3, d4, d5, d6, d7] =>
    let a := d0 + d7 + (d3 + d4)
    let b := d1 + d6 + (d2 + d5)
    let c := d1 + d6 - (d2 + d5)
    let d := d0 + d7 - (d3 + d4)
    let e := (c + d) * 4433
    let (w7, w5, w3, w1) := odd (d3 - d4) (d2 - d5) (d1 - d6) (d0 - d7)
    [whole (a + b), part w1, part (e + d * 6270), part w3, whole (a - b), part w5,
      part (e - c * 15137), part w7]
  | ds => ds

/-- The samples of eight waves. -/
def inverse (scale : Int → Int) : List Int → List Int
  | [w0, w1, w2, w3, w4, w5, w6, w7] =>
    let e := (w2 + w6) * 4433
    let low := e + w2 * 6270
    let high := e - w6 * 15137
    let (d, c, b, a) := odd w7 w5 w3 w1
    let sum := (w0 + w4) * 2 ^ 13
    let difference := (w0 - w4) * 2 ^ 13
    [scale (sum + low + a), scale (difference + high + b), scale (difference - high + c),
      scale (sum - low + d), scale (sum - low - d), scale (difference - high - c),
      scale (difference + high - b), scale (sum + low - a)]
  | ws => ws

/-- Rows and columns of a square exchanged. -/
def transpose (square : List (List Int)) : List (List Int) := Tensor.columns 8 square

/-- The waves of a square, eight times as large as they are. -/
def waves (square : List (List Int)) : List (List Int) :=
  let rows := square.map (forward (· * 4) (descale 11))
  transpose ((transpose rows).map (forward (descale 2) (descale 15)))

/-- The samples of the waves of a square. -/
def samples (waves : List (List Int)) : List (List Int) :=
  let columns := (transpose waves).map (inverse (descale 11))
  (transpose columns).map (inverse (descale 18))

/-- The multiple of a step that is nearest to a share, which is given eight times as large. -/
def nearestStep (step share : Int) : Int :=
  let divisor := 8 * step
  step * (share.sign * ((share.natAbs + divisor / 2 : Int) / divisor))

/-- The steps of the brightness. -/
def brightnessSteps : List (List Int) :=
  [[8, 6, 5, 8, 12, 20, 26, 31], [6, 6, 7, 10, 13, 29, 30, 28], [7, 7, 8, 12, 20, 29, 35, 28],
   [7, 9, 11, 15, 26, 44, 40, 31], [9, 11, 19, 28, 34, 55, 52, 39], [12, 18, 28, 32, 41, 52, 57, 46],
   [25, 32, 39, 44, 52, 61, 60, 51], [36, 46, 48, 49, 56, 50, 52, 50]]

/-- The steps of the colour differences. -/
def colorSteps : List (List Int) :=
  [[9, 9, 12, 24, 50, 50, 50, 50], [9, 11, 13, 33, 50, 50, 50, 50], [12, 13, 28, 50, 50, 50, 50, 50],
   [24, 33, 50, 50, 50, 50, 50, 50]] ++ List.replicate 4 (List.replicate 8 50)

/-- A square of samples after the rounding of its waves. -/
def roundedSquare (steps square : List (List Int)) : List (List Int) :=
  let shares := waves (square.map (·.map (· - 128)))
  let kept := List.zipWith (List.zipWith nearestStep) steps shares
  (samples kept).map (·.map fun n => clip (n + 128))

/-- A plane after the rounding of the waves in its squares, cut to a size. -/
def rounded (steps : List (List Int)) (width height : Nat) (p : Plane) : Plane :=
  let across := (width + 7) / 8
  let squares := Array.ofFn fun i : Fin (across * ((height + 7) / 8)) =>
    let x := 8 * (i.val % across)
    let y := 8 * (i.val / across)
    let square := (List.range 8).map fun dy => (List.range 8).map fun dx => p.sampleAt (x + dx) (y + dy)
    ((roundedSquare steps square).flatten).toArray
  .tabulate width height fun x y =>
    let square := (squares[y / 8 * across + x / 8]?).getD #[]
    (square[y % 8 * 8 + x % 8]?).getD 0

/-! ## Sizes -/

/-- A plane at half the size: the mean of four samples, where exact halves are rounded downwards and upwards in
turn. The rows go on beyond the right border, up to a multiple of eight samples. -/
def halved (p : Plane) : Plane :=
  .tabulate ((p.width + 15) / 16 * 8) ((p.height + 1) / 2) fun x y =>
    (p.sampleAt (2 * x) (2 * y) + p.sampleAt (2 * x + 1) (2 * y) + p.sampleAt (2 * x) (2 * y + 1) +
      p.sampleAt (2 * x + 1) (2 * y + 1) + (if x % 2 == 0 then 1 else 2)) / 4

/-- The index beside `i / 2` that is nearer to `i`, if there is one, and else `i / 2` itself. -/
def beside (i : Nat) : Nat := if i % 2 == 0 then i / 2 - 1 else i / 2 + 1

/-- A plane at twice the size: three shares of the nearest sample to one share of the next one along both
directions; very narrow planes only repeat their samples. -/
def doubled (width height : Nat) (p : Plane) : Plane :=
  .tabulate width height fun x y =>
    if p.width ≤ 2 then p.sampleAt (x / 2) (y / 2)
    else
      let column := fun x => 3 * p.sampleAt x (y / 2) + p.sampleAt x (beside y)
      (3 * column (x / 2) + column (beside x) + (if x % 2 == 0 then 8 else 7)) / 16

/-! ## Colours -/

/-- The brightness of a colour. -/
def brightness (c : Rgb) : Int := (19595 * c.red + 38470 * c.green + 7471 * c.blue + 2 ^ 15) / 2 ^ 16

/-- How much bluer a colour is than its brightness. -/
def blueness (c : Rgb) : Int :=
  (32768 * c.blue - 11059 * c.red - 21709 * c.green + 128 * 2 ^ 16 + (2 ^ 15 - 1)) / 2 ^ 16

/-- How much redder a colour is than its brightness. -/
def redness (c : Rgb) : Int :=
  (32768 * c.red - 27439 * c.green - 5329 * c.blue + 128 * 2 ^ 16 + (2 ^ 15 - 1)) / 2 ^ 16

/-- The colour of a brightness and two differences. -/
def color (y blue red : Int) : Rgb :=
  let cb := blue - 128
  let cr := red - 128
  ⟨clip (y + descale 16 (91881 * cr)), clip (y + descale 16 (-22554 * cb - 46802 * cr)),
    clip (y + descale 16 (116130 * cb))⟩

/-- The samples of one kind of a picture. -/
def plane (f : Rgb → Int) (s : Screen) : Plane := ⟨s.width, s.height, s.pixels.map f⟩

/-- A colour difference of a picture as it is read back. -/
def difference (f : Rgb → Int) (s : Screen) : Plane :=
  doubled s.width s.height
    (rounded colorSteps ((s.width + 1) / 2) ((s.height + 1) / 2) (halved (plane f s)))

/-- The picture that is read back. -/
def image (s : Screen) : Screen :=
  let y := rounded brightnessSteps s.width s.height (plane brightness s)
  let blue := difference blueness s
  let red := difference redness s
  { s with pixels := Array.ofFn fun i : Fin (s.width * s.height) =>
      color ((y.samples[i.val]?).getD 0) ((blue.samples[i.val]?).getD 0) ((red.samples[i.val]?).getD 0) }

end Wireframe.Picture.Jpeg
