import Wireframe.Color

/-!
# `Wireframe.Picture.Webp` — colours as WebP files show them

A WebP file holds a brightness between 16 and 235 and two colour differences between 16 and 240, the
differences in steps. In a picture of one colour every sample is the same, so that the picture is read back
in one colour as well.

## Contents
- `brightness`, `difference`, `kept`: what the file holds of a colour.
- `color`: the colour that is read back.
-/

namespace Wireframe.Picture.Webp

/-- The brightness of a colour. -/
def brightness (c : Rgb) : Int :=
  (16839 * c.red + 33059 * c.green + 6420 * c.blue + 2 ^ 15 + 16 * 2 ^ 16) / 2 ^ 16

/-- A colour difference from its sixteen-bit shares of red, green and blue. -/
def difference (r g b : Int) (c : Rgb) : Int :=
  max 0 (min 255 ((r * c.red + g * c.green + b * c.blue + 2 ^ 15 + 128 * 2 ^ 16) / 2 ^ 16))

/-- The step of the colour differences, where a difference counts eight times. -/
def step : Int := 19

/-- What is left of a colour difference: as many steps as it has, where a part of at least 146 in 256 of a step
counts as one. -/
def kept (n : Int) : Int :=
  let d := n - 128
  let steps := (8 * d.natAbs * 256 + 110 * step) / (256 * step)
  128 + (d.sign * steps * step + 4) / 8

/-- A share of full light from a number with six binary places. -/
def light (n : Int) : Int := max 0 (min 255 (n / 64))

/-- The colour that is read back. -/
def color (c : Rgb) : Rgb :=
  let y := brightness c * 19077 / 256
  let u := kept (difference (-9719) (-19081) 28800 c)
  let v := kept (difference 28800 (-24116) (-4684) c)
  ⟨light (y + v * 26149 / 256 - 14234), light (y - u * 6419 / 256 - v * 13320 / 256 + 8708),
    light (y + u * 33050 / 256 - 17685)⟩

end Wireframe.Picture.Webp
