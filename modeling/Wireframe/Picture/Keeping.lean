import Wireframe.Files
import Wireframe.Picture.Jpeg
import Wireframe.Picture.Webp
import Wireframe.Text.Case

/-!
# `Wireframe.Picture.Keeping` — what files keep of pictures

The ending of a file name says in which format a picture is saved. Many formats keep every pixel, some come
only close to them, and some are not made for pictures like these: their files cannot be read again, or
nothing is written to them.

## Contents
- `Keeping`, `Keeping.ofEnding?`: the formats by what they keep.
- `Keeping.entry`, `Keeping.refusal?`: what is in the file, and whether saving fails.
- `isKept`: whether a picture is read back as it was.
-/

namespace Wireframe.Picture

/-- What a format keeps of pictures. -/
inductive Keeping where
  /-- Every pixel. -/
  | exact
  /-- Every pixel, in a film of one frame. -/
  | film
  /-- Rounded waves. -/
  | jpeg
  /-- Rounded waves of another kind. -/
  | webp
  /-- Squares of certain sizes. -/
  | icon
  /-- A picture at other sizes. -/
  | resized
  /-- A page that is not read again. -/
  | page
  /-- Nothing: there is no way to write such a file. -/
  | nothing (kind : Kind)
  deriving DecidableEq, Repr

namespace Keeping

/-- The endings of the formats that keep every pixel. -/
def exactEndings : List String :=
  ["png", "apng", "bmp", "dib", "tif", "tiff", "tga", "icb", "vda", "vst", "ppm", "pgm", "pbm", "pnm", "pfm",
   "pcx", "sgi", "rgb", "rgba", "bw", "im", "dds", "jp2", "j2k", "jpc", "jpf", "jpx", "j2c", "npz", "bsdf"]

/-- The endings of the formats that are only read. -/
def readOnlyEndings : List String :=
  ["cur", "dcx", "fit", "fits", "fli", "flc", "ftc", "ftu", "gbr", "iim", "mic", "pcd", "pxr", "psd", "ras", "xpm"]

/-- The endings of the formats for pictures with few colours, or for what is not made of pixels. -/
def foreignEndings : List String :=
  ["xbm", "msp", "palm", "bufr", "grib", "h5", "hdf", "wmf", "emf"]

/-- The formats by their endings. -/
def table : List (Keeping × List String) :=
  [(exact, exactEndings), (film, ["gif"]), (jpeg, ["jpg", "jpeg", "jpe", "jfif", "mpo"]), (webp, ["webp"]),
   (icon, ["ico"]), (resized, ["icns"]), (page, ["pdf", "ps", "eps"]), (nothing .key, readOnlyEndings),
   (nothing .system, foreignEndings), (nothing .value, ["blp"])]

/-- The format of an ending with its dot, in any case. -/
def ofEnding? (ending : String) : Option Keeping :=
  (table.find? fun e => e.2.any fun known => Text.lower ending == "." ++ known).map (·.1)

/-- The sizes of icons. -/
def iconSizes : List Nat := [16, 24, 32, 48, 64, 128, 256]

/-- The picture of the greatest size that an icon has, if it has one: the icon keeps the pixels of a square
that has one of its sizes. -/
def iconOf? (s : Screen) : Option Screen :=
  let fitting := iconSizes.filter fun n => n ≤ s.width && n ≤ s.height
  fitting.getLast?.map fun n => if s.width == n && s.height == n then s else .blank n n s.background

/-- Whether all pixels of a picture have one colour. -/
def isPlain (s : Screen) : Bool := s.pixels.all fun c => some c == s.pixels[0]?

/-- A picture of one colour as a WebP file shows it. Of other pictures nothing is said. -/
def webpImage (s : Screen) : Screen :=
  if isPlain s then { s with pixels := s.pixels.map Webp.color } else s

/-- What is in the file of a picture. -/
def entry (k : Keeping) (s : Screen) : Entry :=
  match k with
  | exact => .picture s
  | film => .animation [(s, 0)]
  | jpeg => .picture (Jpeg.image s)
  | webp => .picture (webpImage s)
  | icon => ((iconOf? s).map Entry.picture).getD (.page s)
  | resized => .picture (.blank 1024 1024 s.background)
  | page => .page s
  | nothing _ => .text ""

/-- The failure of saving in a format that cannot be written. -/
def refusal? : Keeping → Option Error
  | nothing kind => some (.outside kind)
  | _ => none

end Keeping

/-- Whether what is read from a file is a picture as it was; in a WebP file only a picture of one colour can
be. -/
def isKept (k : Keeping) (s : Screen) : Footage → Bool
  | .still t =>
    s.width == t.width && s.height == t.height && s.pixels == t.pixels &&
      (k != .webp || Keeping.isPlain s)
  | _ => false

end Wireframe.Picture
