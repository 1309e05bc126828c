import Wireframe.Picture

/-!
# `Wireframe.Picture.Encoding` — the octets of picture files

Pictures and animations as octets, without compression. A format is a header and the pixels, row by row;
the formats differ in the order of rows and colours and in what they protect by check sums.

## Contents
- `lowFirst`, `highFirst`: numbers as octets.
- `png`, `bmp`, `dib`, `ppm`, `tga`, `tiff`: pictures.
- `gif`: animations.
- `encode?`: the octets for an ending.
-/

namespace Wireframe.Picture

/-- The octets of a number, the lowest one first. -/
def lowFirst (width n : Nat) : List UInt8 :=
  (List.range width).map fun i => (n >>> (8 * i)).toUInt8

/-- The octets of a number, the highest one first. -/
def highFirst (width n : Nat) : List UInt8 := (lowFirst width n).reverse

/-- Octets as an array. -/
def octets (bs : List UInt8) : ByteArray := ⟨bs.toArray⟩

/-- The octets of a plain text. -/
def letters (s : String) : List UInt8 := s.toUTF8.toList

/-- The octets of a colour, red first. -/
def redFirst (c : Rgb) : List UInt8 := c.toList.map fun x => x.toNat.toUInt8

/-- The octets of a colour, blue first. -/
def blueFirst (c : Rgb) : List UInt8 := (redFirst c).reverse

/-- The octets of rows of colours, with octets before and after every row. -/
def rowsOctets (color : Rgb → List UInt8) (before after : List UInt8) (rows : List (List Rgb)) :
    ByteArray :=
  rows.foldl (fun acc row =>
    (before ++ row.flatMap color ++ after).foldl ByteArray.push acc) .empty

/-! ## Check sums -/

/-- One bit of the cyclic check sum. -/
def crcBit (c : UInt32) : UInt32 := if c &&& 1 == 1 then (c >>> 1) ^^^ 0xEDB88320 else c >>> 1

/-- One octet of the cyclic check sum. -/
def crcOctet (c : UInt32) (b : UInt8) : UInt32 :=
  Nat.fold 8 (fun _ _ c => crcBit c) (c ^^^ b.toUInt32)

/-- The cyclic check sum of octets. -/
def crc (bs : ByteArray) : UInt32 := bs.foldl crcOctet 0xFFFFFFFF ^^^ 0xFFFFFFFF

/-- The two running sums of octets, as one number. -/
def runningSums (bs : ByteArray) : Nat :=
  let (a, b) := bs.foldl (fun (a, b) x =>
    let a := (a + x.toNat) % 65521
    (a, (b + a) % 65521)) (1, 0)
  b * 65536 + a

/-! ## Pictures -/

/-- A part of a PNG file. -/
def chunk (kind : String) (body : ByteArray) : ByteArray :=
  let named := octets (letters kind) ++ body
  octets (highFirst 4 body.size) ++ named ++ octets (highFirst 4 (crc named).toNat)

/-- One block of octets that are kept as they are. -/
def storedBlock (bs : ByteArray) (last : Bool) : ByteArray :=
  octets ([if last then 1 else 0] ++ lowFirst 2 bs.size ++ lowFirst 2 (65535 - bs.size)) ++ bs

/-- A stream of blocks of octets that are kept as they are. -/
def storedStream (bs : ByteArray) : ByteArray :=
  let count := (bs.size + 65534) / 65535
  let blocks := (List.range count).foldl (fun acc i =>
    acc ++ storedBlock (bs.extract (i * 65535) ((i + 1) * 65535)) (i + 1 == count)) .empty
  octets [0x78, 0x01] ++ blocks ++ octets (highFirst 4 (runningSums bs))

/-- A PNG file. -/
def png (s : Screen) : ByteArray :=
  octets [0x89, 0x50, 0x4E, 0x47, 0x0D, 0x0A, 0x1A, 0x0A] ++
    chunk "IHDR" (octets (highFirst 4 s.width ++ highFirst 4 s.height ++ [8, 2, 0, 0, 0])) ++
    chunk "IDAT" (storedStream (rowsOctets redFirst [0] [] s.rows)) ++ chunk "IEND" .empty

/-- A bitmap without the header of a file: rows from below, each filled up to a multiple of four octets. -/
def dib (s : Screen) : ByteArray :=
  let gap := List.replicate ((4 - 3 * s.width % 4) % 4) 0
  let body := rowsOctets blueFirst [] gap s.rows.reverse
  octets (lowFirst 4 40 ++ lowFirst 4 s.width ++ lowFirst 4 s.height ++ lowFirst 2 1 ++ lowFirst 2 24 ++
    lowFirst 4 0 ++ lowFirst 4 body.size ++ lowFirst 4 3780 ++ lowFirst 4 3780 ++ lowFirst 8 0) ++ body

/-- A bitmap file. -/
def bmp (s : Screen) : ByteArray :=
  let body := dib s
  octets (letters "BM" ++ lowFirst 4 (14 + body.size) ++ lowFirst 4 0 ++ lowFirst 4 54) ++ body

/-- A portable pixel map. -/
def ppm (s : Screen) : ByteArray :=
  octets (letters s!"P6\n{s.width} {s.height}\n255\n") ++ rowsOctets redFirst [] [] s.rows

/-- A TGA file with the top row first. -/
def tga (s : Screen) : ByteArray :=
  octets ([0, 0, 2, 0, 0, 0, 0, 0, 0, 0, 0, 0] ++ lowFirst 2 s.width ++ lowFirst 2 s.height ++ [24, 0x20]) ++
    rowsOctets blueFirst [] [] s.rows

/-- One entry of the directory of a TIFF file: `size` 3 for short numbers and 4 for long ones. -/
def tiffEntry (tag size count value : Nat) : List UInt8 :=
  lowFirst 2 tag ++ lowFirst 2 size ++ lowFirst 4 count ++ lowFirst 4 value

/-- A TIFF file: a directory of nine entries, the sizes of the three colours, and one strip of pixels. -/
def tiff (s : Screen) : ByteArray :=
  let body := rowsOctets redFirst [] [] s.rows
  octets (letters "II" ++ lowFirst 2 42 ++ lowFirst 4 8 ++ lowFirst 2 9 ++ tiffEntry 256 4 1 s.width ++
    tiffEntry 257 4 1 s.height ++ tiffEntry 258 3 3 122 ++ tiffEntry 259 3 1 1 ++ tiffEntry 262 3 1 2 ++
    tiffEntry 273 4 1 128 ++ tiffEntry 277 3 1 3 ++ tiffEntry 278 4 1 s.height ++
    tiffEntry 279 4 1 body.size ++ lowFirst 4 0 ++ lowFirst 2 8 ++ lowFirst 2 8 ++ lowFirst 2 8) ++ body

/-! ## Animations -/

/-- Codes of nine bits on their way into octets: the bits that do not fill an octet yet. -/
structure Packer where
  bytes : ByteArray := .empty
  bits : Nat := 0
  count : Nat := 0

/-- Adds a code of nine bits: at least one octet is full then, and two are if seven bits waited. -/
def Packer.add (p : Packer) (code : Nat) : Packer :=
  let bits := p.bits + (code <<< p.count)
  let count := p.count + 9
  let bytes := p.bytes.push bits.toUInt8
  if count < 16 then ⟨bytes, bits >>> 8, count - 8⟩
  else ⟨bytes.push (bits >>> 8).toUInt8, bits >>> 16, count - 16⟩

/-- Pixels as codes of nine bits. The table of codes is emptied before it makes codes longer. -/
def packPixels (indices : List Nat) : ByteArray :=
  let p := (indices.zip (List.range indices.length)).foldl (fun (p : Packer) (index, i) =>
    (if i % 250 == 0 then p.add 256 else p).add index) {}
  let p := p.add 257
  if p.count == 0 then p.bytes else p.bytes.push p.bits.toUInt8

/-- Octets in blocks of at most 255, and an empty block at the end. -/
def subBlocks (bs : ByteArray) : ByteArray :=
  let count := (bs.size + 254) / 255
  let blocks := (List.range count).foldl (fun acc i =>
    let block := bs.extract (i * 255) ((i + 1) * 255)
    acc ++ octets [block.size.toUInt8] ++ block) .empty
  blocks.push 0

/-- The colours of pictures in the order in which they come up, at most 256. -/
def paletteOf (frames : List Screen) : Array Rgb :=
  frames.foldl (fun palette s => s.pixels.foldl (fun palette c =>
    if palette.size < 256 && !palette.contains c then palette.push c else palette) palette) #[]

/-- One frame of a GIF file, shown for some hundredths of a second. -/
def gifFrame (palette : Array Rgb) (delay : Nat) (s : Screen) : ByteArray :=
  let indices := s.pixels.toList.map fun c => (palette.findIdx? (· == c)).getD 0
  octets ([0x21, 0xF9, 4, 0] ++ lowFirst 2 delay ++ [0, 0, 0x2C, 0, 0, 0, 0] ++ lowFirst 2 s.width ++
    lowFirst 2 s.height ++ [0, 8]) ++ subBlocks (packPixels indices)

/-- A GIF file that is shown over and over. -/
def gif (frames : List (Screen × Int)) : ByteArray :=
  let palette := paletteOf (frames.map (·.1))
  let table := palette.toList.flatMap redFirst ++ List.replicate (768 - 3 * palette.size) 0
  let size := (frames.head?.map fun f => (f.1.width, f.1.height)).getD (1, 1)
  frames.foldl (fun acc f => acc ++ gifFrame palette (f.2.toNat / 10) f.1)
      (octets (letters "GIF89a" ++ lowFirst 2 size.1 ++ lowFirst 2 size.2 ++ [0xF7, 0, 0] ++ table ++
        [0x21, 0xFF, 11] ++ letters "NETSCAPE2.0" ++ [3, 1, 0, 0, 0])) |>.push 0x3B

/-- The octets of a picture in the format of an ending in lower case, if the format has a plain form. -/
def encode? (ending : String) (s : Screen) : Option ByteArray :=
  match ending with
  | ".png" => some (png s)
  | ".bmp" => some (bmp s)
  | ".dib" => some (dib s)
  | ".ppm" | ".pnm" => some (ppm s)
  | ".tga" => some (tga s)
  | ".tif" | ".tiff" => some (tiff s)
  | ".gif" => some (gif [(s, 0)])
  | _ => none

end Wireframe.Picture
