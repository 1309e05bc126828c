import Wireframe.Animation.Frames
import Wireframe.Picture

/-!
# `Wireframe.Animation.Assembly` — from frames to an animation

The frames of an animation are saved one by one and put together at the end. All frames must have the same
size. In a GIF a frame that equals the one before it only prolongs that one; a film shows every frame for
the same part of a second.

## Contents
- `Format`, `Film`: the formats, and an animation.
- `lasting`, `fitsGif`: the frames of a GIF.
- `rate`: the frames of a film in a second.
- `plot`, `writeGif`, `assemble`: the animation of a list of frames.
-/

namespace Wireframe.Animation

open Document

/-- The formats of animations. -/
inductive Format where
  | gif | mp4
  deriving DecidableEq, Repr, Inhabited

/-- The name of a format, which is the ending of its files too. -/
def Format.name : Format → String
  | .gif => "gif"
  | .mp4 => "mp4"

/-- The formats in the order in which messages list them. -/
def Format.all : List Format := [.gif, .mp4]

/-- The format with a name. -/
def Format.ofName? (name : String) : Option Format := Format.all.find? fun f => f.name == name

/-- An animation: where it is, its frames, and for films the frames in a second. -/
structure Film where
  path : Path
  frames : List Footage
  rate : Option Nat

/-- Frames with the milliseconds that each is shown; one that equals the frame before it prolongs that one. -/
def lasting (duration : Int) : List Screen → List (Screen × Int)
  | [] => []
  | s :: rest =>
    match lasting duration rest with
    | [] => [(s, duration)]
    | (t, d) :: more =>
      if s.pixels == t.pixels then (s, duration + d) :: more else (s, duration) :: (t, d) :: more

/-- Whether a GIF can show its frames so long: the duration of each is a number of two octets that counts
hundredths of a second. -/
def fitsGif (frames : List (Screen × Int)) : Bool :=
  frames.all fun f => 0 ≤ f.2.tdiv 10 && f.2.tdiv 10 < 2 ^ 16

/-- The frames in a second, from the milliseconds of a frame; at least one. -/
def rate (duration : Int) : Nat := max 1 (Decimal.roundDiv 1000 (max 1 duration).toNat)

/-- Height and width of what was read, before them the number of frames if it is an animation. -/
def shape : Footage → List Nat
  | .still s => [s.height, s.width]
  | .frames ss => ss.length :: (ss.head?.map fun s => [s.height, s.width]).getD []

/-- Whether all that was read has the same shape. -/
def sameShape : List Footage → Bool
  | a :: b :: rest => shape a == shape b && sameShape (b :: rest)
  | _ => true

/-- What is read from the files under some paths. -/
def readFrames (fs : Files) : List Path → Except Error (List Footage)
  | [] => .ok []
  | p :: rest => do
    let frame ← fs.readFootage p
    let frames ← readFrames fs rest
    return frame :: frames

/-- The picture that was read, if it is no animation. -/
def still? : Footage → Option Screen
  | .still s => some s
  | .frames _ => none

/-- The names of frames to look for: base name, ending, and how many digits their numbers have, if that is
given. The number of digits is below `2 ^ 32 - 1`. -/
def namesOf (basename ending digits : Value) : Except Error (String × String × Option Int) := do
  let digits ← if digits.isNull then pure none else digits.toInteger.map some
  let some basename := basename.str? | throw .wrongArguments
  let some ending := ending.str? | throw .notText
  if digits.any (2 ^ 32 - 1 ≤ ·) then throw .tooLarge
  return (basename, ending, digits)

/-- The given frames, or those that are found in the directory. -/
def framePaths (fs : Files) (directory : Path) (frames : Option (List Path))
    (basename ending digits : Value) : Except Error (List Path) :=
  match frames with
  | some ps => .ok ps
  | none => do
    let (basename, ending, digits) ← namesOf basename ending digits
    return (collect fs directory basename ending digits).map directory.child

/-- The format that a name with dots before it and in any case stands for. -/
def formatOf (name : Value) : Except Error Format := do
  let some name := name.str? | throw .notText
  let name := withoutDots (Text.lower name)
  match Format.ofName? name with
  | some f => return f
  | none => throw (.assemblyFormat name (Format.all.map Format.name))

/-- The file of an animation. -/
def filmPath (directory : Path) (basename : String) (format : Format) : Path :=
  directory.join (.ofString (basename ++ "." ++ format.name))

/-- What an animation is made of: its format and path, what was read, and the duration of a frame. -/
structure Plot where
  format : Format
  path : Path
  footage : List Footage
  duration : Int

/-- Reads the frames; all must have the same shape. -/
def plot (fs : Files) (basename : Value) (directory : Path) (frames : Option (List Path))
    (ending format duration digits : Value) : Except Error Plot := do
  let format ← formatOf format
  let paths ← framePaths fs directory frames basename ending digits
  if paths.isEmpty then throw (.noFrames directory.text basename.text ending.text)
  let footage ← readFrames fs paths
  if !sameShape footage then throw .frameSizes
  return ⟨format, filmPath directory basename.text format, footage, ← duration.toInteger⟩

/-- Writes a GIF: the files after that, and the animation or the cause of a failure. A duration that does not fit
leaves an empty file. -/
def writeGif (fs : Files) (p : Plot) : Files × Except Error Film :=
  match p.footage.mapM still? with
  | none => (fs, .error (if fs.exists? p.path.parent then .wrongArguments else .missing p.path.text))
  | some pictures =>
    let frames := lasting p.duration pictures
    match fs.write p.path (if fitsGif frames then .animation frames else .text "") with
    | .error e => (fs, .error e)
    | .ok fs =>
      (fs, if fitsGif frames then .ok ⟨p.path, frames.map fun f => .still f.1, none⟩ else .error .tooLarge)

/-- Puts frames together: the files after that, and the animation or the cause of a failure. -/
def assemble (fs : Files) (basename : Value) (directory : Path) (frames : Option (List Path))
    (ending format duration digits : Value) : Files × Except Error Film :=
  match plot fs basename directory frames ending format duration digits with
  | .error e => (fs, .error e)
  | .ok p =>
    match p.format with
    | .gif => writeGif fs p
    | .mp4 => (fs, .ok ⟨p.path, p.footage, some (rate p.duration)⟩)

/-- The record of an animation that was put together. -/
def assembledRecord (count : Nat) (path : Path) : Record :=
  ⟨.info, "engine.export.animation", s!"assembled {count} frames into {path.text}"⟩

end Wireframe.Animation
