import Wireframe.Opcode.Describe
import Wireframe.Run.Action
import Wireframe.Animation.Plan

/-!
# `Wireframe.Run` — running a program

A program without an animation runs once. In an animation it runs once for every frame: the knobs of the
frame are set, the stack and the picture start afresh, the instructions follow one another, and the
picture is saved as the file of the frame. After the last frame the files are put together. Symbols are
kept from frame to frame. The first failure ends the run.

## Contents
- `Setup`, `Report`: what a run needs, and what comes of it.
- `exec`, `perform`, `runOps`: instructions.
- `applyKnobs`, `runFrame`, `saveFrame`, `runFrames`: frames.
- `still`, `animate`, `run`, `runs`: whole runs.
-/

namespace Wireframe.Run

open Document

/-- What a run needs: the program, its options and its plan, whether every instruction and the knobs of
every frame are reported, and those outside. -/
structure Setup (α ω : Type) where
  ops : List (Opcode α)
  options : Options
  plan : Plan α
  traced : Bool
  knobsShown : Bool
  outside : Outside ω

/-- What comes of a run: the files of the frames, the pictures that instructions saved, and the
animation. -/
structure Report where
  frameCount : Int
  basename : Name
  framePaths : List Path
  savedPaths : List Path
  animation : Option Path

/-- The knobs of a frame. -/
def knobsAt {α : Type} (t : Timeline α) (frame : Nat) : Except Error (Knobs α) :=
  match t.frames[frame]? with
  | some knobs => .ok knobs
  | none => .error .arrayIndex

/-- Sets knobs one after the other. -/
def setKnobs {α ω : Type} : List (Label × α) → Action α ω Unit
  | [] => pure ()
  | (name, value) :: rest => do
    Action.change fun m => m.set name.value value
    setKnobs rest

namespace Setup

variable {α ω : Type}

/-- The number of frames. -/
def frameCount (c : Setup α ω) : Int := c.plan.settings.frameCount

/-- The base name of the files. -/
def basename (c : Setup α ω) : Name := c.plan.settings.basename

/-- Calls for the picture to be saved. -/
def save (c : Setup α ω) (path : Path) : Action α ω (Option Path) :=
  Action.call (.save path) fun screen => c.outside.save screen path

/-- Saves the picture for an instruction, under the path that is answered, if one is. -/
def saveAs (c : Setup α ω) (filename : Name) : Action α ω Unit := do
  let path ← Action.lift (Path.ofValue filename)
  let answer ← c.save path
  let path := answer.getD path
  Action.note (.saved path)
  Action.keep path

/-- The digits in the names of frame files. -/
def digits (c : Setup α ω) : Int := Animation.frameWidth c.frameCount c.options.frameDigits

/-- The file of a frame. -/
def framePath (c : Setup α ω) (directory : Path) (frame : Nat) : Path :=
  directory.join (.ofString
    (Animation.frameName c.basename.text frame c.digits.toNat c.options.frameExt))

/-- Saves the picture as the file of a frame. -/
def saveFrame (c : Setup α ω) (directory : Path) (frame : Nat) : Action α ω Path := do
  if !c.basename.isWritable then Action.lift (.error .unwritable)
  if !Animation.isWidth c.digits then Action.lift (.error .notNumber)
  let path := c.framePath directory frame
  let _ ← c.save path
  Action.note (.frameWritten (frame + 1) c.frameCount path)
  return path

/-- The order to put the frames together. -/
def order (c : Setup α ω) (directory : Path) (frames : List Path) : AssemblyOrder where
  basename := c.basename
  directory := directory
  frames := frames
  ending := c.options.frameExt
  format := c.options.format
  duration := c.options.frameDuration
  digits := c.digits

/-- Makes the directory of the animation, and counts the digits of the numbers in it. -/
def openDirectory (c : Setup α ω) : Action α ω Path := do
  let path ← Action.lift (Path.ofValue c.options.outputDir)
  let directory ← Action.consult (c.outside.openDirectory path)
  let _ ← Action.lift (Animation.frameDigits c.frameCount c.options.frameDigits)
  return directory

/-- Calls for the frames to be put together. -/
def assemble (c : Setup α ω) (directory : Path) (frames : List Path) : Action α ω (Option Path) :=
  let order := c.order directory frames
  Action.call (.assemble order) fun _ => c.outside.assemble order

/-- Reports the knobs. -/
def showKnobs (c : Setup α ω) [Shown α] (frame : Nat) : Action α ω Unit := do
  if c.knobsShown then
    let table ← Action.look fun s => s.machine.symbols.knobTable
    let table ← Action.lift table
    Action.note (.knobs frame table)

/-- Sets the knobs of a frame. -/
def applyKnobs (c : Setup α ω) [Shown α] (frame : Nat) : Action α ω Unit :=
  match c.plan.timeline with
  | none => pure ()
  | some timeline => do
    let knobs ← Action.lift (knobsAt timeline frame)
    setKnobs knobs.entries
    c.showKnobs frame

variable [Scalar α] [Angle α] [Shown α]

/-- What an instruction does. -/
def exec (c : Setup α ω) : Opcode α → Action α ω Unit
  | .save filename => c.saveAs filename
  | .display => Action.call .view c.outside.view
  | op => Action.advance fun m => m.step c.options op

/-- One instruction, with what is reported of it. One that cannot be written does not get to run where
instructions are traced. -/
def perform (c : Setup α ω) (frame index : Nat) (op : Opcode α) : Action α ω Unit := do
  if c.traced then
    let line ← Action.lift op.describe
    Action.note (.traced index line)
  (c.exec op).orReport (op.describe.map (.failed frame index))

/-- Instructions one after the other; `index` is the number of the first one. -/
def runOps (c : Setup α ω) (frame index : Nat) : List (Opcode α) → Action α ω Unit
  | [] => pure ()
  | op :: rest => do
    c.perform frame index op
    runOps c frame (index + 1) rest

/-- The program, from an empty picture. -/
def runFrame (c : Setup α ω) (frame : Nat) : Action α ω Unit := do
  Action.change fun m => .ok m.fresh
  c.runOps frame 0 c.ops

/-- One frame of an animation. -/
def animateFrame (c : Setup α ω) (directory : Path) (frame : Nat) : Action α ω Path := do
  c.applyKnobs frame
  c.runFrame frame
  c.saveFrame directory frame

/-- Frames one after the other. -/
def runFrames (c : Setup α ω) (directory : Path) : List Nat → Action α ω (List Path)
  | [] => pure []
  | frame :: rest => do
    let path ← c.animateFrame directory frame
    let paths ← runFrames c directory rest
    return path :: paths

/-- The report of a run. -/
def report (c : Setup α ω) (frames saved : List Path) (animation : Option Path) : Report :=
  ⟨c.frameCount, c.basename, frames, saved, animation⟩

/-- A program without an animation. -/
def still (c : Setup α ω) : Action α ω Report := do
  c.runFrame 0
  let saved ← Action.look State.saved
  return c.report [] saved none

/-- An animation. -/
def animate (c : Setup α ω) : Action α ω Report := do
  let directory ← c.openDirectory
  let frames ← c.runFrames directory (List.range c.frameCount.toNat)
  let saved ← Action.look State.saved
  let animation ← c.assemble directory frames
  return c.report frames saved animation

/-- A run. -/
def run (c : Setup α ω) : Action α ω Report :=
  if c.plan.settings.animated then c.animate else c.still

/-- Runs one after the other, whether they fail or not; each starts in the state after the one before
it. -/
def runs (c : Setup α ω) : Nat → State α ω → List (Outcome α ω Report)
  | 0, _ => []
  | n + 1, s =>
    let r := c.run s
    r :: runs c n r.state

end Setup

end Wireframe.Run
