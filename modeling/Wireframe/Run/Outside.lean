import Wireframe.Stack
import Wireframe.Opcode.Basic
import Wireframe.Animation.Assembly

/-!
# `Wireframe.Run.Outside` — those whom a run calls

Saving a picture, showing it and putting an animation together is done by others: a run calls them and
goes on with their answer. Whatever they keep in mind is a world of their own, which a run only passes on.

## Contents
- `Reply`: an answer.
- `AssemblyOrder`, `Outside`: what they can be asked for.
- `Request`, `Call`: a call, as it is kept in the history of a run.
-/

namespace Wireframe.Run

open Document

/-- An answer: what came of the call, the world after it, and what there is to report. -/
structure Reply (ω β : Type) where
  result : Except Error β
  world : ω
  records : List Record

/-- The order to put the frames of an animation together. -/
structure AssemblyOrder where
  basename : Name
  directory : Path
  frames : List Path
  ending : String
  format : Animation.Format
  duration : Int
  digits : Int

/-- Those outside. Who saves or assembles may answer where the result is. -/
structure Outside (ω : Type) where
  openDirectory : Path → ω → Reply ω Path
  save : Screen → Path → ω → Reply ω (Option Path)
  view : Screen → ω → Reply ω Unit
  assemble : AssemblyOrder → ω → Reply ω (Option Path)

/-- What a call asks for. -/
inductive Request where
  | save (path : Path)
  | view
  | assemble (order : AssemblyOrder)

/-- A call in the history of a run: what was asked for, the stack and the picture at that time, and
whether the call succeeded. -/
structure Call (α : Type) where
  request : Request
  stack : Stack α
  screen : Screen
  succeeded : Bool

end Wireframe.Run
