import Wireframe.Symbols
import Wireframe.Stack
import Wireframe.Options
import Wireframe.Solid.Box
import Wireframe.Solid.Sphere
import Wireframe.Solid.Torus
import Wireframe.Raster.Draw

/-!
# `Wireframe.Machine` — what instructions change

Instructions work on three things: the stack of coordinate systems, the table of symbols and the picture.
What an instruction does to them depends on nothing else; saving, showing and the instructions that only
set up an animation leave them as they are. An instruction that fails changes nothing.

## Contents
- `Machine`, `fresh`: the state, and the state in which a frame starts.
- `factor`, `frameMatrix`: what names stand for.
- `Step`, `step`: one instruction.
-/

namespace Wireframe

/-- The stack of coordinate systems, the symbols and the picture. -/
structure Machine (α : Type) where
  stack : Stack α
  symbols : Symbols α
  screen : Screen
  deriving Inhabited

/-- What came of an instruction, and the materials that it passed over on the way: pictures show no
materials. -/
structure Step (α : Type) where
  passedOver : List Name
  result : Except Error (Machine α)

/-- An instruction that passes over no material. -/
def Step.of {α : Type} (r : Except Error (Machine α)) : Step α := ⟨[], r⟩

namespace Machine

variable {α : Type}

/-- Other symbols. -/
def withSymbols (m : Machine α) (r : Except Error (Symbols α)) : Except Error (Machine α) :=
  r.map fun s => { m with symbols := s }

/-- Another value for a knob. -/
def set (m : Machine α) (target : Name) (value : α) : Except Error (Machine α) :=
  m.withSymbols (m.symbols.set target value)

/-- The names of the materials that are passed over: the given one, which must be declared. -/
def passOver (m : Machine α) : Option Name → Except Error (List Name)
  | none => .ok []
  | some name => (m.symbols.lookup name).map fun r => [r.name]

/-- The coordinate system of a name; without a name the current one. -/
def frameMatrix (m : Machine α) : Option Name → Except Error (Matrix α)
  | none => .ok m.stack.top
  | some name => m.symbols.getMatrix name

/-- Leaves the coordinate system that was entered last. -/
def pop (m : Machine α) : Except Error (Machine α) :=
  m.stack.pop.map fun r => { m with stack := r.2 }

variable [Scalar α]

/-- The state in which a frame starts: the world alone and an empty picture; symbols are kept. -/
def fresh (m : Machine α) : Machine α := { m with stack := .world, screen := m.screen.clear }

/-- The factor of a transform: the value of its knob, or one. -/
def factor (m : Machine α) : Option Name → Except Error α
  | none => .ok Scalar.one
  | some knob => m.symbols.get knob

/-- Applies a transform before the current coordinate system. -/
def transform (m : Machine α) (t : Matrix α) : Machine α := { m with stack := m.stack.transform t }

/-- Draws the edges of a geometry that stands in a coordinate system. -/
def drawEdges (o : Options) (m : Machine α) (g : Geometry α) (t : Matrix α) :
    Except Error (Machine α) :=
  (Raster.drawPolygons (g.transform t) o.lineColor.toValue m.screen).map fun r =>
    { m with screen := r.1 }

/-- Draws a solid: it must exist, then its material must be declared, then its coordinate system must. -/
def drawSolid (o : Options) (m : Machine α) (solid : Except Error (Geometry α))
    (material frame : Option Name) : Step α :=
  match solid with
  | .error e => .of (.error e)
  | .ok g =>
    match m.passOver material with
    | .error e => .of (.error e)
    | .ok passed => ⟨passed, m.frameMatrix frame >>= m.drawEdges o g⟩

/-- Draws a line between two points that may stand in different coordinate systems. -/
def drawLine (o : Options) (m : Machine α) (p0 p1 : Vec3 α) (frame0 frame1 : Option Name) :
    Except Error (Machine α) := do
  let m0 ← m.frameMatrix frame0
  let m1 ← m.frameMatrix frame1
  let line := (m0.apply [p0] ++ m1.apply [p1]).map Geometry.store
  let r ← Raster.drawLines (.ofPolylines [line]) o.lineColor.toValue m.screen
  return { m with screen := r.1 }

variable [Angle α]

/-- An angle in radians. -/
def radians (degrees : α) : α := degrees * (Angle.pi / Scalar.ofInt 180)

/-- Turns the current coordinate system. -/
def rotate (m : Machine α) (axis : Axis) (degrees : α) (knob : Option Name) :
    Except Error (Machine α) := do
  let k ← m.factor knob
  let t ← Matrix.rotation axis (radians (degrees * k))
  return m.transform t

variable [Shown α]

/-- One instruction. -/
def step (o : Options) (m : Machine α) : Opcode α → Step α
  | .push => .of (.ok { m with stack := m.stack.push })
  | .pop => .of m.pop
  | .move delta knob => .of ((m.factor knob).map fun k => m.transform (.translation (delta.scale k)))
  | .scale delta knob => .of ((m.factor knob).map fun k => m.transform (.scaling (delta.scale k)))
  | .rotate axis degrees knob => .of (m.rotate axis degrees knob)
  | .box c0 c1 material frame => m.drawSolid o (.ok (Solid.box c0 c1)) material frame
  | .sphere center radius material frame =>
    m.drawSolid o (Solid.sphere center radius o.step) material frame
  | .torus center r0 r1 material frame => m.drawSolid o (Solid.torus center r0 r1 o.step) material frame
  | .line p0 p1 _ frame0 frame1 => .of (m.drawLine o p0 p1 frame0 frame1)
  | .set target value => .of (m.set target value)
  | .setKnobs value => .of (m.withSymbols (m.symbols.setAll value))
  | .saveCoordSystem name => .of (m.withSymbols (m.symbols.setMatrix name m.stack.top))
  | .save _ | .display | .frames _ | .basename _ | .vary .. => .of (.ok m)

end Machine

end Wireframe
