import Wireframe.Axis
import Wireframe.Vec3

/-!
# `Wireframe.Opcode.Basic` — the instructions of a program

A program is a list of instructions. They move and turn the current coordinate system, draw solids and
lines, save and show the picture, and set up an animation. Symbols are referred to by name; a name is
whatever value the program gives.

## Contents
- `Opcode`: the instructions.
- `Form`, `Opcode.form`: the kinds of instructions, with `Form.className`, `Form.keyword` and the names
  of the fields, in order.
- `Field`, `Opcode.fields`: the contents of an instruction by field.
-/

namespace Wireframe

open Document

/-- A symbol or file is referred to by a value. -/
abbrev Name := Value

/-- The instructions. -/
inductive Opcode (α : Type) where
  | push
  | pop
  | move (delta : Vec3 α) (knob : Option Name)
  | scale (delta : Vec3 α) (knob : Option Name)
  | rotate (axis : Axis) (degrees : α) (knob : Option Name)
  | box (corner0 corner1 : Vec3 α) (material frame : Option Name)
  | sphere (center : Vec3 α) (radius : α) (material frame : Option Name)
  | torus (center : Vec3 α) (r0 r1 : α) (material frame : Option Name)
  | line (p0 p1 : Vec3 α) (material frame0 frame1 : Option Name)
  | save (filename : Name)
  | display
  | set (target : Name) (value : α)
  | setKnobs (value : α)
  | frames (count : Int)
  | basename (name : Name)
  | vary (target : Name) (startFrame endFrame : Int) (startVal endVal : α)
  | saveCoordSystem (name : Name)
  deriving Inhabited

/-- The kinds of instructions. -/
inductive Form where
  | push | pop | move | scale | rotate | box | sphere | torus | line | save | display | set | setKnobs
  | frames | basename | vary | saveCoordSystem
  deriving DecidableEq, Repr

namespace Form

/-- Every kind, in the order in which keywords are listed. -/
def all : List Form :=
  [push, pop, move, scale, rotate, box, sphere, torus, line, save, display, set, setKnobs, frames,
   basename, vary, saveCoordSystem]

/-- The keyword in programs. -/
def keyword : Form → String
  | push => "push"
  | pop => "pop"
  | move => "move"
  | scale => "scale"
  | rotate => "rotate"
  | box => "box"
  | sphere => "sphere"
  | torus => "torus"
  | line => "line"
  | save => "save"
  | display => "display"
  | set => "set"
  | setKnobs => "setknobs"
  | frames => "frames"
  | basename => "basename"
  | vary => "vary"
  | saveCoordSystem => "save_coord_system"

/-- The name of the kind as a word with capitals. -/
def className : Form → String
  | push => "Push"
  | pop => "Pop"
  | move => "Move"
  | scale => "Scale"
  | rotate => "Rotate"
  | box => "Box"
  | sphere => "Sphere"
  | torus => "Torus"
  | line => "Line"
  | save => "Save"
  | display => "Display"
  | set => "Set"
  | setKnobs => "SetKnobs"
  | frames => "Frames"
  | basename => "Basename"
  | vary => "Vary"
  | saveCoordSystem => "SaveCoordSystem"

/-- The fields that must be given. -/
def required : Form → List String
  | push | pop | display => []
  | move | scale => ["delta"]
  | rotate => ["axis", "degrees"]
  | box => ["corner0", "corner1"]
  | sphere => ["center", "radius"]
  | torus => ["center", "r0", "r1"]
  | line => ["p0", "p1"]
  | save => ["filename"]
  | set => ["target", "value"]
  | setKnobs => ["value"]
  | frames => ["count"]
  | basename => ["name"]
  | vary => ["target", "start_frame", "end_frame", "start_val", "end_val"]
  | saveCoordSystem => ["name"]

/-- The fields that may be left out; they follow the required ones. -/
def optional : Form → List String
  | move | scale | rotate => ["knob"]
  | box | sphere | torus => ["material", "frame"]
  | line => ["material", "frame0", "frame1"]
  | _ => []

/-- The fields in order. -/
def fieldNames (f : Form) : List String := f.required ++ f.optional

end Form

/-- The content of a field. -/
inductive Field (α : Type) where
  | point (v : Vec3 α)
  | number (x : α)
  | count (n : Int)
  | axis (a : Axis)
  | name (v : Name)

namespace Opcode

variable {α : Type}

/-- The kind of an instruction. -/
def form : Opcode α → Form
  | push => .push
  | pop => .pop
  | move .. => .move
  | scale .. => .scale
  | rotate .. => .rotate
  | box .. => .box
  | sphere .. => .sphere
  | torus .. => .torus
  | line .. => .line
  | save _ => .save
  | display => .display
  | set .. => .set
  | setKnobs _ => .setKnobs
  | frames _ => .frames
  | basename _ => .basename
  | vary .. => .vary
  | saveCoordSystem _ => .saveCoordSystem

/-- A name that may be left out. -/
def optionalName (n : Option Name) : Field α := .name (n.getD .null)

/-- The contents of the fields in order. -/
def contents : Opcode α → List (Field α)
  | push | pop | display => []
  | move delta knob | scale delta knob => [.point delta, optionalName knob]
  | rotate axis degrees knob => [.axis axis, .number degrees, optionalName knob]
  | box c0 c1 material frame => [.point c0, .point c1, optionalName material, optionalName frame]
  | sphere center radius material frame =>
    [.point center, .number radius, optionalName material, optionalName frame]
  | torus center r0 r1 material frame =>
    [.point center, .number r0, .number r1, optionalName material, optionalName frame]
  | line p0 p1 material frame0 frame1 =>
    [.point p0, .point p1, optionalName material, optionalName frame0, optionalName frame1]
  | save filename => [.name filename]
  | set target value => [.name target, .number value]
  | setKnobs value => [.number value]
  | frames count => [.count count]
  | basename name => [.name name]
  | vary target first last startVal endVal =>
    [.name target, .count first, .count last, .number startVal, .number endVal]
  | saveCoordSystem name => [.name name]

/-- The contents by field name. -/
def fields (op : Opcode α) : List (String × Field α) := op.form.fieldNames.zip op.contents

/-- The keyword of an instruction. -/
def keyword (op : Opcode α) : String := op.form.keyword

end Opcode

end Wireframe
