import Wireframe.Registry
import Wireframe.Document.Conversion
import Wireframe.Solid.Box
import Wireframe.Solid.Sphere
import Wireframe.Solid.Torus

/-!
# `Wireframe.Solid.Catalog` — solids by name

The solids are kept in a registry under their names. Further functions may be registered beside them,
but nothing that is not a function.

## Contents
- `Solid.Maker`: what can be registered.
- `catalog`, `register`: the registry.
- `build`: a solid from arguments by name.
-/

namespace Wireframe.Solid

open Document

/-- The solids. -/
inductive Shape where
  | box | sphere | torus
  deriving DecidableEq, Repr

/-- The name of a solid. -/
def Shape.name : Shape → String
  | .box => "box"
  | .sphere => "sphere"
  | .torus => "torus"

/-- What somebody may want to register: a solid, another function, or something else. -/
inductive Maker where
  | solid (s : Shape)
  | function (name : String)
  | other (name shown : String)
  deriving DecidableEq, Repr

/-- The own name of a thing. -/
def Maker.name : Maker → String
  | .solid s => s.name
  | .function name => name
  | .other name _ => name

/-- The solids under their names. -/
def catalog : Registry Maker :=
  ⟨.ofList ([Shape.box, .sphere, .torus].map fun s => (s.name, .solid s))⟩

/-- Registers a function, under its own name when none is given. -/
def register (r : Registry Maker) (name : Value) (m : Maker) : Except Error (Registry Maker) :=
  match m with
  | .other _ shown => .error (.notFunction shown)
  | m => r.register name m.name m

/-! ## Arguments -/

/-- The arguments of a solid by name. -/
abbrev Arguments := Dict Label Value

/-- An argument, or a default. -/
def argument (args : Arguments) (name : String) (default : Value) : Value :=
  (args.find? (.text name)).getD default

/-- Refuses arguments that are unknown or missing. -/
def checkArguments (args : Arguments) (known required : List String) : Except Error Unit :=
  if args.keys.all (fun k => known.any fun n => k == .text n) &&
      required.all (fun n => args.contains (.text n)) then .ok ()
  else .error .wrongArguments

/-- A number of steps, at least three. -/
def stepOf (v : Value) : Except Error Int := do
  let n ← v.toInteger
  if n < 3 then throw (.coarseStep v.text) else return n

/-- The point at the origin, as a value. -/
def origin : Value := .list [.float 0.0, .float 0.0, .float 0.0]

/-- A box from arguments. -/
def boxOf (args : Arguments) : Except Error (Geometry Float) := do
  checkArguments args ["corner0", "corner1"] ["corner0", "corner1"]
  let c0 ← (argument args "corner0" .null).toVec3 "corner0"
  let c1 ← (argument args "corner1" .null).toVec3 "corner1"
  return box c0 c1

/-- A sphere from arguments: unit sphere at the origin, twenty steps. -/
def sphereOf (args : Arguments) : Except Error (Geometry Float) := do
  checkArguments args ["center", "radius", "step"] []
  let center ← (argument args "center" origin).toVec3 "center"
  let radius := argument args "radius" (.float 1.0)
  if ← radius.isBelowZero then throw (.negativeRadius radius.text)
  let step ← stepOf (argument args "step" (.int 20))
  sphere center (← radius.toFloat) step

/-- A torus from arguments: radii 0.25 and 1 at the origin, twenty steps. -/
def torusOf (args : Arguments) : Except Error (Geometry Float) := do
  checkArguments args ["center", "r0", "r1", "step"] []
  let center ← (argument args "center" origin).toVec3 "center"
  let r0 := argument args "r0" (.float 0.25)
  let r1 := argument args "r1" (.float 1.0)
  if ← r0.isBelowZero then throw (.negativeRadii r0.text r1.text)
  if ← r1.isBelowZero then throw (.negativeRadii r0.text r1.text)
  let step ← stepOf (argument args "step" (.int 20))
  torus center (← r0.toFloat) (← r1.toFloat) step

/-- A solid from arguments. -/
def Shape.build (s : Shape) (args : Arguments) : Except Error (Geometry Float) :=
  match s with
  | .box => boxOf args
  | .sphere => sphereOf args
  | .torus => torusOf args

/-- A solid by name. -/
def build (r : Registry Maker) (name : Value) (args : Arguments) : Except Error (Geometry Float) := do
  match ← r.get name with
  | .solid s => s.build args
  | _ => throw .wrongArguments

end Wireframe.Solid
