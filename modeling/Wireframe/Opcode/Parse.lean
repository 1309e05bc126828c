import Wireframe.Opcode.Keyword
import Wireframe.Document.Conversion

/-!
# `Wireframe.Opcode.Parse` — reading programs from documents

A program is a sequence of items, or a table with that sequence under `ops`. An item is a keyword, or a
table with the keyword under `op`, further fields by name, and the leading fields by position under
`args`. The opposite corner of a box may be given by its `size`.

## Contents
- `Item.split`: keyword and fields of an item.
- `Form.build`: an instruction from its fields.
- `parseItem`, `parseProgram`: the two readers.
-/

namespace Wireframe

open Document

/-- The fields of an item that are given, by name. -/
abbrev Fields := Dict Label Value

namespace Fields

/-- The content of a field; a field that is left out is null. -/
def content (fs : Fields) (name : String) : Value := (fs.find? (.text name)).getD .null

/-- The name in a field, unless it is left out. -/
def name? (fs : Fields) (name : String) : Option Name := (fs.content name).present?

/-- The point in a field. -/
def point (fs : Fields) (name : String) : Except Error (Vec3 Float) :=
  (fs.content name).toVec3 name

/-- The number in a field. -/
def number (fs : Fields) (name : String) : Except Error Float := (fs.content name).toFloat

/-- The whole number in a field. -/
def whole (fs : Fields) (name : String) : Except Error Int := (fs.content name).toWhole name

end Fields

/-- An instruction from its fields, all of which have names of its kind. -/
def Form.build (form : Form) (fs : Fields) : Except Error (Opcode Float) :=
  match form with
  | .push => .ok .push
  | .pop => .ok .pop
  | .display => .ok .display
  | .move => do
    return .move (← fs.point "delta") (fs.name? "knob")
  | .scale => do
    return .scale (← fs.point "delta") (fs.name? "knob")
  | .rotate => do
    return .rotate (← Axis.ofValue (fs.content "axis")) (← fs.number "degrees") (fs.name? "knob")
  | .box => do
    return .box (← fs.point "corner0") (← fs.point "corner1") (fs.name? "material") (fs.name? "frame")
  | .sphere => do
    return .sphere (← fs.point "center") (← fs.number "radius") (fs.name? "material")
      (fs.name? "frame")
  | .torus => do
    return .torus (← fs.point "center") (← fs.number "r0") (← fs.number "r1") (fs.name? "material")
      (fs.name? "frame")
  | .line => do
    return .line (← fs.point "p0") (← fs.point "p1") (fs.name? "material") (fs.name? "frame0")
      (fs.name? "frame1")
  | .save => .ok (.save (fs.content "filename"))
  | .set => do
    return .set (fs.content "target") (← fs.number "value")
  | .setKnobs => do
    return .setKnobs (← fs.number "value")
  | .frames => do
    return .frames (← fs.whole "count")
  | .basename => .ok (.basename (fs.content "name"))
  | .vary => do
    return .vary (fs.content "target") (← fs.whole "start_frame") (← fs.whole "end_frame")
      (← fs.number "start_val") (← fs.number "end_val")
  | .saveCoordSystem => .ok (.saveCoordSystem (fs.content "name"))

/-- The number of parts of a field, which must be a value with parts. -/
def partCount (v : Value) : Except Error Nat :=
  match v.size? with
  | some n => .ok n
  | none => .error .notIterable

/-- The numbers that a field is made of. -/
def partNumbers (v : Value) : Except Error (List Float) := Value.toFloats (v.items?.getD [])

/-- Replaces the size of a box by the corner opposite to `corner0`: to the right, down and back. -/
def cornerFromSize (fs : Fields) : Except Error Fields := do
  let size := fs.content "size"
  let fs : Fields := fs.erase (.text "size")
  let corner := fs.content "corner0"
  if corner.isNull then throw .boxSize
  if (← partCount size) != 3 then throw .boxSize
  if (← partCount corner) != 3 then throw .boxSize
  match ← partNumbers corner, ← partNumbers size with
  | [x, y, z], [w, h, d] =>
    return fs.insert (.text "corner1") (.tuple [.float (x + w), .float (y - h), .float (z - d)])
  | _, _ => throw .boxSize

/-- Refuses fields that the kind of instruction does not have: texts are listed in order, and other
keys have no name to list. -/
def checkUnknown (index : Int) (keyword : String) (form : Form) (fs : Fields) :
    Except Error Unit := do
  let unknown := fs.keys.filter fun k => !(form.fieldNames.any fun n => k == .text n)
  match unknown with
  | [] => return
  | _ =>
    match unknown.mapM fun k => k.value.str? with
    | some names => throw (.unknownFields index keyword (names.mergeSort (· ≤ ·)))
    | none => throw (.badField index keyword .wrongArguments)

/-- An instruction from the fields of an item: the size of a box, unknown fields, missing fields, then
the fields one after the other. -/
def Form.ofFields (form : Form) (index : Int) (keyword : String) (fs : Fields) :
    Except Error (Opcode Float) := do
  let fs ← if form == .box && fs.contains (.text "size") then cornerFromSize fs else pure fs
  checkUnknown index keyword form fs
  if form.required.any fun n => !fs.contains (.text n) then throw .wrongArguments
  form.build fs

/-- Names the item in a failure of its fields. -/
def inItem (index : Int) (keyword : String) (e : Error) : Error :=
  if e.kind == .type || e.kind == .value then .badField index keyword e else e

/-- The fields given by position, added to those given by name. -/
def addArguments (index : Int) (keyword : String) (fs : Fields) :
    List (String × Value) → Except Error Fields
  | [] => .ok fs
  | (name, v) :: rest =>
    if fs.contains (.text name) then .error (.givenTwice index keyword name)
    else addArguments index keyword (fs.insert (.text name) v) rest

/-- Takes the fields given by position out of an item. -/
def withArguments (form : Form) (index : Int) (keyword : String) (fs : Fields) :
    Except Error Fields :=
  let args := fs.content "args"
  let fs : Fields := fs.erase (.text "args")
  let refused := (Error.badArguments index keyword form.fieldNames.length args).settled
  match args.opened with
  | .null => .ok fs
  | .list vs | .tuple vs =>
    if vs.length > form.fieldNames.length then .error refused
    else addArguments index keyword fs (form.fieldNames.zip vs)
  | _ => .error refused

/-- An item as a table. -/
def itemFields? (item : Value) : Option Fields :=
  match item.opened with
  | .str s => some ⟨[(.text "op", .str s)]⟩
  | .map entries => if (Dict.mk entries).contains (.text "op") then some ⟨entries⟩ else none
  | _ => none

/-- Reads one item; `index` is what messages call it. -/
def parseItem (item : Value) (index : Int) : Except Error (Opcode Float) := do
  let some fs := itemFields? item | throw (Error.itemWithoutOp index item).settled
  let word := fs.content "op"
  if !word.isWritable then throw .unwritable
  let keyword := Text.trim word.text
  let fs : Fields := fs.erase (.text "op")
  match Form.ofKeyword keyword with
  | .error _ => throw (.unknownOpcode index keyword)
  | .ok form =>
    let fs ← withArguments form index keyword fs
    match form.ofFields index keyword fs with
    | .ok op => return op
    | .error e => throw (inItem index keyword e)

/-- Reads items one after the other. -/
def parseItems (index : Int) : List Value → Except Error (List (Opcode Float))
  | [] => .ok []
  | item :: rest => do
    let op ← parseItem item index
    let ops ← parseItems (index + 1) rest
    return op :: ops

/-- Reads a program. -/
def parseProgram (document : Value) : Except Error (List (Opcode Float)) := do
  let body ←
    match document.opened with
    | .map entries =>
      match (Dict.mk entries).find? (Label.text "ops") with
      | some v => pure v
      | none => throw .withoutOps
    | v => pure v
  match body.opened with
  | .null => return []
  | .list items => parseItems 0 items
  | v => throw (.notProgram v.typeName)

end Wireframe
