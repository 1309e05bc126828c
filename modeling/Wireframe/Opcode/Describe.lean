import Wireframe.Document.Conversion
import Wireframe.Opcode.Basic

/-!
# `Wireframe.Opcode.Describe` — an instruction on one line

Traces and error reports show an instruction as its keyword followed by `field=content` for every field
that is given. Not every content can be written: an integer may have too many digits, and of a sequence of
fixed length each part must have a brief form, which only numbers and dates have.

## Contents
- `Value.brief`, `nameText`: the parts of a sequence, and names.
- `Field.describe`, `Opcode.describe`: fields and instructions.
-/

namespace Wireframe

open Document

variable {α : Type} [Shown α]

/-- A part of a sequence in a trace: a number in the brief form, and dates by the letter of that form. -/
def Document.Value.brief : Value → Except Error String
  | .float x => .ok (Decimal.brief x)
  | .atom (.nan _) => .ok (Decimal.brief (0.0 / 0.0))
  | .bool b => .ok (if b then "1" else "0")
  | .int n => do return Decimal.brief (← floatOfInt n)
  | .atom (.date _) | .atom (.moment _) => .ok "g"
  | .str _ => .error .notNumber
  | _ => .error .notNumeric

/-- The parts of a sequence in a trace; the first that cannot be written decides. -/
def briefItems : List Value → Except Error (List String)
  | [] => .ok []
  | v :: rest => do
    let part ← v.brief
    let parts ← briefItems rest
    return part :: parts

/-- A name in a trace: a number in the brief form, a sequence of fixed length by its parts, anything else
as a text. -/
def nameText (v : Name) : Except Error String :=
  match v.opened with
  | .float x => .ok (Decimal.brief x)
  | .tuple items => do return "(" ++ ", ".intercalate (← briefItems items) ++ ")"
  | _ => if v.isWritable then .ok v.text else .error .unwritable

/-- The content of a field in a trace, unless it is left out. -/
def Field.describe : Field α → Except Error (Option String)
  | .point v => .ok (some ("(" ++ ", ".intercalate (v.toList.map Shown.brief) ++ ")"))
  | .number x => .ok (some (Shown.brief x))
  | .count n => if isWritableInt n then .ok (some (toString n)) else .error .unwritable
  | .axis a => .ok (some a.name)
  | .name .null => .ok none
  | .name v => do return some (← nameText v)

/-- The fields of an instruction in a trace; the first that cannot be written decides. -/
def describeFields : List (String × Field α) → Except Error (List String)
  | [] => .ok []
  | (name, field) :: rest => do
    let content ← field.describe
    let parts ← describeFields rest
    return (content.map fun content => name ++ "=" ++ content).toList ++ parts

/-- An instruction on one line, if it can be written. -/
def Opcode.describe (op : Opcode α) : Except Error String := do
  return " ".intercalate (op.keyword :: (← describeFields op.fields))

end Wireframe
