import Wireframe.Error
import Wireframe.Text.Case
import Wireframe.Text.Blank

/-!
# `Wireframe.Axis` — the three axes

An axis is written as `x`, `y` or `z` in either case, or as the number 0, 1 or 2.
-/

namespace Wireframe

open Document

/-- An axis of space. -/
inductive Axis where
  | x | y | z
  deriving DecidableEq, Repr, Inhabited

namespace Axis

/-- The name of an axis. -/
def name : Axis → String
  | x => "X"
  | y => "Y"
  | z => "Z"

/-- The axis with a number. -/
def ofInt? : Int → Option Axis
  | 0 => some x
  | 1 => some y
  | 2 => some z
  | _ => none

/-- The axis with a name, in either case and with blanks around it. -/
def ofName? (s : String) : Option Axis :=
  match Text.lower (Text.trim s) with
  | "x" => some x
  | "y" => some y
  | "z" => some z
  | _ => none

/-- The axis that a value names; a number beyond the doubles is refused as too large. -/
def ofValue (v : Value) : Except Error Axis :=
  let found? : Except Error (Option Axis) :=
    match v with
    | .int n =>
      if (Decimal.ofInt n).isFinite then .ok (ofInt? n) else .error .tooLarge
    | .float f => .ok ((Decimal.integer? f).bind ofInt?)
    | .str s => .ok (ofName? s)
    | _ => .ok none
  match found? with
  | .error e => .error e
  | .ok (some a) => .ok a
  | .ok none => .error (Error.axis v).settled

end Axis

end Wireframe
