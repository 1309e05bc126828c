import Wireframe.Error

/-!
# `Wireframe.Document.Same` — equality of values

Two values are the same when they have the same parts; numbers are compared by value, and tables without
regard to the order of their entries. A number that is not a number differs from itself, but as a part it
is the same as itself. Two values that contain themselves can be compared without end; such a comparison
fails.

## Contents
- `Atom.same`: equality of atoms.
- `allTrue`: conditions that are tried one after the other.
- `Value.agree`: equality of parts.
- `Value.same`: equality of values.
-/

namespace Wireframe.Document

/-- Equality of atoms as values. -/
def Atom.same (a b : Atom) : Bool := !a.isNaN && a == b

/-- Whether all results are true; what stands behind the first other one is not looked at. -/
def allTrue : List (Unit → Except Error Bool) → Except Error Bool
  | [] => .ok true
  | r :: rest =>
    match r () with
    | .ok true => allTrue rest
    | other => other

/-- Whether two values are one and the same part of a document. -/
def Value.isSelf : Value → Value → Bool
  | .knot i _, .knot j _ => i == j
  | _, _ => false

/-- Equality of parts, down to a depth. -/
def Value.agree : Nat → Value → Value → Except Error Bool
  | 0, _, _ => .error .endless
  | depth + 1, v, w =>
    if v.isSelf w then .ok true
    else
      match v.opened, w.opened with
      | .atom a, .atom b => .ok (a == b)
      | .list vs, .list ws | .tuple vs, .tuple ws =>
        if vs.length == ws.length then
          allTrue ((vs.zip ws).map fun e => fun _ => Value.agree depth e.1 e.2)
        else .ok false
      | .map es, .map fs =>
        if es.length == fs.length then
          allTrue (es.map fun e => fun _ =>
            match Dict.findIn? e.1 fs with
            | some w => Value.agree depth e.2 w
            | none => .ok false)
        else .ok false
      | .set vs, .set ws => .ok (vs.length == ws.length && vs.all fun v => ws.any (· == v))
      | _, _ => .ok false

/-- The depth down to which values are compared. -/
def deepest : Nat := 1000

/-- Equality of values. -/
def Value.same (v w : Value) : Except Error Bool :=
  match v, w with
  | .atom a, .atom b => .ok (a.same b)
  | v, w => v.agree deepest w

end Wireframe.Document
