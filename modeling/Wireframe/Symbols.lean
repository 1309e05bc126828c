import Wireframe.Opcode.Basic
import Wireframe.Matrix
import Wireframe.Tensor.Reading
import Wireframe.Log

/-!
# `Wireframe.Symbols` — the table of symbols

A program refers to knobs, coordinate systems and materials by name. The table knows the kind of every
declared name, the value of knobs and the matrix of coordinate systems; materials have no content. Names
keep the order in which they were declared.

## Contents
- `SymbolKind`, `Symbols`: the table.
- `declare`, `lookup`, `get`, `set`, `setAll`, `getMatrix`, `setMatrix`: the operations.
- `knobTable`: the knobs as a text.
- `Opcode.symbols`, `Symbols.ofProgram`: the names that a program refers to.
-/

namespace Wireframe

open Document

/-- What a name stands for. -/
inductive SymbolKind where
  | value | matrix | material
  deriving DecidableEq, Repr

/-- The word for a kind. -/
def SymbolKind.word : SymbolKind → String
  | .value => "value"
  | .matrix => "matrix"
  | .material => "material"

/-- The kind of a word. -/
def SymbolKind.ofWord? : String → Option SymbolKind
  | "value" => some .value
  | "matrix" => some .matrix
  | "material" => some .material
  | _ => none

/-- A declared name and its kind. -/
structure SymbolRef where
  name : Name
  kind : SymbolKind

/-- Kinds, values and matrices by name. -/
structure Symbols (α : Type) where
  kinds : Dict Label SymbolKind := .empty
  values : Dict Label α := .empty
  matrices : Dict Label (Matrix α) := .empty
  deriving Inhabited

/-- What a declaration says: the kind and, for knobs and matrices, perhaps an initial content, whose
reading may have failed. -/
inductive Declaration (α : Type) where
  | value (initial : Option (Except Error α))
  | matrix (initial : Option (Except Error (Tensor α)))
  | material

/-- The kind that a declaration gives. -/
def Declaration.kind {α : Type} : Declaration α → SymbolKind
  | .value _ => .value
  | .matrix _ => .matrix
  | .material => .material

/-- The declaration of a kind with an initial content; null is no content. -/
def Declaration.ofValue (kind : SymbolKind) (v : Value) : Declaration Float :=
  match kind with
  | .value => .value (v.present?.map Value.toFloat)
  | .matrix => .matrix (v.present?.map Tensor.ofValue)
  | .material => .material

/-- A name as a key of the table. -/
def nameKey (name : Name) : Except Error Label :=
  match name.label? with
  | some a => .ok a
  | none => .error .unhashable

namespace Symbols

variable {α : Type}

/-- The kind of a name, if it is declared. -/
def kind? (s : Symbols α) (name : Label) : Option SymbolKind := s.kinds.find? name

/-- The reference of a declared name. -/
def lookup (s : Symbols α) (name : Name) : Except Error SymbolRef := do
  let k ← nameKey name
  match s.kind? k with
  | some kind => return ⟨name, kind⟩
  | none => throw (Error.undeclared k).settled

/-- Whether a name is declared. -/
def contains (s : Symbols α) (name : Name) : Except Error Bool := do
  let k ← nameKey name
  return (s.kind? k).isSome

/-- The key of a name that is declared with a kind. -/
def require (s : Symbols α) (name : Name) (wanted : SymbolKind) : Except Error Label := do
  let k ← nameKey name
  match s.kind? k with
  | none => throw (Error.undeclared k).settled
  | some actual =>
    if actual = wanted then return k
    else throw (Error.wrongKind k actual.word wanted.word).settled

/-- The value of a knob. -/
def get (s : Symbols α) (name : Name) : Except Error α := do
  let k ← s.require name .value
  match s.values.find? k with
  | some x => return x
  | none => throw .withoutValue

/-- Writes the value of a knob; reading the value may have failed. -/
def setWith (s : Symbols α) (name : Name) (value : Except Error α) : Except Error (Symbols α) := do
  let k ← s.require name .value
  return { s with values := s.values.insert k (← value) }

/-- Writes the value of a knob. -/
def set (s : Symbols α) (name : Name) (value : α) : Except Error (Symbols α) :=
  s.setWith name (.ok value)

/-- The names of the knobs. -/
def knobs (s : Symbols α) : List Label :=
  s.kinds.entries.filterMap fun e => if e.2 = .value then some e.1 else none

/-- Writes a value to every knob; reading the value may have failed, which matters only if there is a
knob. -/
def setAllWith (s : Symbols α) (value : Except Error α) : Except Error (Symbols α) :=
  match s.knobs with
  | [] => .ok s
  | names => do
    let x ← value
    return { s with values := names.foldl (fun d k => d.insert k x) s.values }

/-- Writes a value to every knob. -/
def setAll (s : Symbols α) (value : α) : Except Error (Symbols α) := s.setAllWith (.ok value)

/-- The matrix of a coordinate system. -/
def getMatrix (s : Symbols α) (name : Name) : Except Error (Matrix α) := do
  let k ← s.require name .matrix
  match s.matrices.find? k with
  | some m => return m
  | none => throw .withoutValue

/-- Writes the matrix of a coordinate system from an array; reading the array may have failed. -/
def setMatrixWith (s : Symbols α) (name : Name) (t : Except Error (Tensor α)) :
    Except Error (Symbols α) := do
  let k ← s.require name .matrix
  let m ← Matrix.ofTensor? (← t)
  return { s with matrices := s.matrices.insert k m }

/-- Writes the matrix of a coordinate system. -/
def setMatrix (s : Symbols α) (name : Name) (m : Matrix α) : Except Error (Symbols α) := do
  let k ← s.require name .matrix
  return { s with matrices := s.matrices.insert k m }

variable [Scalar α]

/-- Gives a declared name its content: the initial one if there is one; otherwise zero for a knob and
the identity for a matrix, unless the name has a content. -/
def giveContent (s : Symbols α) (k : Label) (d : Declaration α) : Except Error (Symbols α) :=
  match d with
  | .value (some r) => r.map fun x => { s with values := s.values.insert k x }
  | .value none =>
    if s.values.contains k then .ok s
    else .ok { s with values := s.values.insert k Scalar.zero }
  | .matrix (some r) => do
    let m ← Matrix.ofTensor? (← r)
    return { s with matrices := s.matrices.insert k m }
  | .matrix none =>
    if s.matrices.contains k then .ok s
    else .ok { s with matrices := s.matrices.insert k Matrix.identity }
  | .material => .ok s

/-- Declares a name. A name that is declared with another kind is refused. A new name keeps its kind
even if its initial content cannot be read. -/
def declare (s : Symbols α) (name : Name) (d : Declaration α) : Symbols α × Except Error SymbolRef :=
  match nameKey name with
  | .error e => (s, .error e)
  | .ok k =>
    match s.kind? k with
    | some kind =>
      if kind = d.kind then
        match s.giveContent k d with
        | .ok s => (s, .ok ⟨name, d.kind⟩)
        | .error e => (s, .error e)
      else (s, .error (Error.declaredAs k kind.word).settled)
    | none =>
      let s := { s with kinds := s.kinds.insert k d.kind }
      match s.giveContent k d with
      | .ok s => (s, .ok ⟨name, d.kind⟩)
      | .error e => (s, .error e)

/-- Declares names one after the other, up to the first failure. -/
def declareAll (s : Symbols α) : List (Name × Declaration α) → Except Error (Symbols α)
  | [] => .ok s
  | (name, d) :: rest =>
    match s.declare name d with
    | (s, .ok _) => declareAll s rest
    | (_, .error e) => .error e

end Symbols

/-! ## Tables -/

/-- A text with blanks up to a width. -/
def padRight (width : Nat) (s : String) : String :=
  s ++ String.ofList (List.replicate (width - s.length) ' ')

/-- A name in the table of knobs. Truth values count as numbers; null, octets, sequences and integers of too
many digits cannot be shown, and dates are shown by the width itself. -/
def columnText (width : Nat) : Label → Except Error String
  | .text s => .ok (padRight width s)
  | .atom (.int n) => if isWritableInt n then .ok (padRight width (toString n)) else .error .unwritable
  | .atom (.bool b) => .ok (padRight width (if b then "1" else "0"))
  | .atom (.float x) => .ok (padRight width (Decimal.text x))
  | .atom (.nan _) => .ok (padRight width (Decimal.text (0.0 / 0.0)))
  | .atom (.date _) | .atom (.moment _) => .ok s!"<{width}"
  | .atom .null | .atom (.bytes _) | .tuple _ => .error .notNumeric

/-- One row for each knob. -/
def knobRows {α : Type} [Shown α] (s : Symbols α) : List Label → Except Error (List String)
  | [] => .ok []
  | k :: rest => do
    let name ← columnText 12 k
    match s.values.find? k with
    | none => throw .withoutValue
    | some x =>
      let rows ← knobRows s rest
      return (name ++ padRight 8 "knob" ++ Shown.tabular x) :: rows

/-- The knobs as a text: a heading, and a row for each knob. -/
def Symbols.knobTable {α : Type} [Shown α] (s : Symbols α) : Except Error String := do
  let rows ← knobRows s s.knobs
  return "\n".intercalate ("Knob List:" :: (padRight 12 "Name" ++ padRight 8 "Type" ++ "Value") :: rows)

/-! ## Symbols of a program -/

/-- The names that an instruction refers to, in the order in which they are declared: knobs, the
material, then coordinate systems. -/
def Opcode.symbols {α : Type} : Opcode α → List (Name × SymbolKind)
  | .move _ knob | .scale _ knob | .rotate _ _ knob => knob.toList.map (·, .value)
  | .set target _ | .vary target .. => target.present?.toList.map (·, .value)
  | .box _ _ material frame | .sphere _ _ material frame | .torus _ _ _ material frame =>
    material.toList.map (·, .material) ++ frame.toList.map (·, .matrix)
  | .line _ _ material frame0 frame1 =>
    material.toList.map (·, .material) ++ frame0.toList.map (·, .matrix) ++
      frame1.toList.map (·, .matrix)
  | .saveCoordSystem name => [(name, .matrix)]
  | _ => []

/-- The declaration of a kind without an initial content. -/
def SymbolKind.bare {α : Type} : SymbolKind → Declaration α
  | .value => .value none
  | .matrix => .matrix none
  | .material => .material

/-- The declarations of a program, and after them knobs with initial values. -/
def declarations {α : Type} (ops : List (Opcode α)) (initial : List (Name × Declaration α)) :
    List (Name × Declaration α) :=
  (ops.flatMap Opcode.symbols).map (fun e => (e.1, e.2.bare)) ++ initial

/-- The record of the names that were declared; all of them must be texts. -/
def declaredRecord (names : List Label) : Except Error Record :=
  match names.mapM fun k => k.value.str? with
  | none => .error .notNumeric
  | some texts =>
    let list := ", ".intercalate texts
    .ok ⟨.debug, "mdl.symtab", "symbols declared: " ++ if list.isEmpty then "(none)" else list⟩

/-- The table of the names that a program refers to. -/
def Symbols.ofProgram {α : Type} [Scalar α] (ops : List (Opcode α))
    (initial : List (Name × Declaration α)) : Except Error (Symbols α × Record) := do
  let s ← declareAll {} (declarations ops initial)
  return (s, ← declaredRecord s.kinds.keys)

end Wireframe
