import Wireframe.Tensor.Reading

/-!
# `Wireframe.Tensor.Mixed` — arrays whose entries decide their kind

Where nothing is said about the entries of an array they are first brought to a common kind: whole numbers
of 64 bits, doubles, texts, or values as they are. Then every entry is read as what is wanted. So a number
beside a text is first written as a text, and a whole number becomes a single directly, without being
rounded to a double before.

## Contents
- `Mixed.Entries`, `Mixed.Entries.ofLeaves`: the kinds, and the common one of some entries.
- `Mixed`, `Mixed.ofValue`: arrays of a common kind.
- `Mixed.singles`, `Mixed.words`: the arrays of singles and of integers of 32 bits.
-/

namespace Wireframe

open Document

namespace Mixed

/-- Entries of a common kind. -/
inductive Entries where
  | integers (ns : List Int)
  | doubles (xs : List Float)
  | texts (ss : List String)
  | values (vs : List Value)

/-- Whether a value is a number or a text that keeps its kind beside others: a whole number has at most
64 bits. -/
def isPlain : Value → Bool
  | .bool _ | .float _ | .str _ => true
  | .int n => -2 ^ 63 ≤ n && n < 2 ^ 64
  | _ => false

/-- Whether a value is a text. -/
def isText : Value → Bool
  | .str _ => true
  | _ => false

/-- The whole number of a truth value or a whole number. -/
def whole? : Value → Option Int
  | .bool b => some (if b then 1 else 0)
  | .int n => some n
  | _ => none

/-- Whether a value is a whole number that fits 64 bits with a sign, and whether it is one that does not. -/
def isSmall : Value → Bool
  | .int n => n < 2 ^ 63
  | _ => false

@[inherit_doc isSmall]
def isLarge : Value → Bool
  | .int n => 2 ^ 63 ≤ n
  | _ => false

/-- A number as a double. -/
def asDouble (v : Value) : Float :=
  match v with
  | .float x => x
  | v => Decimal.ofInt ((whole? v).getD 0)

/-- The entries of the common kind: values beside anything else stay values, numbers beside texts become
texts, and whole numbers beside doubles become doubles. Whole numbers become doubles, too, where
some fit 64 bits with a sign and some do not. -/
def Entries.ofLeaves (vs : List Value) : Entries :=
  if !vs.all isPlain then .values vs
  else if vs.any isText then .texts (vs.map Value.text)
  else
    match vs.mapM whole? with
    | some ns =>
      if vs.any isSmall && vs.any isLarge then .doubles (vs.map asDouble) else .integers ns
    | none => .doubles (vs.map asDouble)

/-- The single nearest to a whole number of 64 bits, as a double. -/
def singleOfInt (n : Int) : Float :=
  (if n < 0 then n.toInt64.toFloat32 else n.toNat.toUInt64.toFloat32).toFloat

/-- An integer of 32 bits from a value or a text; a greater one is refused. -/
def word (v : Value) : Except Error Int := do
  let n ← v.toInteger
  if -2 ^ 31 ≤ n && n < 2 ^ 31 then return n else throw .tooLarge

/-- An integer of 32 bits from a double; what has none becomes the least one. -/
def wordOfDouble (x : Float) : Int :=
  match Decimal.truncate? x with
  | some n => if -2 ^ 31 ≤ n && n < 2 ^ 31 then n else -2 ^ 31
  | none => -2 ^ 31

/-- The entries as singles. -/
def Entries.singles : Entries → Except Error (List Float)
  | .integers ns => .ok (ns.map singleOfInt)
  | .doubles xs => .ok xs
  | .texts ss => Tensor.readEntries Value.toFloat (ss.map .str)
  | .values vs => Tensor.readEntries Tensor.entry vs

/-- The entries as integers of 32 bits; of whole numbers the last 32 bits count. -/
def Entries.words : Entries → Except Error (List Int)
  | .integers ns => .ok (ns.map fun n => Int.bmod n (2 ^ 32))
  | .doubles xs => .ok (xs.map wordOfDouble)
  | .texts ss => Tensor.readEntries word (ss.map .str)
  | .values vs => Tensor.readEntries word vs

end Mixed

/-- An array whose entries have a common kind. -/
structure Mixed where
  shape : List Nat
  entries : Mixed.Entries

namespace Mixed

/-- The array that a value is. -/
def ofValue (v : Value) : Except Error Mixed := do
  let shape ← Tensor.shapeOf v
  return ⟨shape, .ofLeaves (Tensor.leaves v)⟩

/-- The array of singles. -/
def singles (m : Mixed) : Except Error (Tensor Float) := do
  return ⟨m.shape, ← m.entries.singles⟩

/-- The array of integers of 32 bits. -/
def words (m : Mixed) : Except Error (Tensor Int) := do
  return ⟨m.shape, ← m.entries.words⟩

end Mixed

end Wireframe
