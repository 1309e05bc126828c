import Wireframe.Document.Conversion

/-!
# `Wireframe.Color` — colours

A colour is given as a text of hexadecimal digits, or as a sequence of three or four numbers. Numbers
that all lie between 0 and 1 are shares of full light; otherwise they count from 0 to 255. The fourth
component is the opacity, which pictures ignore.

## Contents
- `Rgba`, `Rgb`: components as shares, and as whole numbers of which 255 is full light.
- `Rgba.ofHex`, `Rgba.ofValue`, `Rgb.ofValue`: reading colours.
- `Rgb.toValue`: a colour as a value again.
-/

namespace Wireframe

open Document

/-- Components as shares of full light. -/
structure Rgba where
  red : Float
  green : Float
  blue : Float
  alpha : Float

/-- Components of which 255 is full light. -/
structure Rgb where
  red : Int
  green : Int
  blue : Int
  deriving DecidableEq, Repr, Inhabited

namespace Rgba

/-- The components in order. -/
def toList (c : Rgba) : List Float := [c.red, c.green, c.blue, c.alpha]

/-- A whole number as a share of full light. -/
def share (n : Int) : Float := Float.ofInt n / 255.0

/-- The components of whole numbers. -/
def ofBytes (r g b a : Int) : Rgba := ⟨share r, share g, share b, share a⟩

/-- A text without the mark before its digits: `#`, or `0x` in either case. -/
def withoutMark : List Char → List Char
  | '#' :: rest => rest
  | '0' :: c :: rest => if c == 'x' || c == 'X' then rest else '0' :: c :: rest
  | s => s

/-- Two digits as a number. -/
def pair? (a b : Char) : Option Int := Decimal.readHex (String.ofList [a, b])

/-- The colour of a text: six digits, or eight with the opacity. -/
def ofHex (s : String) : Except Error Rgba :=
  let bytes? : Option (Option (List Int)) :=
    match withoutMark (Text.trim s).toList with
    | [a, b, c, d, e, f] => some ([(a, b), (c, d), (e, f)].mapM fun (x, y) => pair? x y)
    | [a, b, c, d, e, f, g, h] =>
      some ([(a, b), (c, d), (e, f), (g, h)].mapM fun (x, y) => pair? x y)
    | _ => none
  match bytes? with
  | none => .error (.hexLength s)
  | some (some [r, g, b]) => .ok (ofBytes r g b 255)
  | some (some [r, g, b, a]) => .ok (ofBytes r g b a)
  | some _ => .error (.hexDigits s)

/-- Whether a component can be a share of full light. -/
def isShare (x : Float) : Bool := 0.0 ≤ x && x ≤ 1.0

/-- A component between 0 and 1. -/
def clamp (x : Float) : Float := if x < 0.0 then 0.0 else if x > 1.0 then 1.0 else x

/-- A component as a whole number between 0 and 255, a half going to the even neighbour. -/
def toByte (x : Float) : Except Error Int :=
  match Decimal.round? x with
  | some n => .ok (max 0 (min 255 n))
  | none => .error (if x.isNaN then .nanToInteger else .infinityToInteger)

/-- The colour with given components, the opacity being full if it is left out. -/
def ofComponents (x y z : Float) (opacity : Option Float) : Except Error Rgba := do
  let given := [x, y, z] ++ opacity.toList
  let shares := given.all isShare
  let a := opacity.getD (if shares then 1.0 else 255.0)
  if shares then return ⟨clamp x, clamp y, clamp z, clamp a⟩
  else
    let r ← toByte x
    let g ← toByte y
    let b ← toByte z
    let a ← toByte a
    return ofBytes r g b a

/-- The name of a kind of value in the message on colours. -/
def typePath (v : Value) : String :=
  match v with
  | .atom (.date _) | .atom (.moment _) => "datetime." ++ v.typeName
  | v => v.typeName

/-- The colour of a sequence of three or four numbers. -/
def ofSequence (v : Value) (items : List Value) : Except Error Rgba :=
  if items.length != 3 && items.length != 4 then .error .colorLength
  else
    match Value.toFloats items with
    | .ok [x, y, z] => ofComponents x y z none
    | .ok [x, y, z, a] => ofComponents x y z (some a)
    | .ok _ => .error .colorLength
    | .error e => .error (if e.kind == .type || e.kind == .value then (Error.colorItems v).settled else e)

/-- The colour that a value stands for. -/
def ofValue (v : Value) : Except Error Rgba :=
  match v.opened with
  | .str s => ofHex s
  | .list items => ofSequence v items
  | .tuple items => ofSequence v items
  | v => .error (.colorType (typePath v))

end Rgba

namespace Rgb

/-- The components in order. -/
def toList (c : Rgb) : List Int := [c.red, c.green, c.blue]

/-- A colour as a value. -/
def toValue (c : Rgb) : Value := .tuple (c.toList.map .int)

/-- A share of full light as a whole number. -/
def ofShare (x : Float) : Int := (Decimal.round? (x * 255.0)).getD 0

/-- The colour that a value stands for, without its opacity. -/
def ofValue (v : Value) : Except Error Rgb :=
  (Rgba.ofValue v).map fun c => ⟨ofShare c.red, ofShare c.green, ofShare c.blue⟩

/-- Whether a picture can show the colour. -/
def isShowable (c : Rgb) : Bool := c.toList.all fun n => 0 ≤ n && n ≤ 255

/-- The colour of a value that a picture can show. -/
def showable (v : Value) : Except Error Rgb := do
  let c ← ofValue v
  if c.isShowable then return c else throw .tooLarge

/-- Full light. -/
def white : Rgb := ⟨255, 255, 255⟩

/-- No light. -/
def black : Rgb := ⟨0, 0, 0⟩

end Rgb

end Wireframe
