import Wireframe.Files
import Wireframe.Text.Digit

/-!
# `Wireframe.Animation.Frames` — the files of the frames

A frame is saved under the base name, its number with zeros before it, and an ending. With enough digits
for the last number the names sort in the order of the frames.

## Contents
- `zeroPadded`, `withoutDots`, `frameName`: names.
- `frameWidth`, `frameDigits`: the width of the numbers in them.
- `nameOfValues`, `digitsOfValues`: the same from values.
- `matches`, `collect`: the frames in a directory.
-/

namespace Wireframe.Animation

open Document

/-- A number with zeros before it, up to a width. -/
def zeroPadded (width n : Nat) : String :=
  let ds := Nat.toDigits 10 n
  String.ofList (List.replicate (width - ds.length) '0' ++ ds)

/-- An ending without the dots before it. -/
def withoutDots (ending : String) : String := String.ofList (ending.toList.dropWhile (· == '.'))

/-- The file name of a frame. -/
def frameName (basename : String) (index digits : Nat) (ending : String) : String :=
  basename ++ zeroPadded digits index ++ "." ++ withoutDots ending

/-- The number of digits that the numbers of a number of frames need, and at least a minimum. -/
def frameWidth (count minimum : Int) : Int :=
  max minimum (Nat.toDigits 10 (count - 1).toNat).length

/-- The digits of the last number are counted in its text, so it must have one. -/
def frameDigits (count minimum : Int) : Except Error Int :=
  if isWritableInt (count - 1).toNat then .ok (frameWidth count minimum) else .error .unwritable

/-! ## From values -/

/-- The number that a value is, if it is a whole one. -/
def wholeNumber (v : Value) : Except Error Nat :=
  match v with
  | .bool b => .ok (if b then 1 else 0)
  | .int n => .ok n.toNat
  | _ => .error .notNumber

/-- Whether a number can be the width of a text: it is not negative and has less than 64 bits. -/
def isWidth (n : Int) : Bool := 0 ≤ n && n < 2 ^ 63

/-- The file name of a frame; a negative number is refused first, then the width, then a number that cannot
be written, and then the ending. -/
def nameOfValues (basename : String) (index digits ending : Value) : Except Error String := do
  if ← index.isBelowZero then
    throw (if index.isWritable then .negativeFrame index.text else .unwritable)
  let d ← digits.toInteger
  if !isWidth d then throw .notNumber
  let n ← wholeNumber index
  if !isWritableInt n then throw .unwritable
  let some ending := ending.str? | throw .notText
  return frameName basename n d.toNat ending

/-- The number of digits for a number of frames. -/
def digitsOfValues (count minimum : Value) : Except Error Int := do
  let n ← count.toInteger
  let m ← minimum.toInteger
  frameDigits n m

/-! ## Collecting -/

/-- What must stand between base name and ending: digits of any script, or a given number of them. A
negative number stands for one digit and the number itself in braces. -/
def isNumbering (digits : Option Int) (cs : List Char) : Bool :=
  let isDigit := fun c => (Text.digit? c).isSome
  match digits with
  | none => !cs.isEmpty && cs.all isDigit
  | some (.ofNat n) => cs.length == n && cs.all isDigit
  | some n =>
    match cs with
    | c :: rest => isDigit c && String.ofList rest == "\x7b" ++ toString n ++ "\x7d"
    | [] => false

/-- Whether a list starts with another one, and what follows it. -/
def strip? (start cs : List Char) : Option (List Char) :=
  if start.isPrefixOf cs then some (cs.drop start.length) else none

/-- Whether a file name is that of a frame. A line break at its end does not count. -/
def isFrameName (basename ending : String) (digits : Option Int) (name : String) : Bool :=
  let tail := '.' :: (withoutDots ending).toList
  let fits := fun (cs : List Char) =>
    match strip? tail.reverse cs.reverse with
    | some rest =>
      match strip? basename.toList rest.reverse with
      | some middle => isNumbering digits middle
      | none => false
    | none => false
  fits name.toList || (name.toList.getLast? == some '\n' && fits name.toList.dropLast)

/-- The frames in a directory, by name; a directory that is missing has none. -/
def collect (fs : Files) (directory : Path) (basename ending : String) (digits : Option Int) :
    List String :=
  if fs.isDirectory directory then
    let names := (fs.under directory).filterMap fun e =>
      match e.2 with
      | .directory => none
      | _ => if isFrameName basename ending digits e.1 then some e.1 else none
    names.mergeSort (· ≤ ·)
  else []

end Wireframe.Animation
