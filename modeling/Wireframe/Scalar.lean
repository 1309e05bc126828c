import Wireframe.Decimal.Layout
import Wireframe.Decimal.Single

/-!
# `Wireframe.Scalar` — the numbers of the drawing

Coordinates, matrices, symbols and clipping are written once for every kind of number. The program runs
them on doubles; in exact arithmetic the same definitions say what is drawn up to rounding.

## Contents
- `Scalar`: arithmetic, comparison and the roundings that drawing needs. A number that is not at most
  itself is no number.
- `Angle`: the circle number, cosine and sine.
- `Shown`: the texts of a number.
- The instances for doubles.
-/

namespace Wireframe

/-- Arithmetic and comparison of coordinates. -/
class Scalar (α : Type) extends Add α, Sub α, Mul α, Div α, Neg α where
  zero : α
  one : α
  /-- One half, the distance from the centre of a pixel to its border. -/
  half : α
  /-- The number nearest to a whole number. -/
  ofInt : Int → α
  /-- The number nearest to a fraction; the divisor is not zero. -/
  ratio : Int → Int → α
  /-- The order, false where an operand is no number. -/
  le : α → α → Bool
  /-- The strict order, false where an operand is no number. -/
  lt : α → α → Bool
  /-- Neither infinite nor without value. -/
  isFinite : α → Bool
  /-- The greatest integer that is not above a finite number. -/
  floor? : α → Option Int
  /-- The nearest number that a stored coordinate can hold. -/
  store : α → α

/-- Angles in radians. -/
class Angle (α : Type) where
  /-- Half of a full turn. -/
  pi : α
  cos : α → α
  sin : α → α

/-- The texts of a number: in messages, in traces and in tables. -/
class Shown (α : Type) where
  text : α → String
  brief : α → String
  tabular : α → String

namespace Scalar

variable {α : Type} [Scalar α]

/-- Equality as numbers. -/
def eq (a b : α) : Bool := le a b && le b a

/-- Whether the value is no number. -/
def isNaN (a : α) : Bool := !le a a

/-- The smaller of two numbers; a value that is no number wins. -/
def min (a b : α) : α := if isNaN a then a else if isNaN b || lt b a then b else a

/-- The greater of two numbers; a value that is no number wins. -/
def max (a b : α) : α := if isNaN a then a else if isNaN b || lt a b then b else a

/-- The distance from zero. -/
def abs (a : α) : α := if lt a zero then -a else a

end Scalar

instance inhabitedFloat : Inhabited Float := ⟨0.0⟩

instance : Scalar Float where
  zero := 0.0
  one := 1.0
  half := 0.5
  ofInt := Decimal.ofInt
  ratio := Decimal.ofQuotient
  le a b := a ≤ b
  lt a b := a < b
  isFinite := Float.isFinite
  floor? := Decimal.floor?
  store := Decimal.single

instance : Angle Float where
  pi := 3.141592653589793
  cos := Float.cos
  sin := Float.sin

instance : Shown Float where
  text := Decimal.text
  brief := Decimal.brief
  tabular := Decimal.fixed 6

end Wireframe
