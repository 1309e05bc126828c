import Wireframe.Decimal.Shortest

/-!
# `Wireframe.Decimal.Layout` — how numbers are written

Three ways of writing a double: `text`, the shortest digits that read back, as messages and results show
numbers; `brief`, six significant digits without trailing zeros, as traces show them; `fixed`, a given
number of places, as tables show them.

## Contents
- `Style` with the two default styles, and `write`: digits, point and exponent.
- `significant`: the nearest decimal of a given number of digits.
- `text`, `brief`, `fixed`, `roundSignificant`.
-/

namespace Wireframe.Decimal

/-- When a number is written with an exponent, and whether a whole number shows a place. -/
structure Style where
  /-- Numbers of magnitude `x`, so below `10^x` and not below `10^(x-1)`, are written without an
  exponent from this `x` … -/
  positionalFrom : Int
  /-- … to this one. -/
  positionalTo : Int
  /-- A whole number without exponent ends in `.0`. -/
  markWhole : Bool

/-- Numbers in messages and results: exponents outside `0.0001` to `10^16`, whole numbers with `.0`. -/
def Style.exact : Style := ⟨-3, 16, true⟩

/-- Numbers in traces: exponents outside `0.0001` to `10^6`. -/
def Style.trace : Style := ⟨-3, 6, false⟩

/-- The digits of a natural number. -/
def digitsOf (n : Nat) : List Char := Nat.toDigits 10 n

/-- A list without the zeros at its end. -/
def dropZeros (ds : List Char) : List Char := (ds.reverse.dropWhile (· == '0')).reverse

/-- An exponent: sign and at least two digits. -/
def exponentText (e : Int) : List Char :=
  let ds := digitsOf e.natAbs
  'e' :: (if e < 0 then '-' else '+') :: (if ds.length < 2 then '0' :: ds else ds)

/-- Writes a positive decimal in a style. -/
def Style.write (style : Style) (d : Digits) : List Char :=
  let ds := digitsOf d.digits
  let x : Int := ds.length + d.exponent
  let ds := dropZeros ds
  if style.positionalFrom ≤ x && x ≤ style.positionalTo then
    if x ≤ 0 then
      '0' :: '.' :: (List.replicate x.natAbs '0' ++ ds)
    else if ds.length ≤ x.natAbs then
      ds ++ List.replicate (x.natAbs - ds.length) '0' ++ (if style.markWhole then ['.', '0'] else [])
    else
      ds.take x.natAbs ++ '.' :: ds.drop x.natAbs
  else
    match ds with
    | [] => []
    | [d] => d :: exponentText (x - 1)
    | d :: rest => d :: '.' :: (rest ++ exponentText (x - 1))

/-- The decimal with `count` significant digits nearest to a positive fraction. -/
def significant (count : Nat) (num den : Nat) : Digits :=
  let p := magnitude num den - count
  let (n, d) := scaledTen num den p
  ⟨roundDiv n d, p⟩

/-- Writes sign and special values around the text of a positive number. -/
def signed (x : Float) (zero : List Char) (positive : Nat → Int → List Char) : String :=
  match parts x with
  | .nan => "nan"
  | .infinite negative => if negative then "-inf" else "inf"
  | .finite negative m q =>
    let body := if m == 0 then zero else positive m q
    String.ofList (if negative then '-' :: body else body)

/-- The shortest text that reads back as the same double. -/
def text (x : Float) : String :=
  signed x ['0', '.', '0'] fun m q => Style.exact.write (shortest m q)

/-- Six significant digits, without zeros at the end. -/
def brief (x : Float) : String :=
  signed x ['0'] fun m q =>
    let (num, den) := binary m q
    Style.trace.write (significant 6 num den)

/-- A natural number of units of `10^(-places)` with its point. -/
def withPoint (places n : Nat) : List Char :=
  let ds := digitsOf n
  let ds := List.replicate (places + 1 - ds.length) '0' ++ ds
  ds.take (ds.length - places) ++ '.' :: ds.drop (ds.length - places)

/-- A given number of places after the point. -/
def fixed (places : Nat) (x : Float) : String :=
  signed x (withPoint places 0) fun m q =>
    let (num, den) := binary m q
    withPoint places (roundDiv (num * 10 ^ places) den)

/-- The double nearest to the decimal with `count` significant digits nearest to a double. -/
def roundSignificant (count : Nat) (x : Float) : Float :=
  match parts x with
  | .finite negative m q =>
    if m == 0 then x
    else
      let (num, den) := binary m q
      let d := significant count num den
      let (n, k) := scaledTen d.digits 1 (-d.exponent)
      ofRatio negative n k
  | _ => x

end Wireframe.Decimal
