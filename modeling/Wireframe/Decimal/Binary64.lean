import Wireframe.Power

/-!
# `Wireframe.Decimal.Binary64` — double-precision numbers as exact fractions

A finite double is `± m · 2^q` for natural `m < 2^53` and `q ≥ -1074`. Everything that reads or writes
decimal digits works on this pair in exact arithmetic, and comes back through the one rounding `ofRatio`.

## Contents
- `Parts`, `parts`: what a double stands for.
- `roundDiv`: a quotient of naturals to the nearest natural, a half to the even neighbour.
- `ofRatio`: the double nearest to a fraction, an exact middle to the even mantissa.
-/

namespace Wireframe.Decimal

/-- What a double stands for: `± mantissa · 2^exponent`, an infinity, or no number. -/
inductive Parts where
  | finite (negative : Bool) (mantissa : Nat) (exponent : Int)
  | infinite (negative : Bool)
  | nan
  deriving DecidableEq, Repr

/-- Reads sign, exponent field and fraction field; a zero exponent field has no hidden bit. -/
def parts (x : Float) : Parts :=
  let bits := x.toBits.toNat
  let negative := bits / 2 ^ 63 == 1
  let field : Nat := bits / 2 ^ 52 % 2 ^ 11
  let fraction : Nat := bits % 2 ^ 52
  if field == 2047 then
    if fraction == 0 then .infinite negative else .nan
  else if field == 0 then .finite negative fraction (-1074)
  else .finite negative (2 ^ 52 + fraction) ((field : Int) - 1075)

/-- The natural nearest to `num / den`, a half going to the even neighbour. -/
def roundDiv (num den : Nat) : Nat :=
  let q := num / den
  let r := num % den
  if 2 * r < den || (2 * r == den && q % 2 == 0) then q else q + 1

/-- `num / den · 2^(-q)` as a fraction of naturals. -/
def scaled (num den : Nat) (q : Int) : Nat × Nat :=
  if q < 0 then (num * 2 ^ q.natAbs, den) else (num, den * 2 ^ q.natAbs)

/-- The exponent of the grid of doubles around `num / den`, for positive `num`: the quotient by
`2^q` has 53 binary digits, unless it lies below the normal numbers. -/
def gridExponent (num den : Nat) : Int :=
  let guess : Int := (Nat.log2 num : Int) - Nat.log2 den - 52
  let (n, d) := scaled num den guess
  max (-1074) (if n < 2 ^ 52 * d then guess - 1 else guess)

/-- The double nearest to `± num / den`. -/
def ofRatio (negative : Bool) (num den : Nat) : Float :=
  let size :=
    if num == 0 then 0
    else
      let q := gridExponent num den
      let (n, d) := scaled num den q
      min (2047 * 2 ^ 52) ((q + 1074).toNat * 2 ^ 52 + roundDiv n d)
  Float.ofBits (UInt64.ofNat (size + if negative then 2 ^ 63 else 0))

/-- The double nearest to an integer. -/
def ofInt (n : Int) : Float := ofRatio (n < 0) n.natAbs 1

/-- The double nearest to the quotient of two integers, for a divisor other than zero. -/
def ofQuotient (n d : Int) : Float :=
  ofRatio (decide (n < 0) != decide (d < 0)) n.natAbs d.natAbs

/-- The integer part of a finite double, towards zero. -/
def truncate? (x : Float) : Option Int :=
  match parts x with
  | .finite negative m q =>
    let size : Nat := if q < 0 then m / 2 ^ q.natAbs else m * 2 ^ q.natAbs
    some (if negative then -(size : Int) else size)
  | _ => none

/-- The greatest integer that is not above a finite double. -/
def floor? (x : Float) : Option Int :=
  match parts x with
  | .finite negative m q =>
    let size : Int := if negative then -(m : Int) else m
    some (if q < 0 then Int.fdiv size (2 ^ q.natAbs) else size * 2 ^ q.natAbs)
  | _ => none

/-- The integer nearest to a finite double, a half going to the even neighbour. -/
def round? (x : Float) : Option Int :=
  match parts x with
  | .finite negative m q =>
    let size : Nat := if q < 0 then roundDiv m (2 ^ q.natAbs) else m * 2 ^ q.natAbs
    some (if negative then -(size : Int) else size)
  | _ => none

/-- The integer that a finite double is, if it is one. -/
def integer? (x : Float) : Option Int :=
  match parts x with
  | .finite negative m q =>
    let whole := q ≥ 0 || m % 2 ^ q.natAbs == 0
    if whole then
      let size : Nat := if q < 0 then m / 2 ^ q.natAbs else m * 2 ^ q.natAbs
      some (if negative then -(size : Int) else size)
    else none
  | _ => none

end Wireframe.Decimal
