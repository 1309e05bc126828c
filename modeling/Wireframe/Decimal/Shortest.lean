import Wireframe.Decimal.Binary64

/-!
# `Wireframe.Decimal.Shortest` — the fewest digits that read back

The reals that round to a double form an interval around it, ends included exactly when its mantissa is
even. Of the decimal grids through 1, 2, … 17 significant digits the first one with a point in that
interval is taken, and on it the nearer of the two neighbours of the double. Whenever some grid point
lies in the interval, so does one of the two neighbours, so no shorter decimal reads back.

## Contents
- `Digits`: a decimal `digits · 10^exponent`.
- `magnitude`: the power of ten above a positive fraction.
- `shortest`: the digits of a positive double.
-/

namespace Wireframe.Decimal

/-- The decimal `digits · 10^exponent`. -/
structure Digits where
  digits : Nat
  exponent : Int
  deriving DecidableEq, Repr

/-- `num / den · 10^(-p)` as a fraction of naturals. -/
def scaledTen (num den : Nat) (p : Int) : Nat × Nat :=
  if p < 0 then (num * 10 ^ p.natAbs, den) else (num, den * 10 ^ p.natAbs)

/-- `m · 2^q` as a fraction of naturals. -/
def binary (m : Nat) (q : Int) : Nat × Nat :=
  if q < 0 then (m, 2 ^ q.natAbs) else (m * 2 ^ q.natAbs, 1)

/-- The least `x` with `num / den < 10^x`, for positive `num`: an estimate from the binary lengths,
moved by at most two. -/
def magnitude (num den : Nat) : Int :=
  let guess : Int := Int.fdiv (((Nat.log2 num : Int) - Nat.log2 den) * 30103) 100000
  let below (x : Int) : Bool := let (n, d) := scaledTen num den x; n < d
  if below (guess - 1) then guess - 1
  else if below guess then guess
  else if below (guess + 1) then guess + 1
  else guess + 2

/-- The point of the grid of `count` significant digits that reads back as `m · 2^q`, if there is one;
`x` is the magnitude of the double. Distances are counted in quarters of `2^q`. -/
def onGrid? (m : Nat) (q x : Int) (wide : Bool) (count : Nat) : Option Digits :=
  let p := x - count
  let (a, b) := binary 1 (q - 2)
  let (a, b) := scaledTen a b p
  let value := 4 * m * a
  let low := (4 * m - (if wide then 2 else 1)) * a
  let high := (4 * m + 2) * a
  let inside (c : Nat) : Bool :=
    if m % 2 == 0 then low ≤ c * b && c * b ≤ high else low < c * b && c * b < high
  let c := value / b
  match inside c, inside (c + 1) with
  | true, true =>
    let below := value - c * b
    let above := (c + 1) * b - value
    some ⟨if below < above || (below == above && c % 2 == 0) then c else c + 1, p⟩
  | true, false => some ⟨c, p⟩
  | false, true => some ⟨c + 1, p⟩
  | false, false => none

/-- The shortest decimal that reads back as the positive double `m · 2^q`. -/
def shortest (m : Nat) (q : Int) : Digits :=
  let (num, den) := binary m q
  let x := magnitude num den
  let wide := m != 2 ^ 52 || q == -1074
  ((List.range 17).findSome? fun i => onGrid? m q x wide (i + 1)).getD
    (let (n, d) := scaledTen num den (x - 17); ⟨roundDiv n d, x - 17⟩)

end Wireframe.Decimal
