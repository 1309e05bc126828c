import Wireframe.Decimal.Shortest

/-!
# `Wireframe.Decimal.Single` — numbers of single precision

A number of single precision is `± m · 2^e` with at most 24 binary digits and `e ≥ -149`, below `2^128`.
Each of them is a double, so rounding to single precision leads from doubles to doubles.

## Contents
- `singleExponent`: the grid of such numbers around a double.
- `single`: the nearest of them, an exact middle to the even mantissa.
-/

namespace Wireframe.Decimal

/-- The exponent of the grid of singles around `m · 2^q`: 24 binary digits are left, unless it lies below
the normal numbers. A number on a coarser grid stays on it. -/
def singleExponent (m : Nat) (q : Int) : Int := max q (max (-149) (q + Nat.log2 m - 23))

/-- The single nearest to a double; one that would be too great is infinite. -/
def single (x : Float) : Float :=
  match parts x with
  | .finite negative m q =>
    let e := singleExponent m q
    let (n, d) := binary (roundDiv m (2 ^ (e - q).toNat)) e
    if 2 ^ 128 * d ≤ n then ofRatio negative (2 ^ 1024) 1 else ofRatio negative n d
  | _ => x

end Wireframe.Decimal
