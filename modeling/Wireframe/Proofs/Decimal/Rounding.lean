import Wireframe.Power
import Mathlib

/-!
# `Wireframe.Proofs.Decimal.Rounding` — rounding a mantissa

A result of floating-point arithmetic is rounded by dropping bits of its mantissa. The bit that is dropped
last and whether anything was lost before it decide whether the rest goes up by one.

## Contents
- `dropped`: a mantissa with some of its bits dropped.
- `dropped_mantissa`, `dropped_residue`: what is left, and what is kept in mind.
- `targetExponent_eq`, `shiftToTargetExponent_eq`: how many bits are dropped.
- `roundedMantissa_le`, `rounded_le`: how far the rounded mantissa can be.
-/

namespace Wireframe.Decimal

open Float.Model Float.Model.UnpackedFloat

/-- A mantissa with some of its bits dropped. -/
def dropped (m s : Nat) : ExtendedMantissa := ExtendedMantissa.ofMantissaAndAccuracy m .exact >>> s

theorem dropped_zero (m : Nat) : dropped m 0 = ⟨m, false, false⟩ := rfl

theorem dropped_succ (m s : Nat) : dropped m (s + 1) = (dropped m s).shiftRightOne := rfl

theorem dropped_mantissa (m s : Nat) : (dropped m s).mantissa = m / 2 ^ s := by
  induction s with
  | zero => rw [dropped_zero, Nat.pow_zero, Nat.div_one]
  | succ s ih =>
    rw [dropped_succ]
    show (dropped m s).mantissa / 2 = _
    rw [ih, Nat.div_div_eq_div_mul, ← Nat.pow_succ]

/-- What is dropped is kept in mind if it is not zero. -/
theorem dropped_residue (m s : Nat) :
    ((dropped m s).roundBit || (dropped m s).stickyBit) = true → m / 2 ^ s * 2 ^ s < m := by
  induction s with
  | zero => simp [dropped_zero]
  | succ s ih =>
    rw [dropped_succ]
    show (((dropped m s).mantissa % 2 != 0) || ((dropped m s).roundBit || (dropped m s).stickyBit)) = true → _
    intro h
    rw [dropped_mantissa] at h
    have hhalf : m / 2 ^ (s + 1) = m / 2 ^ s / 2 := by
      rw [Nat.pow_succ, Nat.div_div_eq_div_mul]
    have hle : m / 2 ^ s * 2 ^ s ≤ m := Nat.div_mul_le_self m (2 ^ s)
    have hsplit : m / 2 ^ (s + 1) * 2 ^ (s + 1) = m / 2 ^ s / 2 * 2 * 2 ^ s := by
      rw [hhalf, Nat.pow_succ, Nat.mul_comm (2 ^ s) 2, ← Nat.mul_assoc]
    rw [hsplit]
    -- either the bit dropped last is one, or something was lost before it
    rcases Bool.or_eq_true_iff.mp h with hodd | hrest
    · have hlt : m / 2 ^ s / 2 * 2 < m / 2 ^ s := by
        have hne : m / 2 ^ s % 2 ≠ 0 := by simpa using hodd
        omega
      exact Nat.lt_of_lt_of_le (Nat.mul_lt_mul_of_pos_right hlt (Nat.two_pow_pos s)) hle
    · have hlower : m / 2 ^ s / 2 * 2 ≤ m / 2 ^ s := Nat.div_mul_le_self _ 2
      exact Nat.lt_of_le_of_lt (Nat.mul_le_mul_right _ hlower) (ih hrest)

/-- A mantissa keeps 53 binary digits, or less where the last of them would count less than `2^(-1074)`. -/
theorem targetExponent_eq (m : Nat) (e : Int) :
    Format.binary64.targetExponent (totalExponent m e) = max ((m.log2 : Int) + 1 + e - 53) (-1074) := by
  have hmin : Format.binary64.minExponent = -1074 := by decide
  have hbits : Format.binary64.mantissaBits = 53 := by decide
  rw [Format.targetExponent, totalExponent, hmin, hbits]
  rfl

/-- The bits that are dropped where a mantissa is too long. -/
theorem shiftToTargetExponent_eq {m s : Nat} {e : Int}
    (hs : (Format.binary64.targetExponent (totalExponent m e) - e).toNat = s) :
    shiftToTargetExponent .binary64 m e .exact = (dropped m s, e + s) := by
  simp only [shiftToTargetExponent, shiftToExponent, hs, dropped]

/-- Rounding adds at most one, and nothing to what is exact. -/
theorem roundedMantissa_le (em : ExtendedMantissa) :
    em.roundedMantissa ≤ em.mantissa + if em.roundBit || em.stickyBit then 1 else 0 := by
  obtain ⟨m, roundBit, stickyBit⟩ := em
  cases roundBit <;> cases stickyBit <;>
    simp only [ExtendedMantissa.roundedMantissa, ExtendedMantissa.accuracy,
      Accuracy.roundToNearestEven, Bool.or_true, Bool.or_false, Bool.false_eq_true, if_true, if_false] <;>
    omega

/-- Dropping bits and rounding does not lead beyond a whole number. -/
theorem rounded_le {m n s : Nat} (h : m ≤ n * 2 ^ s) : (dropped m s).roundedMantissa ≤ n := by
  have hquotient : m / 2 ^ s ≤ n := Nat.div_le_of_le_mul (by rwa [Nat.mul_comm])
  have hrounded := roundedMantissa_le (dropped m s)
  rw [dropped_mantissa] at hrounded
  cases hresidue : (dropped m s).roundBit || (dropped m s).stickyBit with
  | false =>
    rw [hresidue] at hrounded
    exact Nat.le_trans hrounded hquotient
  | true =>
    rw [hresidue, if_pos rfl] at hrounded
    -- something was lost, so the quotient is below the bound and may go up by one
    have hlt := dropped_residue m s hresidue
    have hne : m / 2 ^ s ≠ n := by
      intro heq
      rw [heq] at hlt
      omega
    omega

end Wireframe.Decimal
