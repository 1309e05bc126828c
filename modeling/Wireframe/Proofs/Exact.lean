import Wireframe.Scalar
import Mathlib.Algebra.Ring.MinimalAxioms
import Mathlib.Data.Rat.Floor

/-!
# `Wireframe.Proofs.Exact` — exact arithmetic

The rationals as the numbers of the drawing. Nothing is rounded and every number is finite, so that what
is drawn can be compared with what should be drawn. Where only the laws of arithmetic matter, all numbers
will do that obey them.

## Contents
- The instance for rationals.
- `exact_max`, `exact_min`, `exact_eq`: comparisons are those of the rationals.
- `Scalar.Exact`, `Exact.ring`: numbers that obey the laws of arithmetic.
-/

namespace Wireframe

instance : Scalar ℚ where
  zero := 0
  one := 1
  half := 1 / 2
  ofInt n := n
  ratio n d := n / d
  le a b := decide (a ≤ b)
  lt a b := decide (a < b)
  isFinite _ := true
  floor? x := some ⌊x⌋
  store x := x

namespace Scalar

theorem exact_isNaN (a : ℚ) : isNaN a = false := by
  show (!decide (a ≤ a)) = false
  simp

theorem exact_max (a b : ℚ) : Scalar.max a b = Max.max a b := by
  simp only [Scalar.max, exact_isNaN, Bool.false_eq_true, if_false, Bool.false_or]
  show (if decide (a < b) = true then b else a) = Max.max a b
  by_cases h : a < b
  · rw [if_pos (decide_eq_true h), max_eq_right h.le]
  · rw [if_neg (by simpa using h), max_eq_left (not_lt.mp h)]

theorem exact_min (a b : ℚ) : Scalar.min a b = Min.min a b := by
  simp only [Scalar.min, exact_isNaN, Bool.false_eq_true, if_false, Bool.false_or]
  show (if decide (b < a) = true then b else a) = Min.min a b
  by_cases h : b < a
  · rw [if_pos (decide_eq_true h), min_eq_right h.le]
  · rw [if_neg (by simpa using h), min_eq_left (not_lt.mp h)]

theorem exact_eq (a b : ℚ) : Scalar.eq a b = true ↔ a = b := by
  show (decide (a ≤ b) && decide (b ≤ a)) = true ↔ a = b
  rw [Bool.and_eq_true, decide_eq_true_iff, decide_eq_true_iff]
  exact ⟨fun h => le_antisymm h.1 h.2, fun h => ⟨h.le, h.ge⟩⟩

/-! ## The laws of arithmetic -/

/-- Sums and products are not rounded, and the quotient of two counts is not negative. -/
class Exact (α : Type) [Scalar α] : Prop where
  add_assoc (a b c : α) : a + b + c = a + (b + c)
  zero_add (a : α) : zero + a = a
  neg_add_cancel (a : α) : -a + a = zero
  sub_eq (a b : α) : a - b = a + -b
  mul_assoc (a b c : α) : a * b * c = a * (b * c)
  mul_comm (a b : α) : a * b = b * a
  one_mul (a : α) : one * a = a
  mul_add (a b c : α) : a * (b + c) = a * b + a * c
  ratio_nonneg (n d : Nat) : le zero (ratio n d : α) = true

instance : Exact ℚ where
  add_assoc a b c := Rat.add_assoc a b c
  zero_add a := Rat.zero_add a
  neg_add_cancel a := Rat.neg_add_cancel a
  sub_eq a b := Rat.sub_eq_add_neg a b
  mul_assoc a b c := Rat.mul_assoc a b c
  mul_comm a b := Rat.mul_comm a b
  one_mul a := Rat.one_mul a
  mul_add a b c := Rat.mul_add a b c
  ratio_nonneg n d := by
    have h : (0 : ℚ) ≤ ((n : ℤ) : ℚ) / ((d : ℤ) : ℚ) :=
      div_nonneg (Int.cast_nonneg (Int.natCast_nonneg n)) (Int.cast_nonneg (Int.natCast_nonneg d))
    exact decide_eq_true h

variable {α : Type} [Scalar α] [Exact α]

/-- Exact numbers are a commutative ring. -/
abbrev Exact.ring : CommRing α :=
  letI : Zero α := ⟨zero⟩
  letI : One α := ⟨one⟩
  CommRing.ofMinimalAxioms Exact.add_assoc Exact.zero_add Exact.neg_add_cancel Exact.mul_assoc
    Exact.mul_comm Exact.one_mul Exact.mul_add

theorem exact_sub_self (a : α) : a - a = zero := by
  rw [Exact.sub_eq]
  let : CommRing α := Exact.ring
  exact add_neg_cancel a

theorem exact_abs_zero : abs (zero : α) = zero := by
  let : CommRing α := Exact.ring
  have hneg : (-zero : α) = zero := neg_zero
  rw [abs, hneg, ite_self]

end Scalar

end Wireframe
