import Wireframe.Scalar
import Mathlib

/-!
# `Wireframe.Proofs.Decimal.Order` — doubles in order

Doubles that are numbers are ordered by their place on the line: first the negative ones, then zero, then
the positive ones, and infinity at each end. Doubles of one sign are ordered by exponent first and by
mantissa where exponents agree, because a mantissa is as long as it can be. So the order is that of the
triples of sign, exponent and mantissa, which makes it transitive.

## Contents
- `rank`, `le_iff_rank`: the place of a double, and the order by places.
- `double_le_trans`, `double_le_self`, `double_le_of_lt`: the order of doubles.
- `le_foldl_max`, `foldl_min_le`: greatest and smallest of several.
-/

namespace Wireframe.Decimal

open Float.Model Float.Model.UnpackedFloat

/-! ## Places -/

/-- The place of a number on the line: its sign and kind first, then exponent and mantissa. -/
def rank : UnpackedFloat → ℤ ×ₗ ℤ ×ₗ ℤ
  | .infinity sign => toLex (sign.apply 2, toLex (0, 0))
  | .finite sign m e _ => toLex (sign.apply 1, toLex (sign.apply e, sign.apply m))
  | _ => toLex (0, toLex (0, 0))

theorem isLE_compare_pair {e f : Int} {m n : Nat} :
    ((compare e f).then (compare m n)).isLE = true ↔ e < f ∨ e = f ∧ m ≤ n := by
  rw [Ordering.isLE_then_iff_or, Int.compare_eq_lt, Int.compare_eq_eq, Nat.isLE_compare]

/-- The order of numbers is that of their places. -/
theorem le_iff_rank {u v : UnpackedFloat} (hu : u ≠ .notANumber) (hv : v ≠ .notANumber) :
    u.le v = true ↔ rank u ≤ rank v := by
  cases u with
  | notANumber => exact absurd rfl hu
  | zero s =>
    cases v with
    | notANumber => exact absurd rfl hv
    | zero t => exact iff_of_true rfl le_rfl
    | infinity t => cases t <;> simp [UnpackedFloat.le, UnpackedFloat.compare, rank, Prod.Lex.le_iff, Sign.apply]
    | finite t n f hn =>
      cases t <;> simp [UnpackedFloat.le, UnpackedFloat.compare, rank, Prod.Lex.le_iff, Sign.apply]
  | infinity s =>
    cases v with
    | notANumber => exact absurd rfl hv
    | zero t => cases s <;> simp [UnpackedFloat.le, UnpackedFloat.compare, rank, Prod.Lex.le_iff, Sign.apply]
    | infinity t => cases s <;> cases t <;> decide
    | finite t n f hn =>
      cases s <;> cases t <;>
        simp [UnpackedFloat.le, UnpackedFloat.compare, rank, Prod.Lex.le_iff, Sign.apply]
  | finite s m e hm =>
    cases v with
    | notANumber => exact absurd rfl hv
    | zero t => cases s <;> simp [UnpackedFloat.le, UnpackedFloat.compare, rank, Prod.Lex.le_iff, Sign.apply]
    | infinity t =>
      cases s <;> cases t <;>
        simp [UnpackedFloat.le, UnpackedFloat.compare, rank, Prod.Lex.le_iff, Sign.apply]
    | finite t n f hn =>
      cases s with
      | negative =>
        cases t with
        | negative =>
          -- among negative numbers the order is turned round
          have hswap : ((compare e f).then (compare m n)).swap = (compare f e).then (compare n m) := by
            rw [Ordering.swap_then, Int.compare_swap, Nat.compare_swap]
          simp only [UnpackedFloat.le, UnpackedFloat.compare, hswap, Option.any_some, isLE_compare_pair]
          simp [rank, Prod.Lex.le_iff, Sign.apply, eq_comm]
        | positive => simp [UnpackedFloat.le, UnpackedFloat.compare, rank, Prod.Lex.le_iff, Sign.apply]
      | positive =>
        cases t with
        | negative => simp [UnpackedFloat.le, UnpackedFloat.compare, rank, Prod.Lex.le_iff, Sign.apply]
        | positive =>
          simp only [UnpackedFloat.le, UnpackedFloat.compare, Option.any_some, isLE_compare_pair]
          simp [rank, Prod.Lex.le_iff, Sign.apply]

/-! ## Doubles -/

theorem double_le_iff {x y : Float} : x ≤ y ↔ x.toModel.unpack.le y.toModel.unpack = true :=
  ⟨fun h => of_decide_eq_true h, fun h => decide_eq_true h⟩

theorem not_nan_of_le {u v : UnpackedFloat} (h : u.le v = true) : u ≠ .notANumber ∧ v ≠ .notANumber := by
  refine ⟨?_, ?_⟩
  · rintro rfl
    cases h
  · rintro rfl
    cases u <;> cases h

theorem double_le_trans {x y z : Float} (hxy : x ≤ y) (hyz : y ≤ z) : x ≤ z := by
  rw [double_le_iff] at hxy hyz ⊢
  obtain ⟨hx, hy⟩ := not_nan_of_le hxy
  obtain ⟨-, hz⟩ := not_nan_of_le hyz
  rw [le_iff_rank hx hy] at hxy
  rw [le_iff_rank hy hz] at hyz
  rw [le_iff_rank hx hz]
  exact hxy.trans hyz

/-- A double that can be compared is a number, so it is at most itself. -/
theorem double_le_self {x y : Float} (h : x ≤ y) : x ≤ x ∧ y ≤ y := by
  simp only [double_le_iff] at h ⊢
  obtain ⟨hx, hy⟩ := not_nan_of_le h
  exact ⟨(le_iff_rank hx hx).mpr le_rfl, (le_iff_rank hy hy).mpr le_rfl⟩

theorem double_le_of_lt {x y : Float} (h : x < y) : x ≤ y := by
  have hlt : (x.toModel.unpack.compare y.toModel.unpack == some .lt) = true := of_decide_eq_true h
  rw [double_le_iff, UnpackedFloat.le, eq_of_beq hlt]
  rfl

/-! ## The greatest and the smallest of several -/

theorem scalar_le {x y : Float} : Scalar.le x y = true ↔ x ≤ y := decide_eq_true_iff

theorem scalar_lt {x y : Float} : Scalar.lt x y = true ↔ x < y := decide_eq_true_iff

theorem scalar_isNaN {x : Float} : Scalar.isNaN x = true ↔ ¬ x ≤ x := by
  rw [Scalar.isNaN, Bool.not_eq_true', ← Bool.not_eq_true, scalar_le]

/-- The greater of two is none of them only if it is no number. -/
theorem le_max {x y : Float} (h : Scalar.max x y ≤ Scalar.max x y) : x ≤ Scalar.max x y := by
  simp only [Scalar.max, Bool.or_eq_true, scalar_isNaN, scalar_lt] at h ⊢
  split
  · next hx =>
    rw [if_pos hx] at h
    exact h
  · next hx =>
    rw [if_neg hx] at h
    split
    · next hy =>
      rw [if_pos hy] at h
      exact double_le_of_lt (hy.resolve_left (not_not.mpr h))
    · exact not_not.mp hx

@[inherit_doc le_max]
theorem min_le {x y : Float} (h : Scalar.min x y ≤ Scalar.min x y) : Scalar.min x y ≤ x := by
  simp only [Scalar.min, Bool.or_eq_true, scalar_isNaN, scalar_lt] at h ⊢
  split
  · next hx =>
    rw [if_pos hx] at h
    exact h
  · next hx =>
    rw [if_neg hx] at h
    split
    · next hy =>
      rw [if_pos hy] at h
      exact double_le_of_lt (hy.resolve_left (not_not.mpr h))
    · exact not_not.mp hx

/-- The greatest of several numbers is at least the first. -/
theorem le_foldl_max {xs : List Float} {x : Float}
    (h : xs.foldl Scalar.max x ≤ xs.foldl Scalar.max x) : x ≤ xs.foldl Scalar.max x := by
  induction xs generalizing x with
  | nil => exact h
  | cons y xs ih =>
    have hrest := ih h
    exact double_le_trans (le_max (double_le_self hrest).1) hrest

/-- The smallest of several numbers is at most the first. -/
theorem foldl_min_le {xs : List Float} {x : Float}
    (h : xs.foldl Scalar.min x ≤ xs.foldl Scalar.min x) : xs.foldl Scalar.min x ≤ x := by
  induction xs generalizing x with
  | nil => exact h
  | cons y xs ih =>
    have hrest := ih h
    exact double_le_trans hrest (min_le (double_le_self hrest).2)

end Wireframe.Decimal
