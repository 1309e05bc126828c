import Wireframe.Proofs.Decimal.Magnitude

/-!
# `Wireframe.Proofs.Decimal.Ratio` — how large the double nearest to a fraction is

A fraction below a power of two has a double that is hardly above it, and a whole number of `2^1024` and
more has none. What a stored coordinate holds is infinite, no number, or below the end of single
precision.

## Contents
- `exponentField_ofBits`: the exponent field of given bits.
- `gridExponent_bounds`, `scaled_lt`: the grid of doubles around a fraction.
- `exponentField_ofRatio`, `field_le`, `field_last`: the field in which its double lies.
- `ofRatio_below`, `ofRatio_infinite`: small and great fractions.
- `single_below`: stored coordinates.
-/

namespace Wireframe.Decimal

open Float.Model Float.Model.UnpackedFloat

theorem exponentField_ofBits (bits : UInt64) :
    exponentField (Float.ofBits bits) = bits.toNat / 2 ^ 52 % 2 ^ 11 := by
  have hfield : (@unpackExponent .binary64 bits.toBitVec).toNat = bits.toNat / 2 ^ 52 % 2 ^ 11 := by
    rw [unpackExponent_def, BitVec.extractLsb'_toNat, Nat.shiftRight_eq_div_pow]
    rfl
  have hpack : UnpackedFloat.pack .binary64 (UnpackedFloat.unpack .binary64 bits.toBitVec) =
      if @isNaNBits .binary64 bits.toBitVec = true then packedNaN .binary64 else bits.toBitVec :=
    @pack_unpack .binary64 bits.toBitVec (by decide)
  rw [← hfield]
  show (@unpackExponent .binary64
    (UnpackedFloat.pack .binary64 (UnpackedFloat.unpack .binary64 bits.toBitVec))).toNat = _
  rw [hpack]
  split
  · next hnan =>
    have hend := (of_decide_eq_true hnan).1
    rw [packedNaN, unpackExponent_packComponents, hend]
  · rfl

/-! ## The grid around a fraction -/

/-- The exponent of the grid is that of the fraction less the digits of a mantissa, or one less. -/
theorem gridExponent_bounds (num den : Nat) :
    max (-1074) ((Nat.log2 num : Int) - Nat.log2 den - 53) ≤ gridExponent num den ∧
      gridExponent num den ≤ max (-1074) ((Nat.log2 num : Int) - Nat.log2 den - 52) := by
  simp only [gridExponent]
  split <;> omega

/-- A quotient in units of its grid has at most 54 binary digits. -/
theorem scaled_lt {num den : Nat} (hden : 0 < den) {q : Int}
    (hq : (Nat.log2 num : Int) - Nat.log2 den - 53 ≤ q) :
    (scaled num den q).1 < 2 ^ 54 * (scaled num den q).2 := by
  have hnum : num < 2 ^ (num.log2 + 1) := Nat.lt_log2_self
  have hlog : 2 ^ den.log2 ≤ den := Nat.log2_self_le (by omega)
  unfold scaled
  split
  · next hneg =>
    calc num * 2 ^ q.natAbs < 2 ^ (num.log2 + 1) * 2 ^ q.natAbs :=
          Nat.mul_lt_mul_of_pos_right hnum (Nat.two_pow_pos _)
      _ = 2 ^ (num.log2 + 1 + q.natAbs) := (Nat.pow_add ..).symm
      _ ≤ 2 ^ (54 + den.log2) := Nat.pow_le_pow_right (by decide) (by omega)
      _ = 2 ^ 54 * 2 ^ den.log2 := Nat.pow_add ..
      _ ≤ 2 ^ 54 * den := Nat.mul_le_mul_left _ hlog
  · next hpos =>
    calc num < 2 ^ (num.log2 + 1) := hnum
      _ ≤ 2 ^ (54 + (den.log2 + q.natAbs)) := Nat.pow_le_pow_right (by decide) (by omega)
      _ = 2 ^ 54 * (2 ^ den.log2 * 2 ^ q.natAbs) := by rw [Nat.pow_add, Nat.pow_add]
      _ ≤ 2 ^ 54 * (den * 2 ^ q.natAbs) :=
          Nat.mul_le_mul_left _ (Nat.mul_le_mul_right _ hlog)

theorem roundDiv_le_succ (num den : Nat) : roundDiv num den ≤ num / den + 1 := by
  simp only [roundDiv]
  split <;> omega

theorem div_le_roundDiv (num den : Nat) : num / den ≤ roundDiv num den := by
  simp only [roundDiv]
  split <;> omega

/-- The exponent field of the double of a fraction, whose bits without the sign are a number of steps on
    the line of doubles. -/
theorem exponentField_ofRatio {negative : Bool} {num den : Nat} (hnum : num ≠ 0) :
    exponentField (ofRatio negative num den) =
      min (2047 * 2 ^ 52) ((gridExponent num den + 1074).toNat * 2 ^ 52 +
        roundDiv (scaled num den (gridExponent num den)).1 (scaled num den (gridExponent num den)).2) / 2 ^ 52 := by
  have hzero : (num == 0) = false := beq_eq_false_iff_ne.mpr hnum
  simp only [ofRatio, hzero, Bool.false_eq_true, if_false, exponentField_ofBits]
  generalize (gridExponent num den + 1074).toNat * 2 ^ 52 +
    roundDiv (scaled num den (gridExponent num den)).1 (scaled num den (gridExponent num den)).2 = steps
  cases negative <;> simp <;> omega

/-- So many steps lead into the field after the one they start from, or to the last. -/
theorem field_le {first steps : Nat} {count : Nat} (h : steps ≤ count * 2 ^ 52) :
    min (2047 * 2 ^ 52) (first * 2 ^ 52 + steps) / 2 ^ 52 ≤ first + count := by
  have hpos : 0 < 2 ^ 52 := Nat.two_pow_pos 52
  calc min (2047 * 2 ^ 52) (first * 2 ^ 52 + steps) / 2 ^ 52
      ≤ (first * 2 ^ 52 + count * 2 ^ 52) / 2 ^ 52 :=
        Nat.div_le_div_right (Nat.le_trans (Nat.min_le_right _ _) (Nat.add_le_add_left h _))
    _ = first + count := by rw [← Nat.add_mul, Nat.mul_div_cancel _ hpos]

@[inherit_doc field_le]
theorem field_last {first steps : Nat} (hfirst : 2046 ≤ first) (h : 2 ^ 52 ≤ steps) :
    min (2047 * 2 ^ 52) (first * 2 ^ 52 + steps) / 2 ^ 52 = 2047 := by
  have hmul : 2046 * 2 ^ 52 ≤ first * 2 ^ 52 := Nat.mul_le_mul_right _ hfirst
  rw [Nat.min_eq_left (by omega), Nat.mul_div_cancel _ (Nat.two_pow_pos 52)]

/-! ## Small and great fractions -/

/-- The double of a fraction below a power of two is hardly above it. -/
theorem ofRatio_below {k : Nat} {num den : Nat} (hden : 0 < den) (h : num < 2 ^ k * den) (negative : Bool) :
    Below (k + 4) (ofRatio negative num den) := by
  unfold Below
  by_cases hnum : num = 0
  · have hfield : exponentField (ofRatio negative num den) = 0 := by
      simp only [ofRatio, hnum, beq_self_eq_true, if_true, exponentField_ofBits]
      cases negative <;> rfl
    rw [hfield]
    exact Nat.zero_le _
  · rw [exponentField_ofRatio hnum]
    have hlog : num.log2 ≤ k + den.log2 := by
      refine Nat.le_of_lt_succ ((Nat.log2_lt hnum).mpr (Nat.lt_trans h ?_))
      rw [Nat.succ_eq_add_one, Nat.add_assoc, Nat.pow_add]
      exact Nat.mul_lt_mul_of_pos_left Nat.lt_log2_self (Nat.two_pow_pos k)
    obtain ⟨hlower, hupper⟩ := gridExponent_bounds num den
    have hsteps : roundDiv (scaled num den (gridExponent num den)).1
        (scaled num den (gridExponent num den)).2 ≤ 4 * 2 ^ 52 := by
      refine Nat.le_trans (roundDiv_le_succ _ _) ?_
      rw [Nat.succ_le_iff]
      refine (Nat.div_lt_iff_lt_mul ?_).mpr (scaled_lt hden (by omega))
      unfold scaled
      split
      · exact hden
      · exact Nat.mul_pos hden (Nat.two_pow_pos _)
    refine Nat.le_trans (field_le hsteps) ?_
    omega

/-- A whole number of more than 1024 binary digits has no double. -/
theorem ofRatio_infinite {num : Nat} (hnum : num ≠ 0) (h : 1024 ≤ num.log2) (negative : Bool) :
    (ofRatio negative num 1).isFinite = false := by
  have hone : Nat.log2 1 = 0 := by decide
  -- the grid is that of the first 53 digits, and they fill the last field of all
  obtain ⟨k, hk, hk'⟩ : ∃ k : Nat, num.log2 = k + 52 ∧ 972 ≤ k := ⟨num.log2 - 52, by omega, by omega⟩
  have hlower : 2 ^ 52 * 2 ^ k ≤ num := by
    rw [← Nat.pow_add, Nat.add_comm, ← hk]
    exact Nat.log2_self_le hnum
  have hscaled : scaled num 1 (k : Int) = (num, 2 ^ k) := by
    have hnonneg : ¬ (k : Int) < 0 := by omega
    rw [scaled, if_neg hnonneg, Int.natAbs_natCast, Nat.one_mul]
  have hgrid : gridExponent num 1 = k := by
    have hguess : (num.log2 : Int) - Nat.log2 1 - 52 = k := by omega
    simp only [gridExponent, hguess, hscaled]
    rw [if_neg (Nat.not_lt.mpr hlower)]
    omega
  have hsteps : 2 ^ 52 ≤ roundDiv num (2 ^ k) :=
    Nat.le_trans ((Nat.le_div_iff_mul_le (Nat.two_pow_pos k)).mpr hlower) (div_le_roundDiv _ _)
  have hfield : exponentField (ofRatio negative num 1) = 2047 := by
    rw [exponentField_ofRatio hnum, hgrid, hscaled]
    exact field_last (by omega) hsteps
  rw [← Bool.not_eq_true, isFinite_iff, not_not]
  exact hfield

theorem ofRatio_power_infinite {k : Nat} (h : 1024 ≤ k) (negative : Bool) :
    (ofRatio negative (2 ^ k) 1).isFinite = false :=
  ofRatio_infinite (Nat.two_pow_pos k).ne' (Nat.le_trans h (Nat.le_of_eq Nat.log2_two_pow.symm)) negative

/-! ## Stored coordinates -/

/-- What is not finite is stored as it is. -/
theorem single_of_not_finite {x : Float} (h : exponentField x = 2047) : single x = x := by
  have hfield : (x.toBits.toNat / 2 ^ 52 % 2 ^ 11 == 2047) = true := by
    rw [← exponentField_eq, beq_iff_eq]
    exact h
  have hparts : parts x = .infinite (x.toBits.toNat / 2 ^ 63 == 1) ∨ parts x = .nan := by
    simp only [parts, hfield, if_true]
    split
    · exact .inl rfl
    · exact .inr rfl
  rcases hparts with hparts | hparts <;> rw [single, hparts]

/-- What a stored coordinate holds is below the end of single precision, up to its rounding, if it is
    finite. -/
theorem single_below {x : Float} (h : (single x).isFinite = true) : Below 132 (single x) := by
  by_cases hfield : exponentField x = 2047
  · rw [single_of_not_finite hfield] at h
    exact absurd hfield (isFinite_iff.mp h)
  · obtain ⟨negative, m, q, hparts⟩ := parts_of_field hfield
    rw [single, hparts] at h ⊢
    dsimp only at h ⊢
    split at h
    · rw [ofRatio_power_infinite (Nat.le_refl 1024)] at h
      cases h
    · next hsmall =>
      rw [if_neg hsmall]
      refine ofRatio_below ?_ (Nat.lt_of_not_le hsmall) negative
      unfold binary
      split
      · exact Nat.two_pow_pos _
      · exact Nat.one_pos

end Wireframe.Decimal
