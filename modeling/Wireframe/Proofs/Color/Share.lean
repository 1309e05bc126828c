import Wireframe.Color
import Wireframe.Proofs.Decimal.Rounding
import Mathlib

/-!
# `Wireframe.Proofs.Color.Share` — shares of full light stay in range

A share of full light is a double between 0 and 1. Times 255 it is rounded twice, once to a double and
once to a whole number. Neither rounding leads beyond 255, because 255 is a double and a whole number:
a mantissa and an exponent that stand for at most 255 still do after bits are dropped and the rest is
rounded.

## Contents
- `AtMost`, `AtMost.shift`, `AtMost.round`: mantissas and exponents that stand for at most 255.
- `AtMost.pack`, `round_of_bits_le`: doubles that are at most 255.
- `share_cases`, `times_bits`: the product of a share.
- `ofShare_range` assembles the results.
-/

namespace Wireframe.Light

open Float.Model Float.Model.UnpackedFloat Decimal

/-! ## Mantissas and exponents that stand for at most 255 -/

/-- `m · 2^(-j)` is at most 255, and its last bit counts no more than that of 255 as a double. -/
structure AtMost (m j : Nat) : Prop where
  value : m ≤ 255 * 2 ^ j
  fine : 45 ≤ j

/-- The exponent that doubles have around such a number is not above that of 255. -/
theorem AtMost.target {m j : Nat} (h : AtMost m j) :
    Format.binary64.targetExponent (totalExponent m (-(j : Int))) ≤ -45 := by
  have hlog : (m.log2 : Int) + 1 ≤ j + 8 := by
    by_cases hm : m = 0
    · subst hm
      have hzero : Nat.log2 0 = 0 := by decide
      rw [hzero]
      omega
    · have hlt : m < 2 ^ (j + 8) := by
        have hpow : 2 ^ (j + 8) = 256 * 2 ^ j := by rw [Nat.pow_add, Nat.mul_comm]
        have hpos := Nat.two_pow_pos j
        have hvalue := h.value
        omega
      have hbits := (Nat.log2_lt hm).mpr hlt
      omega
  rw [targetExponent_eq]
  omega

/-- Bits are dropped, and what is left is again at most 255. -/
theorem AtMost.shift {m j : Nat} (h : AtMost m j) :
    ∃ s, s ≤ j ∧ 45 ≤ j - s ∧ m ≤ 255 * 2 ^ (j - s) * 2 ^ s ∧
      shiftToTargetExponent .binary64 m (-(j : Int)) .exact = (dropped m s, -((j - s : Nat) : Int)) := by
  have htarget := h.target
  have hfine := h.fine
  refine ⟨(Format.binary64.targetExponent (totalExponent m (-(j : Int))) - (-(j : Int))).toNat,
    by omega, by omega, ?_, ?_⟩
  · rw [Nat.mul_assoc, ← Nat.pow_add, Nat.sub_add_cancel (by omega)]
    exact h.value
  · rw [shiftToTargetExponent_eq rfl]
    congr 1
    omega

/-- Rounding a number of at most 255 to a double leads to one of at most 255. -/
theorem AtMost.round {m j : Nat} (h : AtMost m j) (sign : Sign) :
    roundWithAccuracy .binary64 sign m (-(j : Int)) .exact = .zero sign ∨
      ∃ m' j' hm', AtMost m' j' ∧
        roundWithAccuracy .binary64 sign m (-(j : Int)) .exact = .finite sign m' (-(j' : Int)) hm' := by
  -- bits are dropped before the rounding, and again where the rounding carried over
  obtain ⟨s, hs, hfine, hvalue, hshift⟩ := h.shift
  have hrounded : AtMost (dropped m s).roundedMantissa (j - s) := ⟨rounded_le hvalue, hfine⟩
  obtain ⟨s', hs', hfine', hvalue', hshift'⟩ := hrounded.shift
  have hmantissa : AtMost (dropped (dropped m s).roundedMantissa s').mantissa (j - s - s') := by
    refine ⟨?_, hfine'⟩
    rw [dropped_mantissa]
    exact Nat.div_le_of_le_mul (by rwa [Nat.mul_comm])
  simp only [roundWithAccuracy, hshift, hshift']
  by_cases hzero : (dropped (dropped m s).roundedMantissa s').mantissa = 0
  · rw [dif_pos hzero]
    exact .inl rfl
  · rw [dif_neg hzero]
    exact .inr ⟨_, _, Nat.pos_of_ne_zero hzero, hmantissa, rfl⟩

/-! ## Doubles that are at most 255 -/

/-- The bits of 255 as a double. -/
def bitsOf255 : Nat := 1030 * 2 ^ 52 + (255 * 2 ^ 45 - 2 ^ 52)

theorem packComponents_toNat (sign : Sign) (e : BitVec 11) (m : BitVec 52) :
    (packComponents .binary64 sign e m).toNat = sign.toBitVec.toNat * 2 ^ 63 + e.toNat * 2 ^ 52 + m.toNat := by
  have he := e.isLt
  have hm := m.isLt
  show (sign.toBitVec ++ e ++ m).toNat = _
  rw [BitVec.toNat_append, BitVec.toNat_append, ← Nat.shiftLeft_add_eq_or_of_lt he,
    ← Nat.shiftLeft_add_eq_or_of_lt hm, Nat.shiftLeft_eq, Nat.shiftLeft_eq]
  omega

/-- A positive number of at most 255 has no greater bits than 255. -/
theorem AtMost.pack {m j : Nat} (h : AtMost m j) (hm : 0 < m) :
    (pack .binary64 (.finite .positive m (-(j : Int)) hm)).toNat ≤ bitsOf255 := by
  have hfine := h.fine
  have hexponent : (-(j : Int) + (Format.binary64.exponentBias : Int) + (52 : Nat)).toNat = 1075 - j := by
    have hbias : Format.binary64.exponentBias = 1023 := by decide
    rw [hbias]
    omega
  have hsmall : ¬ 2 ^ 11 ≤ 1075 - j + 1 := by
    have hpow : 2 ^ 11 = 2048 := by decide
    omega
  simp only [UnpackedFloat.pack, hexponent, if_neg hsmall]
  -- numbers with an implicit first bit, and those below them
  split
  · next hnormal =>
    have hlog : m.log2 = 52 := by
      have hbits : Format.binary64.mantissaBits = 53 := by decide
      omega
    have hrange := (Nat.log2_eq_iff (by omega)).mp hlog
    rw [packComponents_toNat, BitVec.toNat_ofNat, BitVec.toNat_ofNat]
    have hfraction : m % 2 ^ 52 = m - 2 ^ 52 := by omega
    have hfield : (1075 - j) % 2 ^ 11 = 1075 - j := Nat.mod_eq_of_lt (by omega)
    rw [hfraction, hfield]
    show 0 * 2 ^ 63 + (1075 - j) * 2 ^ 52 + (m - 2 ^ 52) ≤ bitsOf255
    rw [bitsOf255]
    by_cases hj : j = 45
    · have hvalue := h.value
      rw [hj] at hvalue ⊢
      omega
    · omega
  · rw [packComponents_toNat, BitVec.toNat_ofNat]
    show 0 * 2 ^ 63 + 0 * 2 ^ 52 + m % 2 ^ 52 ≤ bitsOf255
    rw [bitsOf255]
    omega

/-- A quotient of at most a whole number is not rounded beyond it. -/
theorem roundDiv_le {num den n : Nat} (hden : 0 < den) (h : num ≤ n * den) :
    Decimal.roundDiv num den ≤ n := by
  have hquotient : num / den ≤ n := Nat.div_le_of_le_mul (by rwa [Nat.mul_comm])
  simp only [Decimal.roundDiv]
  split
  · exact hquotient
  · next hrest =>
    have hne : num / den ≠ n := by
      intro heq
      have hdivision := Nat.div_add_mod num den
      rw [heq, Nat.mul_comm] at hdivision
      have hzero : num % den = 0 := by omega
      rw [hzero] at hrest
      simp [hden] at hrest
    omega

/-- The whole number nearest to a double depends on its bits alone. -/
theorem round_congr {x y : Float} (h : x.toBits = y.toBits) : Decimal.round? x = Decimal.round? y := by
  simp only [Decimal.round?, Decimal.parts, h]

/-- Parts that stand for at most 255 are rounded to at most 255. -/
theorem round_of_parts {x : Float} {m k : Nat}
    (hparts : Decimal.parts x = .finite false m (-(k : Int))) (hk : 0 < k) (h : m ≤ 255 * 2 ^ k) :
    ∃ n : Nat, Decimal.round? x = some (n : Int) ∧ n ≤ 255 := by
  have hnegative : -(k : Int) < 0 := by omega
  have habs : (-(k : Int)).natAbs = k := by omega
  refine ⟨Decimal.roundDiv m (2 ^ k), ?_, roundDiv_le (Nat.two_pow_pos k) h⟩
  simp only [Decimal.round?, hparts, if_pos hnegative, habs, Bool.false_eq_true, if_false]

/-- A double whose bits are no greater than those of 255 is rounded to at most 255. -/
theorem round_of_bits_le {x : Float} (h : x.toBits.toNat ≤ bitsOf255) :
    ∃ n : Nat, Decimal.round? x = some (n : Int) ∧ n ≤ 255 := by
  generalize hb : x.toBits.toNat = b at h
  rw [bitsOf255] at h
  have hpositive : (b / 2 ^ 63 == 1) = false := by
    rw [beq_eq_false_iff_ne]
    omega
  have hfield : b / 2 ^ 52 % 2 ^ 11 ≤ 1030 := by omega
  have hfraction : b % 2 ^ 52 < 2 ^ 52 := Nat.mod_lt _ (by decide)
  have hfinite : (b / 2 ^ 52 % 2 ^ 11 == 2047) = false := by
    rw [beq_eq_false_iff_ne]
    omega
  by_cases hzero : b / 2 ^ 52 % 2 ^ 11 = 0
  · have hparts : Decimal.parts x = .finite false (b % 2 ^ 52) (-((1074 : Nat) : Int)) := by
      have hfield0 : (b / 2 ^ 52 % 2 ^ 11 == 0) = true := beq_iff_eq.mpr hzero
      simp only [Decimal.parts, hb, hpositive, hfinite, hfield0, Bool.false_eq_true, if_false, if_true]
      rfl
    -- for every `k`, because a power that is written out would be evaluated
    have hsmall : ∀ k : Nat, 52 ≤ k → b % 2 ^ 52 ≤ 255 * 2 ^ k := by
      intro k hk
      have hpow : 2 ^ 52 ≤ 2 ^ k := Nat.pow_le_pow_right (by decide) hk
      omega
    exact round_of_parts hparts (by decide) (hsmall 1074 (by decide))
  · have hnormal : (b / 2 ^ 52 % 2 ^ 11 == 0) = false := beq_eq_false_iff_ne.mpr hzero
    obtain ⟨k, hk⟩ : ∃ k : Nat, ((b / 2 ^ 52 % 2 ^ 11 : Nat) : Int) - 1075 = -(k : Int) ∧ 45 ≤ k :=
      ⟨1075 - b / 2 ^ 52 % 2 ^ 11, by omega, by omega⟩
    have hparts : Decimal.parts x = .finite false (2 ^ 52 + b % 2 ^ 52) (-(k : Int)) := by
      simp only [Decimal.parts, hb, hpositive, hfinite, hnormal, Bool.false_eq_true, if_false, hk.1]
    refine round_of_parts hparts (by omega) ?_
    -- with the exponent of 255 the fraction decides
    by_cases hlast : k = 45
    · rw [hlast] at hk ⊢
      omega
    · have hpow : 2 ^ 46 ≤ 2 ^ k :=
        Nat.pow_le_pow_right (by decide) (Nat.lt_of_le_of_ne hk.2 (Ne.symm hlast))
      omega

/-! ## Shares of full light -/

/-- The mantissa of a double has 53 bits. -/
theorem unpack_mantissa_lt {x : Float} {sign : Sign} {m : Nat} {e : Int} {hm : 0 < m}
    (h : x.toModel.unpack = .finite sign m e hm) : m < 2 ^ 53 := by
  simp only [Float.Model.unpack, UnpackedFloat.unpack] at h
  split at h
  · split at h <;> cases h
  · split at h
    · split at h
      · cases h
      · cases h
        exact Nat.lt_trans (BitVec.isLt _) (by decide)
    · cases h
      exact BitVec.isLt _

/-- A share is zero, or it is positive and at most one. -/
theorem share_cases {x : Float} (h : Rgba.isShare x = true) :
    (∃ sign, x.toModel.unpack = .zero sign) ∨
      ∃ (m k : Nat) (hm : 0 < m),
        x.toModel.unpack = .finite .positive m (-(k : Int)) hm ∧ m ≤ 2 ^ k ∧ 52 ≤ k := by
  obtain ⟨hlower, hupper⟩ := Bool.and_eq_true_iff.mp h
  have hzero : (0.0 : Float).toModel.unpack = .zero .positive := rfl
  have hone : (1.0 : Float).toModel.unpack = .finite .positive (2 ^ 52) (-52) (by decide) := rfl
  have hge : (UnpackedFloat.zero .positive).le x.toModel.unpack = true := by
    rw [← hzero]
    exact of_decide_eq_true (of_decide_eq_true hlower)
  have hle : x.toModel.unpack.le (.finite .positive (2 ^ 52) (-52) (by decide)) = true := by
    rw [← hone]
    exact of_decide_eq_true (of_decide_eq_true hupper)
  cases hx : x.toModel.unpack with
  | infinity sign =>
    rw [hx] at hge hle
    cases sign with
    | positive => cases hle
    | negative => cases hge
  | notANumber =>
    rw [hx] at hge
    cases hge
  | zero sign => exact .inl ⟨sign, rfl⟩
  | finite sign m e hm =>
    rw [hx] at hge hle
    cases sign with
    | negative => cases hge
    | positive =>
      have hmantissa := unpack_mantissa_lt hx
      -- exponents are compared first, mantissas where they agree
      have hsmall : e < -52 ∨ e = -52 ∧ m ≤ 2 ^ 52 := by
        have hcompare : ((compare e (-52)).then (compare m (2 ^ 52))).isLE = true := hle
        rcases Int.lt_trichotomy e (-52) with hlt | heq | hgt
        · exact .inl hlt
        · rw [heq, Int.compare_eq_eq.mpr rfl] at hcompare
          exact .inr ⟨heq, Nat.isLE_compare.mp hcompare⟩
        · rw [Int.compare_eq_gt.mpr hgt] at hcompare
          cases hcompare
      obtain ⟨k, rfl⟩ : ∃ k : Nat, e = -(k : Int) := ⟨(-e).toNat, by omega⟩
      refine .inr ⟨m, k, hm, rfl, ?_, by omega⟩
      rcases hsmall with hlt | ⟨heq, hle⟩
      · have hpow : 2 ^ 53 ≤ 2 ^ k := Nat.pow_le_pow_right (by decide) (by omega)
        omega
      · have hk : k = 52 := by omega
        rw [hk]
        exact hle

/-- A share times 255 is at most 255, or it is a zero below zero. -/
theorem times_bits {x : Float} (h : Rgba.isShare x = true) :
    (x * 255.0).toBits.toNat ≤ bitsOf255 ∨ (x * 255.0).toBits = (-0.0 : Float).toBits := by
  have hfull : (255.0 : Float).toModel.unpack = .finite .positive (255 * 2 ^ 45) (-45) (by decide) := rfl
  have hbits : (x * 255.0).toBits = (Float.Model.pack (UnpackedFloat.mul .binary64 x.toModel.unpack
      (255.0 : Float).toModel.unpack)).toBits := rfl
  rw [hfull] at hbits
  rcases share_cases h with ⟨sign, hx⟩ | ⟨m, k, hm, hx, hle, hk⟩
  · rw [hx] at hbits
    cases sign with
    | positive =>
      rw [hbits]
      exact .inl (by decide)
    | negative => exact .inr (hbits.trans rfl)
  · have hproduct : AtMost (m * (255 * 2 ^ 45)) (k + 45) := by
      refine ⟨?_, by omega⟩
      calc m * (255 * 2 ^ 45) ≤ 2 ^ k * (255 * 2 ^ 45) := Nat.mul_le_mul_right _ hle
        _ = 255 * 2 ^ (k + 45) := by rw [Nat.pow_add, Nat.mul_left_comm]
    have hmul : UnpackedFloat.mul .binary64 x.toModel.unpack
        (.finite .positive (255 * 2 ^ 45) (-45) (by decide)) =
        roundWithAccuracy .binary64 .positive (m * (255 * 2 ^ 45)) (-((k + 45 : Nat) : Int)) .exact := by
      rw [hx]
      show roundWithAccuracy .binary64 .positive (m * (255 * 2 ^ 45)) (-(k : Int) + -45) .exact = _
      congr 1
      omega
    left
    rw [hbits, hmul]
    rcases hproduct.round .positive with hzero | ⟨m', j', hm', hmost, hfinite⟩
    · rw [hzero]
      decide
    · rw [hfinite]
      exact hmost.pack hm'

/-- **The byte of a share.** It lies between 0 and 255. -/
theorem ofShare_range {x : Float} (h : Rgba.isShare x = true) :
    0 ≤ Rgb.ofShare x ∧ Rgb.ofShare x ≤ 255 := by
  rcases times_bits h with hle | hzero
  · obtain ⟨n, hround, hn⟩ := round_of_bits_le hle
    rw [Rgb.ofShare, hround, Option.getD_some]
    omega
  · have hparts : parts (-0.0) = .finite true 0 (-1074) := rfl
    have hnothing : ∀ d, 0 < d → roundDiv 0 d = 0 := fun d hd => by simp [roundDiv, hd]
    have hround : Decimal.round? (x * 255.0) = some 0 := by
      rw [round_congr hzero, Decimal.round?, hparts]
      simp only [hnothing _ (Nat.two_pow_pos _), Nat.zero_mul, ite_self]
      rfl
    rw [Rgb.ofShare, hround, Option.getD_some]
    decide

end Wireframe.Light
