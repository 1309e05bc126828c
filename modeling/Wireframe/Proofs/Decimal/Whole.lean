import Wireframe.Document.Conversion
import Wireframe.Proofs.Decimal.Ratio

/-!
# `Wireframe.Proofs.Decimal.Whole` — whole numbers among the doubles

A whole number that some double is has at most 53 binary digits before its zeros and at most 1024 in all.
Such a number has a double of its own: nothing is rounded, and the double is that whole number again.

## Contents
- `toBits_ofBits`: the bits of a finite double.
- `Fits`, `fits_of_integer`: the whole numbers that doubles are.
- `parts_ofRatio`: the double of such a number in parts.
- `integer_ofInt`, `floatOfInt_of_integer`: it is the number again.
-/

namespace Wireframe.Decimal

open Document Float.Model Float.Model.UnpackedFloat

/-! ## Bits -/

/-- Bits of a finite double are kept. -/
theorem toBits_ofBits {bits : UInt64} (h : bits.toNat / 2 ^ 52 % 2 ^ 11 ≠ 2047) :
    (Float.ofBits bits).toBits = bits := by
  have hlast : (-1#(Format.binary64.exponentBits)).toNat = 2047 := by decide
  have hfield : (@unpackExponent .binary64 bits.toBitVec).toNat = bits.toNat / 2 ^ 52 % 2 ^ 11 := by
    rw [unpackExponent_def, BitVec.extractLsb'_toNat, Nat.shiftRight_eq_div_pow]
    rfl
  have hnumber : @isNaNBits .binary64 bits.toBitVec = false := by
    apply decide_eq_false
    rintro ⟨hend, -⟩
    rw [← hfield, hend, hlast] at h
    exact h rfl
  have hpack : UnpackedFloat.pack .binary64 (UnpackedFloat.unpack .binary64 bits.toBitVec) =
      if @isNaNBits .binary64 bits.toBitVec = true then packedNaN .binary64 else bits.toBitVec :=
    @pack_unpack .binary64 bits.toBitVec (by decide)
  rw [hnumber, if_neg Bool.false_ne_true] at hpack
  exact UInt64.toBitVec_inj.mp hpack

/-! ## Whole numbers that doubles are -/

/-- A number of at most 53 binary digits before its zeros, and of at most 1024 in all. -/
def Fits (size : Nat) : Prop := size.log2 < 1024 ∧ ∃ m e, m < 2 ^ 53 ∧ size = m * 2 ^ e

theorem log2_mul_pow_le {m : Nat} (hm : m < 2 ^ 53) (e : Nat) : (m * 2 ^ e).log2 ≤ 52 + e := by
  apply Nat.le_of_lt_succ
  apply log2_lt_of_lt (Nat.succ_pos _)
  calc m * 2 ^ e < 2 ^ 53 * 2 ^ e := Nat.mul_lt_mul_of_pos_right hm (Nat.two_pow_pos e)
    _ = 2 ^ (52 + e).succ := by rw [← Nat.pow_add, Nat.succ_eq_add_one, Nat.add_right_comm]

/-- The parts of a finite double are small. -/
theorem parts_lt {x : Float} {negative : Bool} {m : Nat} {q : Int}
    (h : parts x = .finite negative m q) : m < 2 ^ 53 ∧ q ≤ 971 := by
  simp only [parts] at h
  split at h
  · split at h <;> cases h
  · next hlast =>
    have hfield : x.toBits.toNat / 2 ^ 52 % 2 ^ 11 < 2 ^ 11 := Nat.mod_lt _ (by decide)
    have hfraction : x.toBits.toNat % 2 ^ 52 < 2 ^ 52 := Nat.mod_lt _ (by decide)
    rw [beq_iff_eq] at hlast
    split at h
    · cases h
      omega
    · cases h
      omega

/-- A double that is a whole number is one that fits. -/
theorem fits_of_integer {x : Float} {n : Int} (h : integer? x = some n) : Fits n.natAbs := by
  simp only [integer?] at h
  split at h
  · next negative m q hparts =>
    obtain ⟨hm, hq⟩ := parts_lt hparts
    split at h
    · generalize hsize : (if q < 0 then m / 2 ^ q.natAbs else m * 2 ^ q.natAbs) = size at h
      obtain rfl : n.natAbs = size := by cases negative <;> cases h <;> simp
      rw [← hsize]
      split
      · have hle : m / 2 ^ q.natAbs < 2 ^ 53 := Nat.lt_of_le_of_lt (Nat.div_le_self _ _) hm
        exact ⟨Nat.lt_trans (log2_lt_of_lt (by decide) hle) (by decide), m / 2 ^ q.natAbs, 0, hle,
          (Nat.mul_one _).symm⟩
      · exact ⟨Nat.lt_of_le_of_lt (log2_mul_pow_le hm _) (by omega), m, q.natAbs, hm, rfl⟩
    · cases h
  · cases h

/-- Behind its leading 53 binary digits a number that fits has zeros alone. -/
theorem Fits.dvd {size : Nat} (h : Fits size) : 2 ^ (size.log2 - 52) ∣ size := by
  obtain ⟨-, m, e, hm, rfl⟩ := h
  have hlog := log2_mul_pow_le hm e
  exact Nat.dvd_mul_left_of_dvd (Nat.pow_dvd_pow 2 (by omega)) m

/-! ## The double of a whole number -/

/-- A quotient without a remainder is not rounded. -/
theorem roundDiv_mul (m : Nat) {den : Nat} (hden : 0 < den) : roundDiv (m * den) den = m := by
  simp only [roundDiv, Nat.mul_div_cancel m hden, Nat.mul_mod_left]
  rw [if_pos]
  simpa using .inl hden

/-- The mantissa of a number that fits, with all its 53 binary digits. -/
theorem mantissa_of_fits {num : Nat} (hnum : num ≠ 0) (h : Fits num) :
    ∃ m, 2 ^ 52 ≤ m ∧ m < 2 ^ 53 ∧ m * 2 ^ (num.log2 - 52) = num * 2 ^ (52 - num.log2) := by
  obtain ⟨m, hm⟩ := Nat.dvd_trans h.dvd (Nat.dvd_mul_right num (2 ^ (52 - num.log2)))
  rw [Nat.mul_comm (2 ^ _) m] at hm
  have hlower : 2 ^ num.log2 ≤ num := Nat.log2_self_le hnum
  have hupper : num < 2 ^ (num.log2 + 1) := Nat.lt_log2_self
  refine ⟨m, ?_, ?_, hm.symm⟩
  · apply Nat.le_of_mul_le_mul_right _ (Nat.two_pow_pos (num.log2 - 52))
    calc 2 ^ 52 * 2 ^ (num.log2 - 52) = 2 ^ num.log2 * 2 ^ (52 - num.log2) := by
          rw [← Nat.pow_add, ← Nat.pow_add]
          congr 1
          omega
      _ ≤ num * 2 ^ (52 - num.log2) := Nat.mul_le_mul_right _ hlower
      _ = m * 2 ^ (num.log2 - 52) := hm
  · apply Nat.lt_of_mul_lt_mul_right (a := 2 ^ (num.log2 - 52))
    calc m * 2 ^ (num.log2 - 52) = num * 2 ^ (52 - num.log2) := hm.symm
      _ < 2 ^ (num.log2 + 1) * 2 ^ (52 - num.log2) :=
          Nat.mul_lt_mul_of_pos_right hupper (Nat.two_pow_pos _)
      _ = 2 ^ 53 * 2 ^ (num.log2 - 52) := by
          rw [← Nat.pow_add, ← Nat.pow_add]
          congr 1
          omega

/-- On the grid of its 53 leading binary digits a number that fits is its mantissa. -/
theorem scaled_whole {num m : Nat} (hm : m * 2 ^ (num.log2 - 52) = num * 2 ^ (52 - num.log2)) :
    ∃ den, 0 < den ∧ scaled num 1 ((num.log2 : Int) - 52) = (m * den, den) := by
  unfold scaled
  split
  · have habs : ((num.log2 : Int) - 52).natAbs = 52 - num.log2 := by omega
    have hnone : num.log2 - 52 = 0 := by omega
    rw [hnone, Nat.pow_zero, Nat.mul_one] at hm
    exact ⟨1, Nat.one_pos, by rw [habs, hm, Nat.mul_one]⟩
  · have habs : ((num.log2 : Int) - 52).natAbs = num.log2 - 52 := by omega
    have hnone : 52 - num.log2 = 0 := by omega
    rw [hnone, Nat.pow_zero, Nat.mul_one] at hm
    exact ⟨2 ^ (num.log2 - 52), Nat.two_pow_pos _, by rw [habs, hm, Nat.one_mul]⟩

theorem gridExponent_whole {num m : Nat} (hm : 2 ^ 52 ≤ m)
    (h : m * 2 ^ (num.log2 - 52) = num * 2 ^ (52 - num.log2)) :
    gridExponent num 1 = (num.log2 : Int) - 52 := by
  obtain ⟨den, -, hscaled⟩ := scaled_whole h
  have hone : Nat.log2 1 = 0 := by decide
  simp only [gridExponent, hone, Int.natCast_zero, Int.sub_zero, hscaled]
  rw [if_neg (Nat.not_lt.mpr (Nat.mul_le_mul_right den hm))]
  omega

/-- The double of a number that fits has its mantissa and its grid. -/
theorem parts_ofRatio {num m : Nat} (hnum : num ≠ 0) (h : num.log2 < 1024) (hlower : 2 ^ 52 ≤ m)
    (hupper : m < 2 ^ 53) (hm : m * 2 ^ (num.log2 - 52) = num * 2 ^ (52 - num.log2)) (negative : Bool) :
    parts (ofRatio negative num 1) = .finite negative m ((num.log2 : Int) - 52) := by
  obtain ⟨den, hden, hscaled⟩ := scaled_whole hm
  have hzero : (num == 0) = false := beq_eq_false_iff_ne.mpr hnum
  -- the bits: sign, the exponent field, and the mantissa without its leading digit
  obtain ⟨bits, hratio, hbits⟩ : ∃ bits : UInt64, ofRatio negative num 1 = Float.ofBits bits ∧
      bits.toNat = (num.log2 + 1022) * 2 ^ 52 + m + if negative then 2 ^ 63 else 0 := by
    refine ⟨_, rfl, ?_⟩
    simp only [hzero, Bool.false_eq_true, if_false, gridExponent_whole hlower hm, hscaled,
      roundDiv_mul m hden]
    have hfield : ((num.log2 : Int) - 52 + 1074).toNat = num.log2 + 1022 := by omega
    rw [hfield, Nat.min_eq_right (by omega), UInt64.toNat_ofNat']
    cases negative <;> simp <;> omega
  have hfield : bits.toNat / 2 ^ 52 % 2 ^ 11 = num.log2 + 1023 := by
    rw [hbits]
    cases negative <;> simp <;> omega
  have hfraction : bits.toNat % 2 ^ 52 = m - 2 ^ 52 := by
    rw [hbits]
    cases negative <;> simp <;> omega
  have hsign : (bits.toNat / 2 ^ 63 == 1) = negative := by
    rw [hbits]
    cases negative <;> simp <;> omega
  have hkept : (Float.ofBits bits).toBits = bits := toBits_ofBits (by omega)
  have hmantissa : 2 ^ 52 + (m - 2 ^ 52) = m := Nat.add_sub_of_le hlower
  have hexponent : ((num.log2 + 1023 : Nat) : Int) - 1075 = (num.log2 : Int) - 52 := by omega
  have hfinite : (num.log2 + 1023 == 2047) = false := beq_eq_false_iff_ne.mpr (by omega)
  have hnormal : (num.log2 + 1023 == 0) = false := beq_eq_false_iff_ne.mpr (by omega)
  rw [hratio]
  simp only [parts, hkept, hfield, hfraction, hsign, hfinite, hnormal, Bool.false_eq_true, if_false,
    hmantissa, hexponent]

theorem isFinite_of_parts {x : Float} {negative : Bool} {m : Nat} {q : Int}
    (h : parts x = .finite negative m q) : x.isFinite = true := by
  rw [isFinite_iff]
  intro hfield
  have hlast : (x.toBits.toNat / 2 ^ 52 % 2 ^ 11 == 2047) = true := by
    rw [← exponentField_eq, hfield]
    rfl
  simp only [parts, hlast, if_true] at h
  split at h <;> cases h

/-- **Whole numbers survive.** A whole number that fits has a double, which is that number again. -/
theorem integer_ofInt {n : Int} (h : Fits n.natAbs) :
    (ofInt n).isFinite = true ∧ integer? (ofInt n) = some n := by
  by_cases hn : n = 0
  · subst hn
    have hparts : parts (ofInt 0) = .finite false 0 (-1074) := rfl
    refine ⟨rfl, ?_⟩
    rw [integer?, hparts]
    simp only [Nat.zero_mod, Nat.zero_div, Nat.zero_mul, beq_self_eq_true, Bool.or_true, if_true, ite_self]
    rfl
  · have hnum : n.natAbs ≠ 0 := Int.natAbs_ne_zero.mpr hn
    obtain ⟨m, hlower, hupper, hm⟩ := mantissa_of_fits hnum h
    have hparts : parts (ofInt n) = .finite (n < 0) m ((n.natAbs.log2 : Int) - 52) :=
      parts_ofRatio hnum h.1 hlower hupper hm _
    have hsign : (if decide (n < 0) = true then -(n.natAbs : Int) else n.natAbs) = n := by
      by_cases hneg : n < 0
      · rw [if_pos (decide_eq_true hneg)]
        omega
      · rw [if_neg (by simpa using hneg)]
        omega
    refine ⟨isFinite_of_parts hparts, ?_⟩
    simp only [integer?, hparts]
    -- a mantissa with its zeros behind it is the number, and so is one without those it lacks
    by_cases hq : (n.natAbs.log2 : Int) - 52 < 0
    · have habs : ((n.natAbs.log2 : Int) - 52).natAbs = 52 - n.natAbs.log2 := by omega
      have hnone : n.natAbs.log2 - 52 = 0 := by omega
      rw [hnone, Nat.pow_zero, Nat.mul_one] at hm
      rw [habs, if_pos hq, hm, Nat.mul_div_cancel _ (Nat.two_pow_pos _), Nat.mul_mod_left, hsign,
        if_pos (by simp)]
    · have habs : ((n.natAbs.log2 : Int) - 52).natAbs = n.natAbs.log2 - 52 := by omega
      have hnone : 52 - n.natAbs.log2 = 0 := by omega
      rw [hnone, Nat.pow_zero, Nat.mul_one] at hm
      rw [habs, if_neg hq, hm, hsign, if_pos (by simp; omega)]

/-- A whole number that came from a double is that of its own double. -/
theorem floatOfInt_of_integer {x : Float} {n : Int} (h : integer? x = some n) :
    ∃ y, floatOfInt n = .ok y ∧ integer? y = some n := by
  obtain ⟨hfinite, hinteger⟩ := integer_ofInt (fits_of_integer h)
  exact ⟨ofInt n, if_pos hfinite, hinteger⟩

end Wireframe.Decimal
