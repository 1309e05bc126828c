import Wireframe.Proofs.Decimal.Magnitude

/-!
# `Wireframe.Proofs.Decimal.Value` — the numbers that doubles are

A finite double is a rational number: its mantissa times a power of two. The numbers that doubles are have
at most 53 binary digits, of which none counts less than `2^(-1074)`; and of those that have so few digits,
all below `2^1024` are doubles. So a result in parts that is rounded to so few digits is a double unless it
is too large, and then it becomes an infinity.

## Contents
- `value`, `number`: the number that a double is, in parts and as a whole.
- `Short`: numbers with few enough digits.
- `Canonical`: parts with the mantissa as long as it can be; `Canonical.short`, `Canonical.lt_iff`.
- `Representable`, `representable_unpack`, `number_short`, `abs_number_le`: finite doubles.
- `unpack_normal`, `unpack_subnormal`, `unpack_pack`, `pack_overflow`: from parts to doubles and back.
-/

namespace Wireframe.Decimal

open Float.Model Float.Model.UnpackedFloat

/-! ## Numbers -/

/-- The number that a double in parts is; what is no number, or none that is finite, counts as zero. -/
def value : UnpackedFloat → ℚ
  | .finite sign m e _ => (sign.apply (m : ℤ) : ℤ) * (2 : ℚ) ^ e
  | .zero _ | .infinity _ | .notANumber => 0

/-- The number that a double is. -/
def number (x : Float) : ℚ := value x.toModel.unpack

/-- A number of at most 53 binary digits, none of which counts less than `2^(-1074)`. -/
def Short (w : ℚ) : Prop := ∃ n f : ℤ, |n| < 2 ^ 53 ∧ -1074 ≤ f ∧ w = n * (2 : ℚ) ^ f

/-- Half of what the last digit of the greatest doubles counts. The power is never to be written out. -/
@[irreducible]
def grain : ℚ := 2 ^ (970 : ℤ)

theorem two_zpow_grain : (2 : ℚ) ^ (970 : ℤ) = grain := by rw [grain]

theorem grain_pos : 0 < grain := two_zpow_grain ▸ zpow_pos (by norm_num) _

theorem two_zpow_pos (e : ℤ) : (0 : ℚ) < 2 ^ e := zpow_pos (by norm_num) e

theorem two_zpow_add (e f : ℤ) : (2 : ℚ) ^ (e + f) = 2 ^ e * 2 ^ f := zpow_add₀ (by norm_num) e f

theorem two_zpow_le {e f : ℤ} (h : e ≤ f) : (2 : ℚ) ^ e ≤ 2 ^ f := zpow_le_zpow_right₀ (by norm_num) h

/-- What the last digit of the greatest doubles counts. -/
theorem two_zpow_last : (2 : ℚ) ^ (971 : ℤ) = 2 * grain := by
  rw [show (971 : ℤ) = 1 + 970 by norm_num, two_zpow_add, zpow_one, two_zpow_grain]

theorem two_zpow_beyond : (2 : ℚ) ^ (972 : ℤ) = 4 * grain := by
  rw [show (972 : ℤ) = 2 + 970 by norm_num, two_zpow_add, two_zpow_grain]
  norm_num

/-- Multiples of a power of two are multiples of smaller ones. -/
theorem finer (n : ℤ) {f g : ℤ} (h : g ≤ f) :
    (n : ℚ) * 2 ^ f = ((n * 2 ^ (f - g).toNat : ℤ) : ℚ) * 2 ^ g := by
  have hsplit : f = ((f - g).toNat : ℤ) + g := by omega
  conv_lhs => rw [hsplit, two_zpow_add, zpow_natCast]
  push_cast
  ring

theorem short_zero : Short 0 := ⟨0, 0, by norm_num, by norm_num, by norm_num⟩

theorem Short.neg {w : ℚ} (h : Short w) : Short (-w) := by
  obtain ⟨n, f, hn, hf, rfl⟩ := h
  exact ⟨-n, f, by rwa [abs_neg], hf, by push_cast; ring⟩

theorem abs_apply (sign : Sign) (m : ℕ) : |((sign.apply (m : ℤ) : ℤ) : ℚ)| = m := by
  rw [← Int.cast_abs, Int.abs_eq_natAbs, Sign.natAbs_apply, Int.cast_natCast]

theorem abs_value_finite (sign : Sign) (m : ℕ) (e : ℤ) (hm : 0 < m) :
    |value (.finite sign m e hm)| = m * (2 : ℚ) ^ e := by
  rw [value, abs_mul, abs_apply, abs_of_pos (two_zpow_pos e)]

/-! ## Mantissas that are as long as they can be -/

/-- Zero, or a mantissa of 53 binary digits; it has less only where the exponent is the least one. -/
inductive Canonical : UnpackedFloat → Prop
  | zero (sign : Sign) : Canonical (.zero sign)
  | finite {sign : Sign} {m : ℕ} {e : ℤ} (hm : 0 < m) (hlong : m < 2 ^ 53) (hfine : -1074 ≤ e)
      (hfull : 2 ^ 52 ≤ m ∨ e = -1074) : Canonical (.finite sign m e hm)

namespace Canonical

variable {u : UnpackedFloat} {sign : Sign} {m : ℕ} {e : ℤ} {hm : 0 < m}

theorem short (h : Canonical u) : Short (value u) := by
  cases h with
  | zero sign => exact short_zero
  | @finite sign m e hm hlong hfine hfull =>
    refine ⟨sign.apply m, e, ?_, hfine, rfl⟩
    rw [Int.abs_eq_natAbs, Sign.natAbs_apply]
    exact_mod_cast hlong

/-- Numbers below `2^1024` are those whose exponent is at most 971. -/
theorem lt_iff (h : Canonical (.finite sign m e hm)) :
    |value (.finite sign m e hm)| < 2 ^ 54 * grain ↔ e ≤ 971 := by
  cases h with
  | finite _ hlong hfine hfull =>
    rw [abs_value_finite]
    constructor
    · intro hlt
      by_contra hlarge
      have hgrain := grain_pos
      have hpow : 4 * grain ≤ (2 : ℚ) ^ e := two_zpow_beyond ▸ two_zpow_le (by omega)
      have hmantissa : (2 : ℚ) ^ 52 ≤ m := by
        have hfull' : 2 ^ 52 ≤ m := by omega
        exact_mod_cast hfull'
      have hle : (2 : ℚ) ^ 52 * (4 * grain) ≤ m * 2 ^ e :=
        mul_le_mul hmantissa hpow (mul_nonneg (by norm_num) grain_pos.le) m.cast_nonneg
      linarith
    · intro hsmall
      have hpow : (2 : ℚ) ^ e ≤ 2 * grain := two_zpow_last ▸ two_zpow_le hsmall
      have hmantissa : (m : ℚ) < 2 ^ 53 := by exact_mod_cast hlong
      calc (m : ℚ) * 2 ^ e < 2 ^ 53 * 2 ^ e := mul_lt_mul_of_pos_right hmantissa (two_zpow_pos e)
        _ ≤ 2 ^ 53 * (2 * grain) := mul_le_mul_of_nonneg_left hpow (by norm_num)
        _ = 2 ^ 54 * grain := by ring

end Canonical

/-- Parts of a finite double. -/
structure Representable (u : UnpackedFloat) : Prop where
  canonical : Canonical u
  lt : |value u| < 2 ^ 54 * grain

theorem representable_zero (sign : Sign) : Representable (.zero sign) :=
  ⟨.zero sign, by rw [value, abs_zero]; exact mul_pos (by norm_num) grain_pos⟩

/-- The greatest finite double is one step below `2^1024`. -/
theorem Representable.le {u : UnpackedFloat} (h : Representable u) : |value u| ≤ (2 ^ 54 - 2) * grain := by
  cases h.canonical with
  | zero sign =>
    rw [value, abs_zero]
    exact mul_nonneg (by norm_num) grain_pos.le
  | @finite sign m e hm hlong hfine hfull =>
    have he := h.canonical.lt_iff.mp h.lt
    have hmantissa : (m : ℚ) ≤ 2 ^ 53 - 1 := by
      have hle : m ≤ 2 ^ 53 - 1 := by omega
      calc (m : ℚ) ≤ ((2 ^ 53 - 1 : ℕ) : ℚ) := by exact_mod_cast hle
        _ = 2 ^ 53 - 1 := by norm_num
    have hpow : (2 : ℚ) ^ e ≤ 2 * grain := two_zpow_last ▸ two_zpow_le he
    rw [abs_value_finite]
    calc (m : ℚ) * 2 ^ e ≤ (2 ^ 53 - 1) * (2 * grain) :=
          mul_le_mul hmantissa hpow (two_zpow_pos e).le (by norm_num)
      _ = (2 ^ 54 - 2) * grain := by ring

/-! ## Finite doubles -/

theorem implicit_toNat (m : BitVec 52) : (1#1 ++ m).toNat = 2 ^ 52 + m.toNat := by
  rw [BitVec.toNat_append, ← Nat.shiftLeft_add_eq_or_of_lt m.isLt]
  rfl

theorem isFinite_unpack (x : Float) : x.toModel.unpack.isFinite = x.isFinite := rfl

/-- Finite doubles have mantissas that are as long as they can be. -/
theorem representable_unpack {x : Float} (h : x.isFinite = true) : Representable x.toModel.unpack := by
  have hbias : Format.binary64.exponentBias = 1023 := by decide
  have hfield := isFinite_iff.mp h
  rw [← isFinite_unpack] at h
  cases hu : x.toModel.unpack with
  | infinity sign =>
    rw [hu] at h
    cases h
  | notANumber =>
    rw [hu] at h
    cases h
  | zero sign => exact representable_zero sign
  | finite sign m e hm =>
    have he := exponent_of_unpack hu
    have hlast : exponentField x < 2 ^ 11 := BitVec.isLt _
    have hcanonical : Canonical (.finite sign m e hm) := by
      simp only [Float.Model.unpack, UnpackedFloat.unpack, hbias] at hu
      split at hu
      · split at hu <;> cases hu
      · split at hu
        · split at hu
          · cases hu
          · next hzero _ =>
            cases hu
            refine .finite _ (Nat.lt_trans (BitVec.isLt _) (by decide)) ?_ (.inr ?_)
            · rw [hzero]
              decide
            · rw [hzero]
              rfl
        · cases hu
          refine .finite _ (BitVec.isLt _) (by omega) (.inl ?_)
          rw [implicit_toNat]
          exact Nat.le_add_right _ _
    exact ⟨hcanonical, hcanonical.lt_iff.mpr (by omega)⟩

theorem number_short {x : Float} (h : x.isFinite = true) : Short (number x) :=
  (representable_unpack h).canonical.short

theorem abs_number_le {x : Float} (h : x.isFinite = true) : |number x| ≤ (2 ^ 54 - 2) * grain :=
  (representable_unpack h).le

/-! ## From parts to doubles -/

theorem unpackSign_packComponents {spec : Format} (sign : Sign) (e : BitVec spec.exponentBits)
    (m : BitVec spec.mantissaBitsWithoutImplicit) :
    unpackSign (packComponents spec sign e m) = sign.toBitVec := by
  ext i hi
  obtain rfl : i = 0 := by omega
  simp [unpackSign, packComponents, BitVec.getLsbD_append, BitVec.getElem_append]

theorem ofBitVec_toBitVec (sign : Sign) : Sign.ofBitVec sign.toBitVec = sign := by
  cases sign <;> rfl

/-- A double with an implicit first digit. -/
theorem unpack_normal (sign : Sign) {k m : ℕ} (hm : 0 < m) (hk : 0 < k) (hk' : k < 2047) (hfull : 2 ^ 52 ≤ m)
    (hlong : m < 2 ^ 53) :
    UnpackedFloat.unpack .binary64 (packComponents .binary64 sign (BitVec.ofNat 11 k) (BitVec.ofNat 52 m)) =
      .finite sign m (k - 1075) hm := by
  have hbias : Format.binary64.exponentBias = 1023 := by decide
  have hfield : (BitVec.ofNat 11 k).toNat = k := by rw [BitVec.toNat_ofNat, Nat.mod_eq_of_lt (by omega)]
  have hfinite : BitVec.ofNat 11 k ≠ -1#11 := by
    intro heq
    have hlast : (BitVec.ofNat 11 k).toNat = 2047 := by
      rw [heq]
      decide
    omega
  have hpositive : BitVec.ofNat 11 k ≠ 0#11 := by
    intro heq
    have hfirst : (BitVec.ofNat 11 k).toNat = 0 := by
      rw [heq]
      decide
    omega
  have hmantissa : (1#1 ++ BitVec.ofNat 52 m).toNat = m := by
    rw [implicit_toNat, BitVec.toNat_ofNat]
    omega
  simp only [UnpackedFloat.unpack, unpackMantissa_packComponents, unpackExponent_packComponents,
    unpackSign_packComponents, ofBitVec_toBitVec, if_neg hfinite, if_neg hpositive, hmantissa, hfield, hbias]
  rfl

/-- A double without one. -/
theorem unpack_subnormal (sign : Sign) {m : ℕ} (hm : 0 < m) (hshort : m < 2 ^ 52) :
    UnpackedFloat.unpack .binary64 (packComponents .binary64 sign 0#11 (BitVec.ofNat 52 m)) =
      .finite sign m (-1074) hm := by
  have hbias : Format.binary64.exponentBias = 1023 := by decide
  have hmantissa : (BitVec.ofNat 52 m).toNat = m := by
    rw [BitVec.toNat_ofNat, Nat.mod_eq_of_lt hshort]
  have hne : BitVec.ofNat 52 m ≠ 0#52 := by
    intro heq
    rw [heq] at hmantissa
    exact hm.ne' hmantissa.symm
  have hend : (0#11) ≠ -1#11 := by decide
  simp only [UnpackedFloat.unpack, unpackMantissa_packComponents, unpackExponent_packComponents,
    unpackSign_packComponents, ofBitVec_toBitVec, if_neg hend, dif_neg hne, hmantissa, hbias, if_true]
  rfl

/-- Parts that are not too large are those of the double that they give. -/
theorem unpack_pack {u : UnpackedFloat} (h : Representable u) : (Float.Model.pack u).unpack = u := by
  have hbias : Format.binary64.exponentBias = 1023 := by decide
  show UnpackedFloat.unpack .binary64 (UnpackedFloat.pack .binary64 u) = u
  cases h.canonical with
  | zero sign => cases sign <;> rfl
  | @finite sign m e hm hlong hfine hfull =>
    have he := h.canonical.lt_iff.mp h.lt
    have hsmall : ¬ 2 ^ 11 ≤ (e + (1023 : ℕ) + (52 : ℕ)).toNat + 1 := by omega
    simp only [UnpackedFloat.pack, hbias, if_neg hsmall]
    split
    · next hnormal =>
      have hlog : m.log2 = 52 := by
        have hbits : Format.binary64.mantissaBits = 53 := by decide
        omega
      have hrange := (Nat.log2_eq_iff hm.ne').mp hlog
      refine (unpack_normal sign hm (by omega) (by omega) hrange.1 hrange.2).trans ?_
      congr 1
      omega
    · next hsubnormal =>
      have hshort : m < 2 ^ 52 := by
        by_contra hlarge
        have hlog : m.log2 = 52 := (Nat.log2_eq_iff hm.ne').mpr ⟨by omega, hlong⟩
        exact hsubnormal (by rw [hlog]; decide)
      obtain rfl : e = -1074 := hfull.resolve_left (by omega)
      exact unpack_subnormal sign hm hshort

/-- Parts that are too large give an infinity. -/
theorem pack_overflow {u : UnpackedFloat} (h : Canonical u) (hle : 2 ^ 54 * grain ≤ |value u|) :
    (Float.Model.pack u).unpack.isFinite = false := by
  have hbias : Format.binary64.exponentBias = 1023 := by decide
  show (UnpackedFloat.unpack .binary64 (UnpackedFloat.pack .binary64 u)).isFinite = false
  have hcanonical := h
  cases h with
  | zero sign =>
    rw [value, abs_zero] at hle
    exact absurd hle (not_le.mpr (mul_pos (by norm_num) grain_pos))
  | @finite sign m e hm hlong hfine hfull =>
    have he := mt hcanonical.lt_iff.mpr (not_lt.mpr hle)
    have hlarge : 2 ^ 11 ≤ (e + (1023 : ℕ) + (52 : ℕ)).toNat + 1 := by omega
    simp only [UnpackedFloat.pack, hbias, if_pos hlarge]
    cases sign <;> decide

end Wireframe.Decimal
