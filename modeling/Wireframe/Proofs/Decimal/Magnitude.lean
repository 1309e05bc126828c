import Wireframe.Proofs.Decimal.Order
import Wireframe.Proofs.Decimal.Rounding

/-!
# `Wireframe.Proofs.Decimal.Magnitude` — how large results can be

A double below `2^b` is told from its exponent field. Sums and differences of such doubles lie below the
next powers of two but one: the exact result may gain one binary digit, and so may its rounding. As long
as `b` stays away from the end of the range, no result is infinite.

## Contents
- `exponentField`, `Below`: doubles below a power of two, with `Below.mono`.
- `Bounded`: mantissas with exponents below a power of two; `bounded_unpack`, `below_pack` lead from
  doubles to them and back.
- `bounded_roundWithAccuracy`, `bounded_round`: rounding.
- `Below.add`, `Below.sub`, `Below.mul`: arithmetic.
- `floor_of_isFinite`: finite doubles have an integer part.
- `Below.of_le`: a double between zero and another one.
-/

namespace Wireframe.Decimal

open Float.Model Float.Model.UnpackedFloat

/-! ## Doubles and their parts -/

/-- The exponent field of a double; infinities and what is no number have the greatest one, 2047. -/
def exponentField (x : Float) : Nat := (@unpackExponent .binary64 x.toModel.toBits.toBitVec).toNat

/-- The double is finite and less than `2^b` in absolute value. -/
def Below (b : Nat) (x : Float) : Prop := exponentField x ≤ 1022 + b

theorem Below.mono {b c : Nat} {x : Float} (h : Below b x) (hbc : b ≤ c) : Below c x :=
  Nat.le_trans h (Nat.add_le_add_left hbc 1022)

/-- A finite number whose mantissa and exponent stand for less than `2^b` in absolute value. -/
inductive Bounded (b : Nat) : UnpackedFloat → Prop
  | zero (sign : Sign) : Bounded b (.zero sign)
  | finite {sign : Sign} {m : Nat} {e : Int} (hm : 0 < m) (h : (m.log2 : Int) + 1 + e ≤ b) :
    Bounded b (.finite sign m e hm)

theorem Bounded.mono {b c : Nat} {u : UnpackedFloat} (h : Bounded b u) (hbc : b ≤ c) : Bounded c u := by
  cases h with
  | zero sign => exact .zero sign
  | finite hm h => exact .finite hm (by omega)

theorem log2_lt_of_lt {m k : Nat} (hk : 0 < k) (h : m < 2 ^ k) : m.log2 < k := by
  rcases Nat.eq_zero_or_pos m with rfl | hm
  · exact hk
  · exact (Nat.log2_lt (by omega)).mpr h

/-- A double below `2^b` in parts. -/
theorem bounded_unpack {b : Nat} {x : Float} (h : Below b x) (hb : b ≤ 1024) :
    Bounded b x.toModel.unpack := by
  have hbias : Format.binary64.exponentBias = 1023 := by decide
  unfold Below exponentField at h
  simp only [Float.Model.unpack, UnpackedFloat.unpack]
  split
  · -- infinities and what is no number are not below any power
    next hfield =>
    have hlast : (@unpackExponent .binary64 x.toModel.toBits.toBitVec).toNat = 2047 := by
      rw [hfield]
      decide
    omega
  · split
    · next hfield =>
      split
      · exact .zero _
      · -- below the normal numbers the mantissa is what its field holds
        have hlog : (@unpackMantissa .binary64 x.toModel.toBits.toBitVec).toNat.log2 < 52 :=
          log2_lt_of_lt (by decide) (BitVec.isLt _)
        refine .finite _ ?_
        rw [hfield, hbias]
        simp only [BitVec.toNat_ofNat, Nat.zero_mod]
        omega
    · -- a normal one has a leading digit besides
      have hlog : (1#1 ++ @unpackMantissa .binary64 x.toModel.toBits.toBitVec).toNat.log2 < 53 :=
        log2_lt_of_lt (by decide) (BitVec.isLt _)
      refine .finite _ ?_
      rw [hbias]
      omega

/-- Parts that stand for less than `2^b` give a double below it. -/
theorem below_pack {b : Nat} {u : UnpackedFloat} (h : Bounded b u) (hb : b ≤ 970) :
    Below b (.ofModel (Float.Model.pack u)) := by
  have hbias : Format.binary64.exponentBias = 1023 := by decide
  show (@unpackExponent .binary64 (UnpackedFloat.pack .binary64 u)).toNat ≤ 1022 + b
  cases h with
  | zero sign =>
    rw [show UnpackedFloat.pack .binary64 (.zero sign) = packComponents .binary64 sign 0 0 from rfl,
      unpackExponent_packComponents]
    exact Nat.zero_le _
  | @finite sign m e hm h =>
    simp only [UnpackedFloat.pack, hbias]
    have hsmall : ¬ 2 ^ Format.binary64.exponentBits ≤ (e + (1023 : Nat) + (52 : Nat)).toNat + 1 := by
      have hpow : 2 ^ Format.binary64.exponentBits = 2048 := by decide
      omega
    rw [if_neg hsmall]
    split
    · next hnormal =>
      have hlog : m.log2 + 1 = 53 := hnormal
      rw [unpackExponent_packComponents, BitVec.toNat_ofNat]
      refine Nat.le_trans (Nat.mod_le _ _) ?_
      omega
    · rw [unpackExponent_packComponents]
      exact Nat.zero_le _

/-! ## Rounding -/

/-- A quotient has as many binary digits less as the divisor has zeros. -/
theorem log2_div_add_le {m s : Nat} (h : m / 2 ^ s ≠ 0) : (m / 2 ^ s).log2 + s ≤ m.log2 := by
  have hm : m ≠ 0 := by
    rintro rfl
    exact h (Nat.zero_div _)
  rw [Nat.le_log2 hm, Nat.pow_add]
  calc 2 ^ (m / 2 ^ s).log2 * 2 ^ s ≤ m / 2 ^ s * 2 ^ s := Nat.mul_le_mul_right _ (Nat.log2_self_le h)
    _ ≤ m := Nat.div_mul_le_self m _

/-- A rounded mantissa has at most one binary digit more than what was left of it. -/
theorem log2_rounded_le (m s : Nat) :
    (dropped m s).roundedMantissa.log2 ≤ (m / 2 ^ s).log2 + 1 := by
  have hle : (dropped m s).roundedMantissa ≤ m / 2 ^ s + 1 := by
    refine Nat.le_trans (roundedMantissa_le _) ?_
    rw [dropped_mantissa]
    split <;> omega
  have hlt : m / 2 ^ s < 2 ^ ((m / 2 ^ s).log2 + 1) := Nat.lt_log2_self
  have hpos := Nat.two_pow_pos ((m / 2 ^ s).log2 + 1)
  refine Nat.le_of_lt_succ (log2_lt_of_lt (Nat.succ_pos _) ?_)
  rw [Nat.succ_eq_add_one, Nat.pow_succ]
  omega

/-- Rounding gains at most one binary digit. -/
theorem bounded_roundWithAccuracy {b m : Nat} {e : Int} (h : (m.log2 : Int) + 1 + e ≤ b) (sign : Sign) :
    Bounded (b + 1) (roundWithAccuracy .binary64 sign m e .exact) := by
  generalize hs : (Format.binary64.targetExponent (totalExponent m e) - e).toNat = s
  have hshift := shiftToTargetExponent_eq hs
  have htarget : (s : Int) ≤ 0 ∨ e + s ≤ m.log2 + 1 + e - 53 ∨ e + s ≤ -1074 := by
    rw [targetExponent_eq] at hs
    omega
  have hrounded : ((dropped m s).roundedMantissa.log2 : Int) + 1 + (e + s) ≤ (b + 1 : Nat) := by
    have hlog := log2_rounded_le m s
    by_cases hleft : m / 2 ^ s = 0
    · rw [hleft, show Nat.log2 0 = 0 by decide] at hlog
      omega
    · have hdiv := log2_div_add_le hleft
      omega
  -- the rounded mantissa may be too long by one, so bits are dropped once more
  generalize hr : (dropped m s).roundedMantissa = r at hrounded
  generalize hs' : (Format.binary64.targetExponent (totalExponent r (e + s)) - (e + s)).toNat = s'
  have hshift' := shiftToTargetExponent_eq hs'
  simp only [roundWithAccuracy, hshift, hr, hshift', dropped_mantissa]
  -- the bits that are dropped in the second place are made up for by the exponent
  split
  · exact .zero sign
  · next hleft =>
    have hdiv := log2_div_add_le hleft
    exact .finite _ (by omega)

theorem log2_shiftLeft {m : Nat} (hm : m ≠ 0) (k : Nat) : (m <<< k).log2 = m.log2 + k := by
  have hpos := Nat.two_pow_pos k
  rw [Nat.shiftLeft_eq, Nat.log2_eq_iff (Nat.mul_ne_zero hm hpos.ne'), Nat.add_right_comm, Nat.pow_add,
    Nat.pow_add]
  exact ⟨Nat.mul_le_mul_right _ (Nat.log2_self_le hm), Nat.mul_lt_mul_of_pos_right Nat.lt_log2_self hpos⟩

theorem log2_shiftLeft_le (m k : Nat) : (m <<< k).log2 ≤ m.log2 + k := by
  by_cases hm : m = 0
  · rw [hm, Nat.zero_shiftLeft]
    exact Nat.le_add_right _ _
  · exact (log2_shiftLeft hm k).le

/-- A mantissa is lengthened before it is rounded, which does not change what it stands for. -/
theorem bounded_round {b m : Nat} {e : Int} (h : (m.log2 : Int) + 1 + e ≤ b) (sign : Sign) :
    Bounded (b + 1) (UnpackedFloat.round .binary64 sign m e) := by
  simp only [UnpackedFloat.round, decreaseExponent]
  refine bounded_roundWithAccuracy ?_ sign
  have hlog := log2_shiftLeft_le m (e - Format.binary64.targetExponent (totalExponent m e)).toNat
  omega

theorem bounded_normalize {b : Nat} {n e : Int} (h : (n.natAbs.log2 : Int) + 1 + e ≤ b) (sign : Sign) :
    Bounded (b + 1) (UnpackedFloat.normalize .binary64 n e sign) := by
  unfold UnpackedFloat.normalize
  split
  · next hneg =>
    have hlt : n < 0 := Int.compare_eq_lt.mp hneg
    exact bounded_round (by rwa [show (-n).toNat = n.natAbs by omega]) _
  · exact .zero sign
  · next hpos =>
    have hgt : 0 < n := Int.compare_eq_gt.mp hpos
    exact bounded_round (by rwa [show n.toNat = n.natAbs by omega]) _

/-! ## Arithmetic -/

theorem Sign.natAbs_apply (sign : Sign) (m : Nat) : (sign.apply (m : Int)).natAbs = m := by
  cases sign
  · exact Int.natAbs_neg m
  · rfl

/-- A sum gains one binary digit, and another one when it is rounded. -/
theorem bounded_add {b : Nat} {u v : UnpackedFloat} (hu : Bounded b u) (hv : Bounded b v) :
    Bounded (b + 2) (UnpackedFloat.add .binary64 u v) := by
  cases hu with
  | zero s =>
    cases hv with
    | zero t =>
      simp only [UnpackedFloat.add]
      split
      · exact .zero s
      · exact .zero _
    | finite hn hv => exact (Bounded.finite hn hv).mono (Nat.le_add_right _ _)
  | @finite s m e hm hu =>
    cases hv with
    | zero t => exact (Bounded.finite hm hu).mono (Nat.le_add_right _ _)
    | @finite t n f hn hv =>
      simp only [UnpackedFloat.add, decreaseExponent]
      refine bounded_normalize (b := b + 1) ?_ _
      -- both mantissas in the smaller exponent
      obtain ⟨k, hk⟩ : ∃ k : Nat, (b : Int) - min e f = k := ⟨((b : Int) - min e f).toNat, by omega⟩
      have hleft : m <<< (e - min e f).toNat < 2 ^ k := by
        have hlog := log2_shiftLeft_le m (e - min e f).toNat
        exact Nat.lt_of_lt_of_le Nat.lt_log2_self (Nat.pow_le_pow_right (by decide) (by omega))
      have hright : n <<< (f - min e f).toNat < 2 ^ k := by
        have hlog := log2_shiftLeft_le n (f - min e f).toNat
        exact Nat.lt_of_lt_of_le Nat.lt_log2_self (Nat.pow_le_pow_right (by decide) (by omega))
      generalize m <<< (e - min e f).toNat = m' at hleft ⊢
      generalize n <<< (f - min e f).toNat = n' at hright ⊢
      have habs : (s.apply (m' : Int) + t.apply (n' : Int)).natAbs < 2 ^ (k + 1) := by
        have hle := Int.natAbs_add_le (s.apply (m' : Int)) (t.apply (n' : Int))
        rw [Sign.natAbs_apply, Sign.natAbs_apply] at hle
        rw [Nat.pow_succ]
        omega
      have hlog := log2_lt_of_lt (Nat.succ_pos k) habs
      omega

theorem Bounded.neg {b : Nat} {u : UnpackedFloat} (h : Bounded b u) : Bounded b u.neg := by
  cases h with
  | zero sign => exact .zero _
  | finite hm h => exact .finite hm h

/-- A difference is the sum with the opposite number. -/
theorem sub_eq_add_neg (u v : UnpackedFloat) :
    UnpackedFloat.sub .binary64 u v = UnpackedFloat.add .binary64 u v.neg := by
  have happly : ∀ (t : Sign) (n : Int), (-t).apply n = -(t.apply n) := by
    intro t n
    cases t
    · exact (Int.neg_neg n).symm
    · rfl
  cases u <;> cases v <;>
    simp only [UnpackedFloat.sub, UnpackedFloat.add, UnpackedFloat.neg, happly, Int.sub_eq_add_neg]

/-- A product has the binary digits of both factors, and one more when it is rounded. -/
theorem bounded_mul {b c : Nat} {u v : UnpackedFloat} (hu : Bounded b u) (hv : Bounded c v) :
    Bounded (b + c + 1) (UnpackedFloat.mul .binary64 u v) := by
  cases hu with
  | zero s =>
    cases hv with
    | zero t => exact .zero _
    | finite hn hv => exact .zero _
  | @finite s m e hm hu =>
    cases hv with
    | zero t => exact .zero _
    | @finite t n f hn hv =>
      refine bounded_roundWithAccuracy ?_ _
      have hproduct : m * n < 2 ^ (m.log2 + 1 + (n.log2 + 1)) := by
        rw [Nat.pow_add]
        exact Nat.mul_lt_mul'' Nat.lt_log2_self Nat.lt_log2_self
      have hlog := log2_lt_of_lt (by omega) hproduct
      omega

namespace Below

variable {b : Nat} {x y : Float}

theorem add (hx : Below b x) (hy : Below b y) (hb : b ≤ 960) : Below (b + 2) (x + y) :=
  below_pack (bounded_add (bounded_unpack hx (by omega)) (bounded_unpack hy (by omega))) (by omega)

theorem sub (hx : Below b x) (hy : Below b y) (hb : b ≤ 960) : Below (b + 2) (x - y) := by
  have hsub := bounded_add (bounded_unpack hx (by omega)) (bounded_unpack hy (by omega)).neg
  rw [← sub_eq_add_neg] at hsub
  exact below_pack hsub (by omega)

theorem mul {c : Nat} (hx : Below b x) (hy : Below c y) (hb : b + c ≤ 960) : Below (b + c + 1) (x * y) :=
  below_pack (bounded_mul (bounded_unpack hx (by omega)) (bounded_unpack hy (by omega))) (by omega)

end Below

/-! ## Fields and bits -/

theorem exponentField_eq (x : Float) : exponentField x = x.toBits.toNat / 2 ^ 52 % 2 ^ 11 := by
  rw [exponentField, unpackExponent_def, BitVec.extractLsb'_toNat, Nat.shiftRight_eq_div_pow]
  rfl

/-- The parts of a double that is finite. -/
theorem parts_of_field {x : Float} (h : exponentField x ≠ 2047) :
    ∃ negative m q, parts x = .finite negative m q := by
  have hfield : (x.toBits.toNat / 2 ^ 52 % 2 ^ 11 == 2047) = false := by
    rw [← exponentField_eq, beq_eq_false_iff_ne]
    exact h
  simp only [parts, hfield, Bool.false_eq_true, if_false]
  split
  · exact ⟨_, _, _, rfl⟩
  · exact ⟨_, _, _, rfl⟩

theorem isFinite_iff {x : Float} : x.isFinite = true ↔ exponentField x ≠ 2047 := by
  have hlast : (-1#(Format.binary64.exponentBits)).toNat = 2047 := by decide
  have hfield : exponentField x = 2047 ↔
      @unpackExponent .binary64 x.toModel.toBits.toBitVec = -1#(Format.binary64.exponentBits) := by
    rw [exponentField, ← hlast, BitVec.toNat_inj]
  show (UnpackedFloat.unpack .binary64 x.toModel.toBits.toBitVec).isFinite = true ↔ _
  rw [Ne, hfield, UnpackedFloat.unpack]
  split
  · next hend =>
    refine iff_of_false ?_ (fun h => h hend)
    split <;> exact Bool.false_ne_true
  · next hend =>
    refine iff_of_true ?_ hend
    split
    · split <;> rfl
    · rfl

theorem Below.isFinite {b : Nat} {x : Float} (h : Below b x) (hb : b ≤ 1024) : x.isFinite = true := by
  rw [isFinite_iff]
  unfold Below at h
  omega

/-- Finite doubles have an integer part. -/
theorem floor_of_isFinite {x : Float} (h : x.isFinite = true) : ∃ n, floor? x = some n := by
  obtain ⟨negative, m, q, hparts⟩ := parts_of_field (isFinite_iff.mp h)
  rw [floor?, hparts]
  exact ⟨_, rfl⟩

/-! ## Magnitudes and the order -/

theorem field_of_zero {x : Float} {sign : Sign} (h : x.toModel.unpack = .zero sign) :
    exponentField x = 0 := by
  simp only [Float.Model.unpack, UnpackedFloat.unpack] at h
  split at h
  · split at h <;> cases h
  · split at h
    · next hfield => rw [exponentField, hfield, BitVec.toNat_ofNat, Nat.zero_mod]
    · cases h

/-- The exponent of the mantissa; numbers below the normal ones have the least exponent, too. -/
theorem exponent_of_unpack {x : Float} {sign : Sign} {m : Nat} {e : Int} {hm : 0 < m}
    (h : x.toModel.unpack = .finite sign m e hm) : e = (max (exponentField x) 1 : Nat) - 1075 := by
  have hbias : Format.binary64.exponentBias = 1023 := by decide
  simp only [Float.Model.unpack, UnpackedFloat.unpack, hbias] at h
  split at h
  · split at h <;> cases h
  · split at h
    · next hfield =>
      split at h
      · cases h
      · cases h
        rw [exponentField, hfield, BitVec.toNat_ofNat, Nat.zero_mod]
        rfl
    · next hfield =>
      cases h
      have hpos : exponentField x ≠ 0 := fun hzero => hfield (BitVec.eq_of_toNat_eq hzero)
      rw [exponentField] at hpos ⊢
      omega

/-- A double between zero and another one lies below the same powers of two. -/
theorem Below.of_le {b : Nat} {x y : Float} (hx : 0.0 ≤ x) (hxy : x ≤ y) (hy : Below b y)
    (hb : b ≤ 1024) : Below b x := by
  have hzero : (0.0 : Float).toModel.unpack = .zero .positive := rfl
  have hbounded := bounded_unpack hy hb
  rw [double_le_iff] at hx hxy
  rw [hzero] at hx
  unfold Below at hy ⊢
  cases hu : x.toModel.unpack with
  | notANumber => exact absurd hu (not_nan_of_le hxy).1
  | zero sign =>
    rw [field_of_zero hu]
    exact Nat.zero_le _
  | infinity sign =>
    rw [hu] at hx hxy
    cases sign with
    | negative => cases hx
    | positive =>
      cases hv : y.toModel.unpack with
      | notANumber => exact absurd hv (not_nan_of_le hxy).2
      | infinity t =>
        rw [hv] at hbounded
        cases hbounded
      | _ =>
        rw [hv] at hxy
        cases hxy
  | finite sign m e hm =>
    have he := exponent_of_unpack hu
    rw [hu] at hx hxy
    cases sign with
    | negative => cases hx
    | positive =>
      cases hv : y.toModel.unpack with
      | notANumber => exact absurd hv (not_nan_of_le hxy).2
      | infinity t =>
        rw [hv] at hbounded
        cases hbounded
      | zero t =>
        rw [hv] at hxy
        cases hxy
      | finite t n f hn =>
        have hf := exponent_of_unpack hv
        rw [hv] at hxy
        cases t with
        | negative => cases hxy
        | positive =>
          -- exponents are compared first
          have hcompare : ((compare e f).then (compare m n)).isLE = true := hxy
          rw [isLE_compare_pair] at hcompare
          omega

end Wireframe.Decimal
