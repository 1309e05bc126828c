import Wireframe.Proofs.Decimal.Value

/-!
# `Wireframe.Proofs.Decimal.Nearest` — results of arithmetic are nearest to the exact ones

A sum, a difference or a product of finite doubles is the double nearest to the exact result: no number of
as few digits is nearer (`Nearest`). The end of the range is the only exception. A result is an infinity just
in case the exact one reaches the middle between the greatest finite double and `2^1024`, which is the number
that would come next; in the middle itself the even mantissa is that of `2^1024` (`RoundsTo`).

The mantissa is rounded by dropping bits. `Grid` says how many: at most 53 of them are left, and just 53
unless the last one counts as little as it can. Everything about a rounding is derived from this.

## Contents
- `Nearest`, `Nearest.le`, `Nearest.error`: numbers as near as can be, and how near that is.
- `dropped_bits`, `rounded_eq`: the bits that are dropped, and the quotient that is left.
- `roundDiv_nearest`, `roundDiv_lt_iff`: the whole number nearest to a quotient.
- `Grid`, `Grid.nearest`, `Grid.lt_iff`: a mantissa on its grid.
- `Rounds`, `rounds_roundWithAccuracy`, `rounds_add`, `rounds_mul`: rounding in parts.
- `RoundsTo`, `add_roundsTo`, `sub_roundsTo`, `mul_roundsTo`: arithmetic of doubles.
- `isFinite_of_add`, `isFinite_of_mul`: infinities stay.
-/

namespace Wireframe.Decimal

open Float.Model Float.Model.UnpackedFloat

/-! ## Nearest numbers -/

/-- No number of as few digits as doubles have is nearer to the first number than the second one. -/
def Nearest (v z : ℚ) : Prop := ∀ w, Short w → |z - v| ≤ |w - v|

namespace Nearest

variable {v w z : ℚ}

theorem refl (v : ℚ) : Nearest v v := by
  intro w _
  rw [sub_self, abs_zero]
  exact abs_nonneg _

theorem neg (h : Nearest v z) : Nearest (-v) (-z) := by
  intro w hw
  have hopposite : ∀ a b : ℚ, |-a - -b| = |a - b| := fun a b => by rw [neg_sub_neg, abs_sub_comm]
  have hnear := h (-w) hw.neg
  rwa [← hopposite z, ← hopposite (-w), neg_neg] at hnear

/-- Rounding does not lead below a number of few digits. -/
theorem ge (h : Nearest v z) (hw : Short w) (hwv : w ≤ v) : w ≤ z := by
  by_contra hlt
  have hnear := h w hw
  rw [abs_sub_comm z, abs_sub_comm w, abs_of_nonneg (by linarith), abs_of_nonneg (by linarith)] at hnear
  linarith

/-- Rounding does not lead beyond a number of few digits. -/
theorem le (h : Nearest v z) (hw : Short w) (hvw : v ≤ w) : z ≤ w :=
  neg_le_neg_iff.mp (h.neg.ge hw.neg (neg_le_neg hvw))

theorem eq_of_short (h : Nearest v z) (hv : Short v) : z = v :=
  le_antisymm (h.le hv le_rfl) (h.ge hv le_rfl)

/-- **The error of a rounding** is half of what the last digit counts. -/
theorem error {k : ℤ} (hk : -1074 ≤ k) (h : Nearest v z) (hv : |v| < (2 ^ 53 - 1 / 2) * 2 ^ k) :
    |z - v| ≤ 2 ^ k / 2 := by
  have hunit := two_zpow_pos k
  have hquotient : |v / 2 ^ k| < 2 ^ 53 - 1 / 2 := by
    rwa [abs_div, abs_of_pos hunit, div_lt_iff₀ hunit]
  obtain ⟨n, hround⟩ : ∃ n : ℤ, |v / 2 ^ k - n| ≤ 1 / 2 := ⟨_, abs_sub_round (v / 2 ^ k)⟩
  have hshort : Short (n * 2 ^ k) := by
    refine ⟨n, k, ?_, hk, rfl⟩
    have hlt : |(n : ℚ)| < 2 ^ 53 := by
      rw [abs_lt] at hquotient ⊢
      rw [abs_le] at hround
      constructor <;> linarith
    exact_mod_cast hlt
  calc |z - v| ≤ |n * 2 ^ k - v| := h _ hshort
    _ = |v / 2 ^ k - n| * 2 ^ k := by
      rw [← abs_of_pos hunit, ← abs_mul, abs_of_pos hunit, sub_mul, div_mul_cancel₀ _ hunit.ne', abs_sub_comm]
    _ ≤ 1 / 2 * 2 ^ k := mul_le_mul_of_nonneg_right hround hunit.le
    _ = 2 ^ k / 2 := by ring

end Nearest

/-! ## Bits that are dropped -/

/-- The bit dropped last says whether the rest is at least a half, and the other one whether it is neither
nothing nor a half. -/
theorem dropped_bits (m s : ℕ) :
    (dropped m s).roundBit = decide (2 ^ s ≤ 2 * (m % 2 ^ s)) ∧
      (dropped m s).stickyBit = decide (2 * (m % 2 ^ s) ≠ 0 ∧ 2 * (m % 2 ^ s) ≠ 2 ^ s) := by
  induction s with
  | zero => simp [dropped_zero, Nat.mod_one]
  | succ s ih =>
    obtain ⟨hround, hsticky⟩ := ih
    have hrest : m % 2 ^ (s + 1) = m % 2 ^ s + 2 ^ s * (m / 2 ^ s % 2) := Nat.mod_pow_succ
    have hlt : m % 2 ^ s < 2 ^ s := Nat.mod_lt _ (Nat.two_pow_pos s)
    rw [dropped_succ]
    show ((dropped m s).mantissa % 2 != 0) = _ ∧ ((dropped m s).roundBit || (dropped m s).stickyBit) = _
    rw [dropped_mantissa, hround, hsticky, hrest, Nat.pow_succ]
    have hbit := Nat.mod_two_eq_zero_or_one (m / 2 ^ s)
    generalize m / 2 ^ s % 2 = b at hbit ⊢
    generalize m % 2 ^ s = r at hlt ⊢
    generalize 2 ^ s = d at hlt ⊢
    rcases hbit with rfl | rfl <;> refine ⟨?_, ?_⟩ <;> rw [Bool.eq_iff_iff] <;> simp <;> omega

/-- Dropping bits and rounding is rounding the quotient. -/
theorem rounded_eq (m s : ℕ) : (dropped m s).roundedMantissa = roundDiv m (2 ^ s) := by
  obtain ⟨hround, hsticky⟩ := dropped_bits m s
  have hmantissa := dropped_mantissa m s
  have hpos := Nat.two_pow_pos s
  unfold roundDiv ExtendedMantissa.roundedMantissa ExtendedMantissa.accuracy
  generalize dropped m s = em at hround hsticky hmantissa ⊢
  obtain ⟨mantissa, roundBit, stickyBit⟩ := em
  simp only at hround hsticky hmantissa
  subst hround hsticky hmantissa
  generalize m % 2 ^ s = r
  generalize 2 ^ s = d at hpos ⊢
  by_cases hhalf : d ≤ 2 * r <;> by_cases hrest : 2 * r ≠ 0 ∧ 2 * r ≠ d <;>
    simp only [hhalf, hrest, decide_true, decide_false, Accuracy.roundToNearestEven] <;>
    split <;> simp_all <;> omega

/-! ## Quotients to the nearest whole number -/

/-- A quotient by its whole part and what is beyond it; the nearest whole number is one of the two around
it. -/
theorem roundDiv_cases (num : ℕ) {den : ℕ} (hden : 0 < den) :
    ∃ (q : ℕ) (t : ℚ), (num : ℚ) / den = q + t ∧ 0 ≤ t ∧ t < 1 ∧
      (roundDiv num den = q ∧ t ≤ 1 / 2 ∨ roundDiv num den = q + 1 ∧ 1 / 2 ≤ t) := by
  have hpos : (0 : ℚ) < den := by exact_mod_cast hden
  have hlt : ((num % den : ℕ) : ℚ) < den := by exact_mod_cast Nat.mod_lt num hden
  refine ⟨num / den, (num % den : ℕ) / den, ?_, by positivity, (div_lt_one hpos).mpr hlt, ?_⟩
  · rw [div_eq_iff hpos.ne', add_mul, div_mul_cancel₀ _ hpos.ne', mul_comm ((num / den : ℕ) : ℚ)]
    exact_mod_cast (Nat.div_add_mod num den).symm
  · unfold roundDiv
    generalize num % den = r
    rw [div_le_div_iff₀ hpos (by norm_num), div_le_div_iff₀ (by norm_num) hpos]
    by_cases hlower : 2 * r < den ∨ 2 * r = den ∧ num / den % 2 = 0
    · left
      have hle : r * 2 ≤ 1 * den := by omega
      exact ⟨by simp [hlower], by exact_mod_cast hle⟩
    · right
      have hle : 1 * den ≤ r * 2 := by omega
      exact ⟨by simp [hlower], by exact_mod_cast hle⟩

/-- **No whole number is nearer to a quotient.** -/
theorem roundDiv_nearest (num : ℕ) {den : ℕ} (hden : 0 < den) (k : ℤ) :
    |(roundDiv num den : ℚ) - num / den| ≤ |(k : ℚ) - num / den| := by
  obtain ⟨q, t, hquotient, ht0, ht1, hrounded⟩ := roundDiv_cases num hden
  rw [hquotient]
  -- another whole number is on one side of the quotient, and beyond one of its neighbours
  have hside : (k : ℚ) ≤ q ∨ (q : ℚ) + 1 ≤ k := by
    rcases le_or_gt k q with hle | hgt
    · exact .inl (by exact_mod_cast hle)
    · exact .inr (by exact_mod_cast hgt)
  have hfar : t ≤ |(k : ℚ) - (q + t)| ∨ 1 - t ≤ |(k : ℚ) - (q + t)| := by
    rcases hside with hle | hge
    · exact .inl (le_trans (by linarith) (neg_le_abs _))
    · exact .inr (le_trans (by linarith) (le_abs_self _))
  rcases hrounded with ⟨heq, hhalf⟩ | ⟨heq, hhalf⟩
  · have hnear : |(q : ℚ) - (q + t)| = t := by rw [sub_add_cancel_left, abs_neg, abs_of_nonneg ht0]
    rw [heq, hnear]
    rcases hfar with h | h <;> linarith
  · have hnear : |((q + 1 : ℕ) : ℚ) - (q + t)| = 1 - t := by
      rw [Nat.cast_add_one, add_sub_add_left_eq_sub, abs_of_pos (by linarith)]
    rw [heq, hnear]
    rcases hfar with h | h <;> linarith

theorem le_roundDiv {num den n : ℕ} (hden : 0 < den) (h : n * den ≤ num) : n ≤ roundDiv num den := by
  have hquotient : n ≤ num / den := (Nat.le_div_iff_mul_le hden).mpr h
  unfold roundDiv
  dsimp only
  split <;> omega

/-- The quotient is rounded below an even number just in case it is more than a half below it. -/
theorem roundDiv_lt_iff (num : ℕ) {den n : ℕ} (hden : 0 < den) (hn : n % 2 = 0) :
    roundDiv num den < n ↔ 2 * num + den < 2 * n * den := by
  have hdivision := Nat.div_add_mod num den
  have hlt := Nat.mod_lt num hden
  unfold roundDiv
  dsimp only
  generalize num / den = q at hdivision ⊢
  generalize num % den = r at hdivision hlt ⊢
  rcases Nat.lt_trichotomy (q + 1) n with hbelow | rfl | habove
  · have hprod : den * (q + 1) < den * n := Nat.mul_lt_mul_of_pos_left hbelow hden
    have hprod' : den * (q + 2) ≤ den * n := Nat.mul_le_mul_left den hbelow
    have hresult : (if (decide (2 * r < den) || 2 * r == den && q % 2 == 0) = true then q
        else q + 1) < n := by
      split <;> omega
    refine iff_of_true hresult ?_
    rw [Nat.mul_assoc, Nat.mul_comm n den]
    rw [Nat.mul_add] at hprod'
    omega
  · -- an even number is preceded by an odd one, so that a half goes up to it
    have hodd : (q % 2 == 0) = false := by
      rw [beq_eq_false_iff_ne]
      omega
    rw [hodd, Bool.and_false, Bool.or_false, Nat.mul_assoc, Nat.mul_comm (q + 1) den, Nat.mul_add]
    by_cases hhalf : 2 * r < den
    · rw [if_pos (decide_eq_true hhalf)]
      omega
    · rw [if_neg (by simpa using hhalf)]
      omega
  · have hprod : den * n ≤ den * q := Nat.mul_le_mul_left den (by omega)
    have hresult : ¬ (if (decide (2 * r < den) || 2 * r == den && q % 2 == 0) = true then q
        else q + 1) < n := by
      split <;> omega
    refine iff_of_false hresult ?_
    rw [Nat.mul_assoc, Nat.mul_comm n den]
    omega

/-! ## The grid of a mantissa -/

/-- After `s` bits are dropped, a mantissa has at most 53 left, and none of them counts less than
`2^(-1074)`; it has 53 unless the last of them counts just that. -/
structure Grid (m : ℕ) (e : ℤ) (s : ℕ) : Prop where
  fine : -1074 ≤ e + s
  long : m < 2 ^ 53 * 2 ^ s
  full : 2 ^ 52 * 2 ^ s ≤ m ∨ e + s = -1074

/-- The bits that rounding drops first. -/
theorem grid_of_target {m : ℕ} {e : ℤ} (hm : 0 < m)
    (he : e ≤ Format.binary64.targetExponent (totalExponent m e)) :
    Grid m e (Format.binary64.targetExponent (totalExponent m e) - e).toNat := by
  have hlower : 2 ^ m.log2 ≤ m := Nat.log2_self_le hm.ne'
  have hupper : m < 2 ^ (m.log2 + 1) := Nat.lt_log2_self
  rw [targetExponent_eq] at he ⊢
  refine ⟨by omega, ?_, ?_⟩
  · refine Nat.lt_of_lt_of_le hupper ?_
    rw [← Nat.pow_add]
    exact Nat.pow_le_pow_right (by decide) (by omega)
  · by_cases hleast : max ((m.log2 : ℤ) + 1 + e - 53) (-1074) = -1074
    · right
      omega
    · left
      refine Nat.le_trans ?_ hlower
      rw [← Nat.pow_add]
      exact Nat.pow_le_pow_right (by decide) (by omega)

namespace Grid

variable {m s : ℕ} {e : ℤ}

/-- What is left of the mantissa, rounded. -/
theorem rounded_le (h : Grid m e s) : roundDiv m (2 ^ s) ≤ 2 ^ 53 := by
  rw [← rounded_eq]
  exact Decimal.rounded_le h.long.le

/-- The number in units of the grid. -/
theorem scale (m s : ℕ) (e : ℤ) :
    (m : ℚ) * 2 ^ e = (m : ℚ) / (2 ^ s : ℕ) * 2 ^ (e + s) := by
  have hpos : (0 : ℚ) < 2 ^ s := by positivity
  rw [two_zpow_add, zpow_natCast, Nat.cast_pow, Nat.cast_ofNat, mul_comm (2 ^ e), ← mul_assoc,
    div_mul_cancel₀ _ hpos.ne']

/-- The leading digit of a number counts more than a digit behind its grid can. -/
theorem short_lt (h : Grid m e s) {n f : ℤ} (hn : |n| < 2 ^ 53) (hf : -1074 ≤ f) (hbelow : f < e + s) :
    |(n : ℚ) * 2 ^ f| ≤ 2 ^ 52 * 2 ^ (e + s) ∧ (2 : ℚ) ^ 52 * 2 ^ (e + s) ≤ m * 2 ^ e := by
  have hstep : (2 : ℚ) ^ f * 2 ≤ 2 ^ (e + s) := by
    rw [← zpow_add_one₀ (by norm_num)]
    exact two_zpow_le (by omega)
  have habs : |(n : ℚ)| ≤ 2 ^ 53 := by exact_mod_cast hn.le
  refine ⟨?_, ?_⟩
  · rw [abs_mul, abs_of_pos (two_zpow_pos f)]
    calc |(n : ℚ)| * 2 ^ f ≤ 2 ^ 53 * 2 ^ f := mul_le_mul_of_nonneg_right habs (two_zpow_pos f).le
      _ = 2 ^ 52 * (2 ^ f * 2) := by ring
      _ ≤ 2 ^ 52 * 2 ^ (e + s) := mul_le_mul_of_nonneg_left hstep (by norm_num)
  · have hfull : 2 ^ 52 * 2 ^ s ≤ m := h.full.resolve_right (by omega)
    have hcast : (2 : ℚ) ^ 52 * 2 ^ s ≤ m := by exact_mod_cast hfull
    calc (2 : ℚ) ^ 52 * 2 ^ (e + s) = 2 ^ 52 * 2 ^ s * 2 ^ e := by
          rw [two_zpow_add, zpow_natCast]
          ring
      _ ≤ (m : ℚ) * 2 ^ e := mul_le_mul_of_nonneg_right hcast (two_zpow_pos e).le

/-- On the grid itself no number is nearer than the rounded one. -/
theorem nearest_on (m s : ℕ) (e : ℤ) (k : ℤ) :
    |(roundDiv m (2 ^ s) : ℚ) * 2 ^ (e + s) - m * 2 ^ e| ≤ |(k : ℚ) * 2 ^ (e + s) - m * 2 ^ e| := by
  rw [scale m s e, ← sub_mul, ← sub_mul, abs_mul, abs_mul]
  exact mul_le_mul_of_nonneg_right (roundDiv_nearest m (Nat.two_pow_pos s) k) (abs_nonneg _)

/-- **No number of as few digits is nearer than the rounded one.** -/
theorem nearest (h : Grid m e s) : Nearest (m * 2 ^ e) ((roundDiv m (2 ^ s) : ℚ) * 2 ^ (e + s)) := by
  rintro _ ⟨n, f, hn, hf, rfl⟩
  rcases le_or_gt (e + s) f with hcoarse | hbelow
  · -- a coarser number is on the grid
    rw [finer n hcoarse]
    exact nearest_on m s e _
  · -- a finer one is smaller than the leading digit, which is on the grid
    obtain ⟨hsmall, hlarge⟩ := h.short_lt hn hf hbelow
    have hlead := nearest_on m s e (2 ^ 52)
    push_cast at hlead
    have hdistance : |(2 : ℚ) ^ 52 * 2 ^ (e + s) - m * 2 ^ e| ≤ |(n : ℚ) * 2 ^ f - m * 2 ^ e| := by
      rw [abs_sub_comm, abs_of_nonneg (by linarith), abs_sub_comm]
      exact le_trans (by linarith [le_abs_self ((n : ℚ) * 2 ^ f)]) (le_abs_self _)
    exact hlead.trans hdistance

/-- The grid of the greatest finite doubles, where a half goes up to the even mantissa of `2^1024`. -/
theorem lt_iff_on_last (m s : ℕ) :
    (roundDiv m (2 ^ s) : ℚ) * (2 * grain) < 2 ^ 54 * grain ↔
      (m : ℚ) / (2 ^ s : ℕ) * (2 * grain) < (2 ^ 54 - 1) * grain := by
  have hgrain := grain_pos
  have hpow : (0 : ℚ) < (2 ^ s : ℕ) := by positivity
  have hleft : (roundDiv m (2 ^ s) : ℚ) * (2 * grain) < 2 ^ 54 * grain ↔ roundDiv m (2 ^ s) < 2 ^ 53 := by
    rw [← mul_assoc, mul_lt_mul_iff_left₀ hgrain, ← @Nat.cast_lt ℚ]
    push_cast
    constructor <;> intro hlt <;> linarith
  have hright : (m : ℚ) / (2 ^ s : ℕ) * (2 * grain) < (2 ^ 54 - 1) * grain ↔
      2 * m + 2 ^ s < 2 * 2 ^ 53 * 2 ^ s := by
    rw [← mul_assoc, mul_lt_mul_iff_left₀ hgrain, div_mul_eq_mul_div, div_lt_iff₀ hpow, ← @Nat.cast_lt ℚ]
    push_cast
    constructor <;> intro hlt <;> linarith
  rw [hleft, hright]
  exact roundDiv_lt_iff m (Nat.two_pow_pos s) (by norm_num)

/-- **The end of the range.** A number is rounded below `2^1024` just in case it is less than the middle
between the greatest finite double and `2^1024`. -/
theorem lt_iff (h : Grid m e s) :
    (roundDiv m (2 ^ s) : ℚ) * 2 ^ (e + s) < 2 ^ 54 * grain ↔ (m : ℚ) * 2 ^ e < (2 ^ 54 - 1) * grain := by
  have hgrain := grain_pos
  have hpow : (0 : ℚ) < (2 ^ s : ℕ) := by positivity
  have hquotient : (m : ℚ) / (2 ^ s : ℕ) < 2 ^ 53 := by
    rw [div_lt_iff₀ hpow]
    exact_mod_cast h.long
  have hrounded : (roundDiv m (2 ^ s) : ℚ) ≤ 2 ^ 53 := by exact_mod_cast h.rounded_le
  rw [scale m s e]
  rcases lt_trichotomy (e + s) 971 with hbelow | heq | habove
  · have hunit : (2 : ℚ) ^ (e + s) ≤ grain := two_zpow_grain ▸ two_zpow_le (by omega)
    have hunit0 := two_zpow_pos (e + s)
    refine iff_of_true ?_ ?_
    · calc (roundDiv m (2 ^ s) : ℚ) * 2 ^ (e + s) ≤ 2 ^ 53 * grain :=
            mul_le_mul hrounded hunit hunit0.le (by norm_num)
        _ < 2 ^ 54 * grain := mul_lt_mul_of_pos_right (by norm_num) hgrain
    · calc (m : ℚ) / (2 ^ s : ℕ) * 2 ^ (e + s) ≤ 2 ^ 53 * grain :=
            mul_le_mul hquotient.le hunit hunit0.le (by norm_num)
        _ < (2 ^ 54 - 1) * grain := mul_lt_mul_of_pos_right (by norm_num) hgrain
  · rw [heq, two_zpow_last]
    exact lt_iff_on_last m s
  · have hunit : 4 * grain ≤ (2 : ℚ) ^ (e + s) := two_zpow_beyond ▸ two_zpow_le (by omega)
    have hunit0 : 0 ≤ 4 * grain := by linarith
    have hfull : 2 ^ 52 * 2 ^ s ≤ m := h.full.resolve_right (by omega)
    have hlarge : (2 : ℚ) ^ 52 ≤ (m : ℚ) / (2 ^ s : ℕ) := by
      rw [le_div_iff₀ hpow]
      exact_mod_cast hfull
    have hlarge' : (2 : ℚ) ^ 52 ≤ roundDiv m (2 ^ s) := by
      exact_mod_cast le_roundDiv (Nat.two_pow_pos s) hfull
    refine iff_of_false ?_ ?_
    · rw [not_lt]
      calc 2 ^ 54 * grain = 2 ^ 52 * (4 * grain) := by ring
        _ ≤ (roundDiv m (2 ^ s) : ℚ) * 2 ^ (e + s) := mul_le_mul hlarge' hunit hunit0 (Nat.cast_nonneg _)
    · rw [not_lt]
      calc (2 ^ 54 - 1) * grain ≤ 2 ^ 52 * (4 * grain) := by linarith
        _ ≤ (m : ℚ) / (2 ^ s : ℕ) * 2 ^ (e + s) :=
            mul_le_mul hlarge hunit hunit0 (div_nonneg m.cast_nonneg hpow.le)

end Grid

/-! ## Rounding in parts -/

/-- The middle between the greatest finite double and `2^1024`. -/
def limit : ℚ := (2 ^ 54 - 1) * grain

/-- What an exact number is rounded to, as long as the range lasts. -/
structure Rounds (v : ℚ) (u : UnpackedFloat) : Prop where
  canonical : Canonical u
  nearest : Nearest v (value u)
  lt_iff : |value u| < 2 ^ 54 * grain ↔ |v| < limit

/-- What is a double already is not rounded. -/
theorem Representable.rounds {u : UnpackedFloat} (h : Representable u) : Rounds (value u) u := by
  refine ⟨h.canonical, .refl _, iff_of_true h.lt ?_⟩
  exact lt_of_le_of_lt h.le (mul_lt_mul_of_pos_right (by norm_num) grain_pos)

/-- A rounded mantissa on its grid. If it has carried over to a bit more, it loses its last one, which is
zero. -/
def settled (sign : Sign) (n : ℕ) (e : ℤ) : UnpackedFloat :=
  let (em, f) := shiftToTargetExponent .binary64 n e .exact
  if h : em.mantissa = 0 then .zero sign else .finite sign em.mantissa f (Nat.pos_of_ne_zero h)

theorem roundWithAccuracy_eq (sign : Sign) {m : ℕ} {e : ℤ} {s : ℕ}
    (hs : (Format.binary64.targetExponent (totalExponent m e) - e).toNat = s) :
    roundWithAccuracy .binary64 sign m e .exact = settled sign (roundDiv m (2 ^ s)) (e + s) := by
  simp only [roundWithAccuracy, shiftToTargetExponent_eq hs, rounded_eq]
  rfl

/-- Parts with the mantissa as long as it can be. -/
theorem canonical_settled (sign : Sign) {n : ℕ} {e : ℤ} (hn : n ≤ 2 ^ 53) (hfine : -1074 ≤ e)
    (hfull : 2 ^ 52 ≤ n ∨ e = -1074) :
    Canonical (settled sign n e) ∧ value (settled sign n e) = (sign.apply (n : ℤ) : ℤ) * (2 : ℚ) ^ e := by
  rcases Nat.lt_or_eq_of_le hn with hlt | rfl
  · -- nothing is carried over
    have hlog : n.log2 < 53 := log2_lt_of_lt (by decide) hlt
    have hnone : (Format.binary64.targetExponent (totalExponent n e) - e).toNat = 0 := by
      rw [targetExponent_eq]
      omega
    have hshift := shiftToTargetExponent_eq hnone
    rw [Nat.cast_zero, add_zero] at hshift
    simp only [settled, hshift, dropped_zero]
    split
    · next hzero =>
      rw [hzero]
      exact ⟨.zero sign, by cases sign <;> simp [value, Sign.apply]⟩
    · next hpos => exact ⟨.finite _ hlt hfine hfull, rfl⟩
  · have hlog : Nat.log2 (2 ^ 53) = 53 := by decide
    have hone : (Format.binary64.targetExponent (totalExponent (2 ^ 53) e) - e).toNat = 1 := by
      rw [targetExponent_eq, hlog]
      omega
    have hshift : shiftToTargetExponent .binary64 (2 ^ 53) e .exact = (⟨2 ^ 52, false, false⟩, e + 1) :=
      shiftToTargetExponent_eq hone
    have hpos : 0 < 2 ^ 52 := by decide
    have hsettled : settled sign (2 ^ 53) e = .finite sign (2 ^ 52) (e + 1) hpos := by
      simp only [settled, hshift]
      exact dif_neg hpos.ne'
    rw [hsettled]
    refine ⟨.finite _ (by decide) (by omega) (.inl le_rfl), ?_⟩
    rw [value, two_zpow_add, zpow_one]
    cases sign <;> simp only [Sign.apply] <;> push_cast <;> ring

/-- **Rounding to a double in parts.** -/
theorem rounds_roundWithAccuracy {m : ℕ} {e : ℤ} (hm : 0 < m)
    (he : e ≤ Format.binary64.targetExponent (totalExponent m e)) (sign : Sign) :
    Rounds ((sign.apply (m : ℤ) : ℤ) * 2 ^ e) (roundWithAccuracy .binary64 sign m e .exact) := by
  have hgrid := grid_of_target hm he
  rw [roundWithAccuracy_eq sign rfl]
  generalize (Format.binary64.targetExponent (totalExponent m e) - e).toNat = s at hgrid ⊢
  have hfull : 2 ^ 52 ≤ roundDiv m (2 ^ s) ∨ e + s = -1074 :=
    hgrid.full.imp (le_roundDiv (Nat.two_pow_pos s)) id
  obtain ⟨hcanonical, hvalue⟩ := canonical_settled sign hgrid.rounded_le hgrid.fine hfull
  refine ⟨hcanonical, ?_, ?_⟩
  · rw [hvalue]
    cases sign with
    | positive => exact hgrid.nearest
    | negative => simpa only [Sign.apply, Int.cast_neg, Int.cast_natCast, neg_mul] using hgrid.nearest.neg
  · rw [hvalue, abs_mul, abs_mul, abs_apply, abs_apply, abs_of_pos (two_zpow_pos _),
      abs_of_pos (two_zpow_pos _)]
    exact hgrid.lt_iff

/-- A lengthened mantissa makes up for a smaller exponent. -/
theorem apply_shiftLeft (sign : Sign) (m k : ℕ) (e : ℤ) :
    ((sign.apply ((m <<< k : ℕ) : ℤ) : ℤ) : ℚ) * 2 ^ e = (sign.apply (m : ℤ) : ℤ) * 2 ^ (e + k) := by
  rw [two_zpow_add, zpow_natCast, Nat.shiftLeft_eq]
  cases sign <;> simp only [Sign.apply] <;> push_cast <;> ring

/-- A mantissa is lengthened before it is rounded, which does not change the number. -/
theorem rounds_round {m : ℕ} (hm : 0 < m) (e : ℤ) (sign : Sign) :
    Rounds ((sign.apply (m : ℤ) : ℤ) * 2 ^ e) (UnpackedFloat.round .binary64 sign m e) := by
  simp only [UnpackedFloat.round, decreaseExponent]
  generalize htarget : Format.binary64.targetExponent (totalExponent m e) = f
  generalize hk : (e - f).toNat = k
  have hpos : 0 < m <<< k := by
    rw [Nat.shiftLeft_eq]
    exact Nat.mul_pos hm (Nat.two_pow_pos k)
  have htotal : totalExponent (m <<< k) (e - k) = totalExponent m e := by
    rw [totalExponent, totalExponent, log2_shiftLeft hm.ne']
    push_cast
    ring
  have hnumber := apply_shiftLeft sign m k (e - k)
  rw [sub_add_cancel] at hnumber
  rw [← hnumber]
  refine rounds_roundWithAccuracy hpos ?_ sign
  rw [htotal, htarget]
  omega

theorem rounds_normalize (n e : ℤ) (sign : Sign) :
    Rounds (n * 2 ^ e) (UnpackedFloat.normalize .binary64 n e sign) := by
  unfold UnpackedFloat.normalize
  split
  · next hneg =>
    have hlt : n < 0 := Int.compare_eq_lt.mp hneg
    have hround := rounds_round (m := (-n).toNat) (by omega) e .negative
    rwa [Sign.apply, Int.toNat_of_nonneg (by omega), neg_neg] at hround
  · next hzero =>
    rw [Int.compare_eq_eq.mp hzero, Int.cast_zero, zero_mul]
    exact (representable_zero sign).rounds
  · next hpos =>
    have hgt : 0 < n := Int.compare_eq_gt.mp hpos
    have hround := rounds_round (m := n.toNat) (by omega) e .positive
    rwa [Sign.apply, Int.toNat_of_nonneg (by omega)] at hround

/-- **Sums of finite doubles** in parts. -/
theorem rounds_add {u v : UnpackedFloat} (hu : Representable u) (hv : Representable v) :
    Rounds (value u + value v) (UnpackedFloat.add .binary64 u v) := by
  cases hu.canonical with
  | zero s =>
    rw [show value (.zero s) = 0 from rfl, zero_add]
    cases hv.canonical with
    | zero t =>
      simp only [UnpackedFloat.add]
      split
      · exact (representable_zero s).rounds
      · exact (representable_zero .positive).rounds
    | finite hn hlong hfine hfull => exact hv.rounds
  | @finite s m e hm hlong hfine hfull =>
    cases hv.canonical with
    | zero t =>
      rw [show value (.zero t) = 0 from rfl, add_zero]
      exact hu.rounds
    | @finite t n f hn hlong' hfine' hfull' =>
      -- both mantissas in the smaller exponent
      have hlengthen : ∀ {g : ℤ}, min e f ≤ g → min e f + ((g - min e f).toNat : ℤ) = g := by
        intro g hg
        rw [Int.toNat_of_nonneg (by omega), add_sub_cancel]
      have hsum := rounds_normalize (s.apply ((m <<< (e - min e f).toNat : ℕ) : ℤ) +
        t.apply ((n <<< (f - min e f).toNat : ℕ) : ℤ)) (min e f) .positive
      rw [Int.cast_add, add_mul, apply_shiftLeft, apply_shiftLeft, hlengthen (min_le_left e f),
        hlengthen (min_le_right e f)] at hsum
      exact hsum

theorem value_neg (u : UnpackedFloat) : value u.neg = -value u := by
  cases u with
  | finite sign m e hm =>
    simp only [UnpackedFloat.neg, value]
    cases sign
    · show ((m : ℤ) : ℚ) * 2 ^ e = -(((-(m : ℤ) : ℤ) : ℚ) * 2 ^ e)
      push_cast
      ring
    · show ((-(m : ℤ) : ℤ) : ℚ) * 2 ^ e = -(((m : ℤ) : ℚ) * 2 ^ e)
      push_cast
      ring
  | _ => exact neg_zero.symm

theorem Representable.neg {u : UnpackedFloat} (h : Representable u) : Representable u.neg := by
  refine ⟨?_, by rw [value_neg, abs_neg]; exact h.lt⟩
  cases h.canonical with
  | zero sign => exact .zero _
  | finite hm hlong hfine hfull => exact .finite hm hlong hfine hfull

/-- The exponent of a product is not above that of its grid. -/
theorem product_target {m n : ℕ} {e f : ℤ} (hm : 0 < m) (hn : 0 < n)
    (hmfull : 2 ^ 52 ≤ m ∨ e = -1074) (hnfull : 2 ^ 52 ≤ n ∨ f = -1074) :
    e + f ≤ Format.binary64.targetExponent (totalExponent (m * n) (e + f)) := by
  rw [targetExponent_eq]
  by_cases hshort : 2 ^ 52 ≤ m ∨ 2 ^ 52 ≤ n
  · have hprod : 2 ^ 52 ≤ m * n := by
      rcases hshort with h | h
      · exact Nat.le_trans h (Nat.le_mul_of_pos_right m hn)
      · exact Nat.le_trans h (Nat.le_mul_of_pos_left n hm)
    have hlog : 52 ≤ (m * n).log2 := (Nat.le_log2 (Nat.mul_pos hm hn).ne').mpr hprod
    omega
  · omega

/-- **Products of finite doubles** in parts. -/
theorem rounds_mul {u v : UnpackedFloat} (hu : Representable u) (hv : Representable v) :
    Rounds (value u * value v) (UnpackedFloat.mul .binary64 u v) := by
  cases hu.canonical with
  | zero s =>
    rw [show value (.zero s) = 0 from rfl, zero_mul]
    cases hv.canonical <;> exact (representable_zero _).rounds
  | @finite s m e hm hlong hfine hfull =>
    cases hv.canonical with
    | zero t =>
      rw [show value (.zero t) = 0 from rfl, mul_zero]
      exact (representable_zero _).rounds
    | @finite t n f hn hlong' hfine' hfull' =>
      have hproduct : value (.finite s m e hm) * value (.finite t n f hn) =
          (((s * t).apply ((m * n : ℕ) : ℤ) : ℤ) : ℚ) * 2 ^ (e + f) := by
        have happly : (s * t).apply ((m * n : ℕ) : ℤ) = s.apply (m : ℤ) * t.apply (n : ℤ) := by
          cases s <;> cases t
          · show ((m * n : ℕ) : ℤ) = -(m : ℤ) * -(n : ℤ)
            push_cast
            ring
          · show -((m * n : ℕ) : ℤ) = -(m : ℤ) * (n : ℤ)
            push_cast
            ring
          · show -((m * n : ℕ) : ℤ) = (m : ℤ) * -(n : ℤ)
            push_cast
            ring
          · show ((m * n : ℕ) : ℤ) = (m : ℤ) * (n : ℤ)
            push_cast
            ring
        rw [happly, value, value, two_zpow_add, Int.cast_mul]
        ring
      rw [hproduct]
      exact rounds_roundWithAccuracy (Nat.mul_pos hm hn)
        (product_target hm hn hfull hfull') (s * t)

/-! ## Doubles -/

/-- A double is the one nearest to a number, or the number is out of range. -/
structure RoundsTo (v : ℚ) (x : Float) : Prop where
  isFinite_iff : x.isFinite = true ↔ |v| < limit
  nearest : x.isFinite = true → Nearest v (number x)

theorem Rounds.double {v : ℚ} {u : UnpackedFloat} (h : Rounds v u) :
    RoundsTo v (.ofModel (Float.Model.pack u)) := by
  by_cases hlt : |value u| < 2 ^ 54 * grain
  · have hunpack : (Float.Model.pack u).unpack = u := unpack_pack ⟨h.canonical, hlt⟩
    have hfinite : u.isFinite = true := by cases h.canonical <;> rfl
    refine ⟨iff_of_true ?_ (h.lt_iff.mp hlt), fun _ => ?_⟩
    · show (Float.Model.pack u).unpack.isFinite = true
      rw [hunpack, hfinite]
    · show Nearest v (value (Float.Model.pack u).unpack)
      rw [hunpack]
      exact h.nearest
  · have hinfinite : (Float.ofModel (Float.Model.pack u)).isFinite = false :=
      pack_overflow h.canonical (not_lt.mp hlt)
    rw [h.lt_iff] at hlt
    refine ⟨iff_of_false (by rw [hinfinite]; exact Bool.false_ne_true) hlt, fun hfinite => ?_⟩
    rw [hinfinite] at hfinite
    cases hfinite

variable {x y : Float}

/-- **Sums are nearest to the exact ones.** -/
theorem add_roundsTo (hx : x.isFinite = true) (hy : y.isFinite = true) :
    RoundsTo (number x + number y) (x + y) :=
  (rounds_add (representable_unpack hx) (representable_unpack hy)).double

/-- **Differences are nearest to the exact ones.** -/
theorem sub_roundsTo (hx : x.isFinite = true) (hy : y.isFinite = true) :
    RoundsTo (number x - number y) (x - y) := by
  have hsum := rounds_add (representable_unpack hx) (representable_unpack hy).neg
  have hdifference : value x.toModel.unpack + value y.toModel.unpack.neg = number x - number y := by
    rw [value_neg, number, number]
    ring
  rw [← sub_eq_add_neg, hdifference] at hsum
  exact hsum.double

/-- **Products are nearest to the exact ones.** -/
theorem mul_roundsTo (hx : x.isFinite = true) (hy : y.isFinite = true) :
    RoundsTo (number x * number y) (x * y) :=
  (rounds_mul (representable_unpack hx) (representable_unpack hy)).double

/-! ## Infinities -/

theorem isFinite_of_pack {u : UnpackedFloat} (h : (Float.ofModel (Float.Model.pack u)).isFinite = true) :
    u.isFinite = true := by
  cases u with
  | infinity sign => cases sign <;> exact absurd h (by decide)
  | notANumber => exact absurd h (by decide)
  | _ => rfl

/-- A sum is finite only if both numbers are. -/
theorem isFinite_of_add (h : (x + y).isFinite = true) : x.isFinite = true ∧ y.isFinite = true := by
  have hsum : (UnpackedFloat.add .binary64 x.toModel.unpack y.toModel.unpack).isFinite = true :=
    isFinite_of_pack h
  rw [← isFinite_unpack x, ← isFinite_unpack y]
  generalize x.toModel.unpack = u at hsum ⊢
  generalize y.toModel.unpack = v at hsum ⊢
  cases u with
  | notANumber => cases hsum
  | infinity s =>
    cases v with
    | infinity t => cases s <;> cases t <;> exact absurd hsum (by decide)
    | _ => cases hsum
  | _ => cases v <;> first | exact ⟨rfl, rfl⟩ | cases hsum

/-- A product is finite only if both numbers are. -/
theorem isFinite_of_mul (h : (x * y).isFinite = true) : x.isFinite = true ∧ y.isFinite = true := by
  have hproduct : (UnpackedFloat.mul .binary64 x.toModel.unpack y.toModel.unpack).isFinite = true :=
    isFinite_of_pack h
  rw [← isFinite_unpack x, ← isFinite_unpack y]
  generalize x.toModel.unpack = u at hproduct ⊢
  generalize y.toModel.unpack = v at hproduct ⊢
  cases u <;> cases v <;> first | exact ⟨rfl, rfl⟩ | cases hproduct

end Wireframe.Decimal
