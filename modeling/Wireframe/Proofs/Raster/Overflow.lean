import Wireframe.Proofs.Color.Share
import Wireframe.Proofs.Decimal.Nearest
import Wireframe.Proofs.Decimal.Whole
import Wireframe.Proofs.Raster.Range
import Wireframe.Proofs.Raster.Traversal

/-!
# `Wireframe.Proofs.Raster.Overflow` — segments that are too long to be clipped

Clipping leaves out segments whose ends are not finite. The ends of what is seen of the others are computed
as `x0 + t * (x1 - x0)`, and finite numbers can have a difference that is not: from `-1e308` to `1e308` it is
an infinity, and the ends of what is seen are infinities or no numbers at all. They lie in no pixel, so that
drawing fails. This module tells exactly when that happens (`clip?_isFinite_iff`).

If the difference is finite, nearly nothing can go wrong: the point at `t` lies between the ends, and the
difference was rounded by too little to lead to the end of the range, unless the whole of it is added. A
proper part of such a difference is rounded below it (`proper_part`), and so the sum stays finite
(`within_limit`). Only at the very end of a segment the sum has to be looked at (`Arrives`).

## Contents
- `proper_part`, `within_limit`: parts of differences, as numbers.
- `number_share`, `reaches_iff`: a coordinate of a point of a segment.
- `Spans`, `Arrives`, `clip?_isFinite_iff`: the ends of what is seen.
- `round_ok_iff`, `pixels_ok_iff`, `pixels_error`: pixels.
- `drawn_unless_overflow`: drawing.
-/

namespace Wireframe.Raster

open Document Decimal Float.Model Float.Model.UnpackedFloat

/-! ## Parts of differences -/

/-- Among the greatest numbers those of few digits are multiples of the last digit of the greatest one. -/
theorem last_binade {d : ℚ} (hd : Short d) (hlower : 2 ^ 53 * grain ≤ d) (hupper : d < 2 ^ 54 * grain) :
    ∃ m : ℤ, 2 ^ 52 ≤ m ∧ m < 2 ^ 53 ∧ d = m * (2 * grain) := by
  obtain ⟨n, f, hn, -, rfl⟩ := hd
  have hgrain := grain_pos
  have hexponent : 970 < f := by
    have hn' : (n : ℚ) < 2 ^ 53 := by exact_mod_cast (abs_lt.mp hn).2
    have hlt : (2 : ℚ) ^ (970 : ℤ) < 2 ^ f := by
      by_contra hle
      have hprod : (n : ℚ) * 2 ^ f < 2 ^ 53 * 2 ^ f := mul_lt_mul_of_pos_right hn' (two_zpow_pos f)
      have hprod' : (2 : ℚ) ^ 53 * 2 ^ f ≤ 2 ^ 53 * grain :=
        mul_le_mul_of_nonneg_left (two_zpow_grain ▸ not_lt.mp hle) (by norm_num)
      linarith
    exact (zpow_lt_zpow_iff_right₀ (by norm_num)).mp hlt
  have hmultiple : (n : ℚ) * 2 ^ f = ((n * 2 ^ (f - 971).toNat : ℤ) : ℚ) * (2 * grain) := by
    rw [finer n (by omega : (971 : ℤ) ≤ f), two_zpow_last]
  rw [hmultiple] at hlower hupper
  refine ⟨_, ?_, ?_, hmultiple⟩
  · have hle : (2 : ℚ) ^ 52 * (2 * grain) ≤ ((n * 2 ^ (f - 971).toNat : ℤ) : ℚ) * (2 * grain) := by linarith
    exact_mod_cast le_of_mul_le_mul_right hle (by linarith)
  · have hlt : ((n * 2 ^ (f - 971).toNat : ℤ) : ℚ) * (2 * grain) < 2 ^ 53 * (2 * grain) := by linarith
    exact_mod_cast lt_of_mul_lt_mul_right hlt (by linarith)

/-- **A proper part of one of the greatest numbers is rounded below it.** -/
theorem proper_part {d t z : ℚ} (hd : Short d) (hlower : 2 ^ 53 * grain ≤ d) (hupper : d < 2 ^ 54 * grain)
    (ht : t ≤ 1 - 1 / 2 ^ 53) (hz : Nearest (t * d) z) : z < d := by
  have hgrain := grain_pos
  have hdpos : 0 < d := lt_of_lt_of_le (by linarith) hlower
  have hpart : t * d ≤ d - d / 2 ^ 53 := by
    calc t * d ≤ (1 - 1 / 2 ^ 53) * d := mul_le_mul_of_nonneg_right ht hdpos.le
      _ = d - d / 2 ^ 53 := by ring
  -- the number of few digits before `d` is nearer to the part than `d`
  obtain ⟨w, hw, hnear⟩ : ∃ w, Short w ∧ |w - t * d| < d - t * d := by
    obtain ⟨m, hm, hm', rfl⟩ := last_binade hd hlower hupper
    rcases hm.eq_or_lt with rfl | hlt
    · refine ⟨(2 ^ 53 - 1) * grain, ⟨2 ^ 53 - 1, 970, by norm_num, by norm_num, ?_⟩, ?_⟩
      · rw [two_zpow_grain]
        push_cast
        ring
      · push_cast at hpart ⊢
        rw [abs_lt]
        constructor <;> linarith
    · refine ⟨(m - 1) * (2 * grain), ⟨m - 1, 971, ?_, by norm_num, ?_⟩, ?_⟩
      · rw [abs_lt]
        omega
      · rw [two_zpow_last]
        push_cast
        ring
      · have hm1 : (2 : ℚ) ^ 52 + 1 ≤ m := by exact_mod_cast hlt
        have hgap : grain < m * (2 * grain) / 2 ^ 53 := by
          rw [lt_div_iff₀ (by norm_num)]
          have hprod : (2 ^ 52 + 1) * (2 * grain) ≤ m * (2 * grain) :=
            mul_le_mul_of_nonneg_right hm1 (by linarith)
          linarith
        rw [abs_lt]
        constructor <;> linarith
  have hrest : 0 < d / 2 ^ 53 := div_pos hdpos (by norm_num)
  rcases (hz.le hd (by linarith)).lt_or_eq with hlt | rfl
  · exact hlt
  · linarith [hz w hw, le_abs_self (z - t * z)]

/-- A difference is rounded by at most half of what the last digit of the greatest doubles counts, and by
less if it is not among the greatest numbers. -/
theorem difference_error {v d : ℚ} (hv : |v| < limit) (hd : Nearest v d) :
    |d - v| ≤ grain ∧ (|v| < (2 ^ 53 - 1 / 2) * grain → |d - v| ≤ grain / 2) := by
  constructor
  · have hrange : |v| < (2 ^ 53 - 1 / 2) * 2 ^ (971 : ℤ) := by
      rw [two_zpow_last]
      unfold limit at hv
      linarith
    have herror := hd.error (by norm_num) hrange
    rw [two_zpow_last] at herror
    linarith
  · intro hsmall
    rw [← two_zpow_grain] at hsmall ⊢
    exact hd.error (by norm_num) hsmall

/-- The greatest doubles are out of reach of a proper part of a positive difference. -/
theorem below_limit {a b d t z : ℚ} (hb : b ≤ (2 ^ 54 - 2) * grain) (hsize : |b - a| < limit)
    (hd : Short d) (hdiff : Nearest (b - a) d) (h0 : 0 ≤ d) (hupper : d < 2 ^ 54 * grain)
    (ht : t ≤ 1 - 1 / 2 ^ 53) (hz : Nearest (t * d) z) : a + z < limit := by
  have hgrain := grain_pos
  obtain ⟨herror, hless⟩ := difference_error hsize hdiff
  have hzd : z ≤ d := hz.le hd (by nlinarith)
  by_contra hge
  rw [not_lt] at hge
  unfold limit at hge
  rw [abs_le] at herror
  -- the whole difference leads just to the limit, and so it was rounded up by as much as can be
  have hup : d - (b - a) = grain := by linarith
  have hlarge : 2 ^ 53 * grain ≤ d := by
    by_contra hsmall
    have herror' := hless (abs_lt.mpr ⟨by linarith, by linarith⟩)
    rw [hup, abs_of_pos hgrain] at herror'
    linarith
  have hproper := proper_part hd hlarge hupper ht hz
  linarith

/-- **A proper part of a finite difference stays in range.** -/
theorem within_limit {a b d t z : ℚ} (ha : |a| ≤ (2 ^ 54 - 2) * grain) (hb : |b| ≤ (2 ^ 54 - 2) * grain)
    (hsize : |b - a| < limit) (hd : Short d) (hdiff : Nearest (b - a) d) (hrange : |d| < 2 ^ 54 * grain)
    (h0 : 0 ≤ t) (h1 : t ≤ 1 - 1 / 2 ^ 53) (hz : Nearest (t * d) z) : |a + z| < limit := by
  have hgrain := grain_pos
  have hlimit : (2 ^ 54 - 2) * grain < limit := by
    unfold limit
    linarith
  rw [abs_le] at ha hb
  rw [abs_lt] at hrange ⊢
  rcases le_total 0 d with hpos | hneg
  · have hz0 : 0 ≤ z := hz.ge short_zero (mul_nonneg h0 hpos)
    exact ⟨by linarith, below_limit hb.2 hsize hd hdiff hpos hrange.2 h1 hz⟩
  · -- the other direction is the same, seen in a mirror
    have hz0 : z ≤ 0 := hz.le short_zero (mul_nonpos_of_nonneg_of_nonpos h0 hneg)
    have hdiff' : Nearest (-b - -a) (-d) := by
      rw [neg_sub_neg, ← neg_sub]
      exact hdiff.neg
    have hz' : Nearest (t * -d) (-z) := by
      rw [mul_neg]
      exact hz.neg
    have hsize' : |-b - -a| < limit := by rwa [neg_sub_neg, abs_sub_comm]
    have hmirror := below_limit (by linarith) hsize' hd.neg hdiff' (by linarith) (by linarith) h1 hz'
    exact ⟨by linarith, by linarith⟩

/-! ## A coordinate of a point -/

/-- A number of few digits below 1 is so by at least what its last digit counts. -/
theorem below_one {m k : ℕ} (hlong : m < 2 ^ 53) (hlt : m < 2 ^ k) : (m : ℚ) / 2 ^ k ≤ 1 - 1 / 2 ^ 53 := by
  have hpow : (0 : ℚ) < 2 ^ k := by positivity
  -- both the mantissa and the power have room for one more
  have hroom : m * 2 ^ 53 ≤ (2 ^ 53 - 1) * 2 ^ k := by
    rcases Nat.le_total k 53 with hsmall | hlarge
    · have hpow' : 2 ^ k ≤ 2 ^ 53 := Nat.pow_le_pow_right (by decide) hsmall
      omega
    · have hpow' : 2 ^ 53 ≤ 2 ^ k := Nat.pow_le_pow_right (by decide) hlarge
      omega
  have hcast : (m : ℚ) * 2 ^ 53 ≤ (2 ^ 53 - 1) * 2 ^ k := by
    have h : ((m * 2 ^ 53 : ℕ) : ℚ) ≤ (((2 ^ 53 - 1) * 2 ^ k : ℕ) : ℚ) := by exact_mod_cast hroom
    push_cast at h
    linarith
  rw [div_le_iff₀ hpow]
  linarith

/-- The parameter of a point of a segment is a number from 0 to 1: it is 1, or less than 1 by at least what
the last digit counts. -/
theorem number_share {t : Float} (h0 : 0.0 ≤ t) (h1 : t ≤ 1.0) :
    t.isFinite = true ∧ 0 ≤ number t ∧
      ((1.0 : Float) ≤ t ∧ number t = 1 ∨ ¬ (1.0 : Float) ≤ t ∧ number t ≤ 1 - 1 / 2 ^ 53) := by
  have hone : (1.0 : Float).toModel.unpack = .finite .positive (2 ^ 52) (-52) (by decide) := rfl
  have hshare : Rgba.isShare t = true :=
    Bool.and_eq_true_iff.mpr ⟨decide_eq_true h0, decide_eq_true h1⟩
  rw [double_le_iff, hone, ← isFinite_unpack, number]
  rcases Light.share_cases hshare with ⟨sign, ht⟩ | ⟨m, k, hm, ht, hle, hk⟩
  · rw [ht]
    refine ⟨rfl, le_rfl, .inr ⟨by cases sign <;> decide, ?_⟩⟩
    norm_num [value]
  · have hlong := Light.unpack_mantissa_lt ht
    have hvalue : value (.finite .positive m (-(k : ℤ)) hm) = m / 2 ^ k := by
      rw [value, zpow_neg, zpow_natCast]
      rfl
    have hpow : (0 : ℚ) < 2 ^ k := by positivity
    have hcompare : (UnpackedFloat.finite .positive (2 ^ 52) (-52) (by decide)).le
        (.finite .positive m (-(k : ℤ)) hm) = true ↔ m = 2 ^ k := by
      have hiff : (UnpackedFloat.finite .positive (2 ^ 52) (-52) (by decide)).le
          (.finite .positive m (-(k : ℤ)) hm) = true ↔ -52 < -(k : ℤ) ∨ -52 = -(k : ℤ) ∧ 2 ^ 52 ≤ m :=
        isLE_compare_pair
      rw [hiff]
      constructor
      · intro h
        obtain rfl : k = 52 := by omega
        omega
      · rintro rfl
        have hk' : k < 53 := (Nat.pow_lt_pow_iff_right (by decide)).mp hlong
        obtain rfl : k = 52 := by omega
        exact .inr ⟨rfl, le_rfl⟩
    rw [ht, hcompare, hvalue]
    refine ⟨rfl, by positivity, ?_⟩
    rcases hle.lt_or_eq with hlt | heq
    · exact .inr ⟨hlt.ne, below_one hlong hlt⟩
    · refine .inl ⟨heq, ?_⟩
      rw [heq, Nat.cast_pow, Nat.cast_ofNat, div_self hpow.ne']

/-- A part of a finite difference is finite, and as near to the exact part as can be. -/
theorem share_roundsTo {t d : Float} (h0 : 0.0 ≤ t) (h1 : t ≤ 1.0) (hd : d.isFinite = true) :
    (t * d).isFinite = true ∧ Nearest (number t * number d) (number (t * d)) := by
  obtain ⟨ht, htpos, htcases⟩ := number_share h0 h1
  have hgrain := grain_pos
  have htle : number t ≤ 1 := by
    rcases htcases with ⟨-, heq⟩ | ⟨-, hle⟩
    · exact heq.le
    · exact hle.trans (by norm_num)
  have hproduct := mul_roundsTo ht hd
  have hfinite : (t * d).isFinite = true := by
    rw [hproduct.isFinite_iff, abs_mul, abs_of_nonneg htpos]
    calc number t * |number d| ≤ 1 * ((2 ^ 54 - 2) * grain) :=
          mul_le_mul htle (abs_number_le hd) (abs_nonneg _) (by norm_num)
      _ < limit := by unfold limit; linarith
  exact ⟨hfinite, hproduct.nearest hfinite⟩

/-- **A point of a segment has finite coordinates** just in case the difference between the ends is finite,
and at the very end of the segment its sum with the start is, too. -/
theorem reaches_iff {x0 x1 t : Float} (hx0 : x0.isFinite = true) (hx1 : x1.isFinite = true)
    (h0 : 0.0 ≤ t) (h1 : t ≤ 1.0) :
    (x0 + t * (x1 - x0)).isFinite = true ↔ (x1 - x0).isFinite = true ∧
      ((1.0 : Float) ≤ t → (x0 + (x1 - x0)).isFinite = true) := by
  by_cases hd : (x1 - x0).isFinite = true
  · have hdifference := sub_roundsTo hx1 hx0
    have hwhole := add_roundsTo hx0 hd
    obtain ⟨hfinite, hnearest⟩ := share_roundsTo h0 h1 hd
    rw [(add_roundsTo hx0 hfinite).isFinite_iff, hwhole.isFinite_iff, and_iff_right hd]
    obtain ⟨-, htpos, ⟨hend, hone⟩ | ⟨hbefore, hpart⟩⟩ := number_share h0 h1
    · rw [hone, one_mul] at hnearest
      rw [hnearest.eq_of_short (number_short hd)]
      exact ⟨fun h _ => h, fun h => h hend⟩
    · refine iff_of_true ?_ fun hend => absurd hend hbefore
      exact within_limit (abs_number_le hx0) (abs_number_le hx1) (hdifference.isFinite_iff.mp hd)
        (number_short hd) (hdifference.nearest hd) (representable_unpack hd).lt htpos hpart hnearest
  · refine iff_of_false (fun h => hd ?_) fun h => hd h.1
    exact (isFinite_of_mul (isFinite_of_add h).2).2

/-! ## The ends of what is seen -/

/-- The differences between the ends of a segment are finite. -/
def Spans (s : Segment Float) : Prop := (s.x1 - s.x0).isFinite = true ∧ (s.y1 - s.y0).isFinite = true

/-- The sums of the start of a segment and of these differences are finite. -/
def Arrives (s : Segment Float) : Prop :=
  (s.x0 + (s.x1 - s.x0)).isFinite = true ∧ (s.y0 + (s.y1 - s.y0)).isFinite = true

/-- **The ends of what is seen are finite** just in case the differences between the ends of the segment are,
and also their sums with its start, if the segment is seen to its end. -/
theorem clip?_isFinite_iff {width height : Float} {s r : Segment Float} (h : clip? width height s = some r) :
    isFinite r = true ↔ Spans s ∧ ((1.0 : Float) ≤ exit (borders width height s) → Arrives s) := by
  simp only [clip?] at h
  split at h
  · next hkept =>
    cases h
    rw [Bool.and_eq_true, Bool.and_eq_true] at hkept
    obtain ⟨⟨hfinite, -⟩, hle⟩ := hkept
    have hle' := scalar_le.mp hle
    obtain ⟨⟨hentry, hentry'⟩, hexit, hexit'⟩ := parameters_le_one hle'
    have hends : ∀ x ∈ coordinates s, x.isFinite = true := (finite_iff s).mp hfinite
    rw [finite_iff]
    simp only [coordinates, List.forall_mem_cons, List.not_mem_nil, false_implies, implies_true,
      and_true] at hends ⊢
    obtain ⟨hx0, hy0, hx1, hy1⟩ := hends
    rw [reaches_iff hx0 hx1 hentry hentry', reaches_iff hy0 hy1 hentry hentry',
      reaches_iff hx0 hx1 hexit hexit', reaches_iff hy0 hy1 hexit hexit']
    -- a segment that comes in at its end goes out there
    have hlast : (1.0 : Float) ≤ entry (borders width height s) →
        (1.0 : Float) ≤ exit (borders width height s) := fun hone => double_le_trans hone hle'
    constructor
    · rintro ⟨⟨hdx, -⟩, ⟨hdy, -⟩, ⟨-, hx⟩, ⟨-, hy⟩⟩
      exact ⟨⟨hdx, hdy⟩, fun hone => ⟨hx hone, hy hone⟩⟩
    · rintro ⟨⟨hdx, hdy⟩, harrives⟩
      exact ⟨⟨hdx, fun hone => (harrives (hlast hone)).1⟩, ⟨hdy, fun hone => (harrives (hlast hone)).2⟩,
        ⟨hdx, fun hone => (harrives hone).1⟩, ⟨hdy, fun hone => (harrives hone).2⟩⟩
  · cases h

/-! ## Pixels -/

theorem number_half : number 0.5 = 1 / 2 := by
  have hhalf : (0.5 : Float).toModel.unpack = .finite .positive (2 ^ 52) (-53) (by decide) := rfl
  rw [number, hhalf, value]
  show ((2 ^ 52 : ℕ) : ℤ) * (2 : ℚ) ^ (-53 : ℤ) = 1 / 2
  norm_num

theorem one_le_grain : 1 ≤ grain := by
  rw [← two_zpow_grain]
  exact one_le_zpow₀ (by norm_num) (by norm_num)

/-- **Finite coordinates, and no others, lie in a column or row.** -/
theorem round_ok_iff {x : Float} : (∃ n, round x = .ok n) ↔ x.isFinite = true := by
  constructor
  · rintro ⟨n, h⟩
    unfold round at h
    split at h
    · next hfloor =>
      have hsum : (x + 0.5).isFinite = true := by
        cases hparts : parts (x + 0.5) with
        | finite negative m q => exact isFinite_of_parts hparts
        | _ =>
          have hfloor' : floor? (x + 0.5) = some _ := hfloor
          rw [floor?, hparts] at hfloor'
          cases hfloor'
      exact (isFinite_of_add hsum).1
    · cases h
  · intro h
    have hhalf : (0.5 : Float).isFinite = true := half_below.isFinite (by decide)
    have hsum : (x + 0.5).isFinite = true := by
      rw [(add_roundsTo h hhalf).isFinite_iff, number_half]
      have hgrain := one_le_grain
      have hx := abs_number_le h
      have htriangle := abs_add_le (number x) (1 / 2)
      rw [abs_of_pos (by norm_num : (0 : ℚ) < 1 / 2)] at htriangle
      unfold limit
      linarith
    obtain ⟨n, hn⟩ := floor_of_isFinite hsum
    have hfloor : Scalar.floor? (x + Scalar.half) = some n := hn
    exact ⟨n, by rw [round, hfloor]⟩

/-- What lies in no column or row fails as what it is. -/
theorem round_error {x : Float} {e : Error} (h : round x = .error e) :
    e = .nanToInteger ∨ e = .infinityToInteger := by
  unfold round at h
  split at h
  · cases h
  · cases h
    split
    · exact .inl rfl
    · exact .inr rfl

/-- The pixels between finite ends are those of a walk. -/
theorem pixels_of_isFinite {r : Segment Float} (h : isFinite r = true) :
    ∃ p q, pixelAt r.x0 r.y0 = .ok p ∧ pixelAt r.x1 r.y1 = .ok q ∧ pixels r = .ok (walk p q) := by
  rw [finite_iff] at h
  simp only [coordinates, List.forall_mem_cons, List.not_mem_nil, false_implies, implies_true,
    and_true, ← round_ok_iff] at h
  obtain ⟨⟨x0, hx0⟩, ⟨y0, hy0⟩, ⟨x1, hx1⟩, ⟨y1, hy1⟩⟩ := h
  have hstart : pixelAt r.x0 r.y0 = .ok ⟨x0, y0⟩ := by rw [pixelAt, hx0, hy0]; rfl
  have hgoal : pixelAt r.x1 r.y1 = .ok ⟨x1, y1⟩ := by rw [pixelAt, hx1, hy1]; rfl
  exact ⟨⟨x0, y0⟩, ⟨x1, y1⟩, hstart, hgoal, by rw [pixels, hstart, hgoal]; rfl⟩

theorem pixelAt_ok {x y : Float} {p : Pixel} (h : pixelAt x y = .ok p) :
    x.isFinite = true ∧ y.isFinite = true := by
  obtain ⟨n, hx, h⟩ := bind_ok h
  obtain ⟨m, hy, -⟩ := bind_ok h
  exact ⟨round_ok_iff.mp ⟨n, hx⟩, round_ok_iff.mp ⟨m, hy⟩⟩

theorem pixelAt_error {x y : Float} {e : Error} (h : pixelAt x y = .error e) :
    e = .nanToInteger ∨ e = .infinityToInteger := by
  rcases bind_error h with hx | ⟨n, -, h⟩
  · exact round_error hx
  · rcases bind_error h with hy | ⟨m, -, h⟩
    · exact round_error hy
    · cases h

theorem pixels_error {r : Segment Float} {e : Error} (h : pixels r = .error e) :
    e = .nanToInteger ∨ e = .infinityToInteger := by
  rcases bind_error h with hstart | ⟨p, -, h⟩
  · exact pixelAt_error hstart
  · rcases bind_error h with hgoal | ⟨q, -, h⟩
    · exact pixelAt_error hgoal
    · cases h

/-- **Ends that are not finite lie in no pixels.** -/
theorem pixels_ok_iff {r : Segment Float} : (∃ walk, pixels r = .ok walk) ↔ isFinite r = true := by
  constructor
  · rintro ⟨walk, h⟩
    obtain ⟨p, hstart, h⟩ := bind_ok h
    obtain ⟨q, hgoal, -⟩ := bind_ok h
    obtain ⟨hx0, hy0⟩ := pixelAt_ok hstart
    obtain ⟨hx1, hy1⟩ := pixelAt_ok hgoal
    rw [finite_iff]
    simp only [coordinates, List.forall_mem_cons, List.not_mem_nil, false_implies, implies_true, and_true]
    exact ⟨hx0, hy0, hx1, hy1⟩
  · intro h
    obtain ⟨p, q, -, -, hpixels⟩ := pixels_of_isFinite h
    exact ⟨walk p q, hpixels⟩

/-! ## Drawing -/

section

variable {segments : List (Segment Float)} {screen : Screen}

theorem visits_of_isFinite
    (h : ∀ r ∈ clipAll (Scalar.ofInt screen.width) (Scalar.ofInt screen.height) segments, isFinite r = true) :
    ∃ walks, visits segments screen = .ok walks :=
  mapM_defined fun r hr => pixels_ok_iff.mpr (h r hr)

theorem visits_of_not_isFinite {r : Segment Float}
    (hr : r ∈ clipAll (Scalar.ofInt screen.width) (Scalar.ofInt screen.height) segments)
    (h : isFinite r = false) :
    ∃ e, visits segments screen = .error e ∧ (e = .nanToInteger ∨ e = .infinityToInteger) := by
  cases hvisits : visits segments screen with
  | ok walks =>
    have hfinite := pixels_ok_iff.mp ((mapM_results hvisits).2 r hr)
    rw [h] at hfinite
    cases hfinite
  | error e =>
    obtain ⟨-, r', -, -, -, herror⟩ := mapM_error_iff.mp hvisits
    exact ⟨e, rfl, pixels_error herror⟩

end

/-- **Drawing is defined unless clipping overflows.** The ends of what is seen of a segment are finite just
in case the differences between its ends are, and their sums with its start where the segment is seen to its
end. Finite ends lie in pixels, and the walk from one to the other, which has no bound, ends and visits the
pixels of the segment. So a drawing whose parts inside all have finite ends colours the pixels of its walks,
and any other one fails at the conversion of what is no number or infinite. -/
theorem drawn_unless_overflow {v : Value} {c : Rgb} (hcolor : Rgb.showable v = .ok c)
    (segments : List (Segment Float)) (screen : Screen) :
    (∀ width height s r, clip? width height s = some r →
      (isFinite r = true ↔
        Spans s ∧ ((1.0 : Float) ≤ exit (borders width height s) → Arrives s))) ∧
    (∀ r : Segment Float, isFinite r = true →
      ∃ p q, pixelAt r.x0 r.y0 = .ok p ∧ pixelAt r.x1 r.y1 = .ok q ∧ ∀ ps,
        (Course.between p q).Walks ⟨p, (Course.between p q).dx + (Course.between p q).dy⟩ ps ↔
          pixels r = .ok ps) ∧
    ((∀ r ∈ clipAll (Scalar.ofInt screen.width) (Scalar.ofInt screen.height) segments, isFinite r = true) →
      ∃ walks, visits segments screen = .ok walks ∧
        drawSegments segments v screen = .ok (paintAll c (screen, 0) walks.flatten)) ∧
    ∀ r ∈ clipAll (Scalar.ofInt screen.width) (Scalar.ofInt screen.height) segments, isFinite r = false →
      ∃ e, drawSegments segments v screen = .error e ∧ (e = .nanToInteger ∨ e = .infinityToInteger) := by
  refine ⟨fun width height s r h => clip?_isFinite_iff h, ?walks, ?drawn, ?failed⟩
  case walks =>
    intro r hr
    obtain ⟨p, q, hstart, hgoal, hpixels⟩ := pixels_of_isFinite hr
    refine ⟨p, q, hstart, hgoal, fun ps => ?_⟩
    rw [walks_iff, hpixels, Except.ok.injEq, eq_comm]
  case drawn =>
    intro hfinite
    obtain ⟨walks, hwalks⟩ := visits_of_isFinite hfinite
    refine ⟨walks, hwalks, ?_⟩
    rw [drawSegments_of_showable hcolor, drawIn, hwalks]
    exact congrArg Except.ok (foldl_paintAll c (screen, 0) walks)
  case failed =>
    intro r hr hinfinite
    obtain ⟨e, hvisits, he⟩ := visits_of_not_isFinite hr hinfinite
    refine ⟨e, ?_, he⟩
    rw [drawSegments_of_showable hcolor, drawIn, hvisits]
    rfl

/-- A line across the picture is drawn; one with an infinite end is left out. -/
theorem drawn_unless_overflow_row :
    ∃ walks, visits [⟨-2.0, 0.25, 9.0, 0.25⟩, ⟨0.0, 1.0 / 0.0, 1.0, 1.0⟩] (.blank 3 2 .white) = .ok walks ∧
      drawSegments [⟨-2.0, 0.25, 9.0, 0.25⟩, ⟨0.0, 1.0 / 0.0, 1.0, 1.0⟩] (.str "#0000ff")
        (.blank 3 2 .white) = .ok (paintAll ⟨0, 0, 255⟩ (.blank 3 2 .white, 0) walks.flatten) :=
  (drawn_unless_overflow (ok_of_toOption (by decide +kernel))
    [⟨-2.0, 0.25, 9.0, 0.25⟩, ⟨0.0, 1.0 / 0.0, 1.0, 1.0⟩] (.blank 3 2 .white)).2.2.1 (by decide +kernel)

/-- **Finite ends are not enough.** A line from `-1e308` to `1e308` crosses the picture. The difference
between its ends is an infinity, what is seen of it starts at what is no number, and it cannot be drawn. -/
theorem overflowing_line : ∃ r e,
    isFinite (⟨-1e308, 0.0, 1e308, 5.0⟩ : Segment Float) = true ∧
    clip? (Scalar.ofInt 8) (Scalar.ofInt 8) ⟨-1e308, 0.0, 1e308, 5.0⟩ = some r ∧
    isFinite r = false ∧ Scalar.isNaN r.x0 = true ∧
    drawSegments [⟨-1e308, 0.0, 1e308, 5.0⟩] (.str "#0000ff") (.blank 8 8 .white) = .error e := by
  have hclip : (clip? (Scalar.ofInt 8) (Scalar.ofInt 8) (⟨-1e308, 0.0, 1e308, 5.0⟩ : Segment Float)).map
      (fun r => (isFinite r, Scalar.isNaN r.x0)) = some (false, true) := by decide +kernel
  obtain ⟨r, hr, hends⟩ := Option.map_eq_some_iff.mp hclip
  obtain ⟨hinfinite, hnan⟩ := Prod.mk.inj hends
  have hseen : r ∈ clipAll (Scalar.ofInt 8) (Scalar.ofInt 8) [(⟨-1e308, 0.0, 1e308, 5.0⟩ : Segment Float)] :=
    List.mem_filterMap.mpr ⟨_, List.mem_singleton_self _, hr⟩
  obtain ⟨e, hvisits, -⟩ := @visits_of_not_isFinite _ (.blank 8 8 .white) r hseen hinfinite
  have hcolor : Rgb.showable (.str "#0000ff") = .ok ⟨0, 0, 255⟩ := ok_of_toOption (by decide +kernel)
  refine ⟨r, e, by decide +kernel, hr, hinfinite, hnan, ?_⟩
  rw [drawSegments_of_showable hcolor, drawIn, hvisits]
  rfl

end Wireframe.Raster
