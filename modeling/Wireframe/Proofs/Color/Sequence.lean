import Wireframe.Proofs.Color.Hex
import Wireframe.Proofs.Decimal.Magnitude
import Wireframe.Proofs.Failure

/-!
# `Wireframe.Proofs.Color.Sequence` — colours from sequences

A sequence is a colour when it has three or four items, each item has a double and each double is finite.
Its components are shares of full light then, and as whole numbers they lie between 0 and 255. All other
sequences are refused. Mostly the failure is one of value; but an integer beyond the doubles and an
infinity lead to a failure of size, while a double that is no number leads to one of value.

## Contents
- `round_defined`, `toByte_defined`, `toByte_kind`: components as bytes.
- `ofComponents_error`, `ofComponents_defined`, `ofComponents_shares`: colours of three or four doubles.
- `TooLarge`, `Components`: sequences whose numbers are too large, and those that are colours.
- `ofSequence_defined`, `ofSequence_kind`, `ofSequence_shares`: colours of sequences.
- `sequence_colors` assembles the results; `sequence_infinite`: an infinity is no failure of value.
-/

namespace Wireframe

open Document

/-! ## Components as bytes -/

/-- Doubles have a nearest whole number when they are finite. -/
theorem round_defined {x : Float} : (∃ n, Decimal.round? x = some n) ↔ x.isFinite = true := by
  rw [Decimal.isFinite_iff]
  constructor
  · rintro ⟨n, hn⟩ hfield
    rw [Decimal.exponentField_eq] at hfield
    simp only [Decimal.round?, Decimal.parts, hfield, beq_self_eq_true, if_true] at hn
    split at hn
    · next hparts => split at hparts <;> cases hparts
    · cases hn
  · intro hfield
    obtain ⟨negative, m, q, hparts⟩ := Decimal.parts_of_field hfield
    rw [Decimal.round?, hparts]
    exact ⟨_, rfl⟩

/-- Doubles are finite, infinite or no number. -/
theorem isInf_of_not_finite {x : Float} (h : x.isFinite = false) : x.isInf = !x.isNaN := by
  show Float.Model.UnpackedFloat.isInf x.toModel.unpack = !Float.Model.UnpackedFloat.isNaN x.toModel.unpack
  have hunpack : Float.Model.UnpackedFloat.isFinite x.toModel.unpack = false := h
  cases hx : x.toModel.unpack with
  | notANumber => rfl
  | infinity sign => rfl
  | zero sign =>
    rw [hx] at hunpack
    cases hunpack
  | finite sign m e hm =>
    rw [hx] at hunpack
    cases hunpack

namespace Rgba

theorem toByte_defined {x : Float} : (∃ n, toByte x = .ok n) ↔ x.isFinite = true := by
  rw [← round_defined]
  unfold toByte
  cases Decimal.round? x with
  | none => exact ⟨nofun, nofun⟩
  | some n => exact ⟨fun _ => ⟨n, rfl⟩, fun _ => ⟨_, rfl⟩⟩

/-- A component that has no byte fails for its size when it is infinite. -/
theorem toByte_kind {x : Float} {e : Error} (h : toByte x = .error e) :
    x.isFinite = false ∧ (e.kind = .overflow ↔ x.isInf = true) := by
  have hfinite : x.isFinite = false := by
    rw [← Bool.not_eq_true, ← toByte_defined]
    rintro ⟨n, hn⟩
    cases hn.symm.trans h
  refine ⟨hfinite, ?_⟩
  rw [isInf_of_not_finite hfinite]
  unfold toByte at h
  split at h
  · cases h
  · cases h
    cases x.isNaN <;> decide

theorem toByte_fails {x : Float} (h : x.isInf = true) : ∃ e, toByte x = .error e := by
  have hfinite : ¬ x.isFinite = true := by
    intro hfinite
    have hinf : Float.Model.UnpackedFloat.isInf x.toModel.unpack = true := h
    have hfin : Float.Model.UnpackedFloat.isFinite x.toModel.unpack = true := hfinite
    cases hx : x.toModel.unpack <;> rw [hx] at hinf hfin
    case infinity sign => cases hfin
    all_goals cases hinf
  cases hx : toByte x with
  | error e => exact ⟨e, rfl⟩
  | ok n => exact absurd (toByte_defined.mp ⟨n, hx⟩) hfinite

/-- Shares of full light are finite. -/
theorem isFinite_of_isShare {x : Float} (h : isShare x = true) : x.isFinite = true := by
  show Float.Model.UnpackedFloat.isFinite x.toModel.unpack = true
  rcases Light.share_cases h with ⟨sign, hx⟩ | ⟨m, k, hm, hx, -⟩
  · rw [hx]
    rfl
  · rw [hx]
    rfl

/-! ## The components of a colour -/

theorem toByte_full : toByte 255.0 = .ok 255 := by
  have hround : Decimal.round? 255.0 = some 255 := by decide
  rw [toByte, hround]
  rfl

/-- A colour fails as the first of its components that has no byte; shares always have one. -/
theorem ofComponents_error {x y z : Float} {opacity : Option Float} {e : Error} :
    ofComponents x y z opacity = .error e ↔ ([x, y, z] ++ opacity.toList).mapM toByte = .error e := by
  by_cases hshares : ([x, y, z] ++ opacity.toList).all isShare = true
  · have hbytes : ∀ w ∈ [x, y, z] ++ opacity.toList, ∃ n, toByte w = .ok n := by
      intro w hw
      exact toByte_defined.mpr (isFinite_of_isShare (List.all_eq_true.mp hshares w hw))
    obtain ⟨ns, hns⟩ := mapM_defined hbytes
    simp only [ofComponents, hshares, if_true, hns, pure, Except.pure, reduceCtorEq]
  · simp only [ofComponents, hshares, Bool.false_eq_true, if_false]
    -- an opacity that is left out is full, which has a byte
    cases opacity with
    | none =>
      simp only [Option.toList_none, List.append_nil, Option.getD_none, toByte_full, List.mapM_cons,
        List.mapM_nil]
      cases toByte x <;> cases toByte y <;> cases toByte z <;>
        simp only [bind, Except.bind, pure, Except.pure, Except.error.injEq, reduceCtorEq]
    | some a =>
      simp only [Option.toList_some, Option.getD_some, List.cons_append, List.nil_append,
        List.mapM_cons, List.mapM_nil]
      cases toByte x <;> cases toByte y <;> cases toByte z <;> cases toByte a <;>
        simp only [bind, Except.bind, pure, Except.pure, Except.error.injEq, reduceCtorEq]

theorem ofComponents_defined {x y z : Float} {opacity : Option Float} :
    (∃ c, ofComponents x y z opacity = .ok c) ↔
      ∀ w ∈ [x, y, z] ++ opacity.toList, w.isFinite = true := by
  have herror : ∀ {e}, ofComponents x y z opacity = .error e ↔
      ([x, y, z] ++ opacity.toList).mapM toByte = .error e := ofComponents_error
  constructor
  · rintro ⟨c, hc⟩ w hw
    cases hbytes : ([x, y, z] ++ opacity.toList).mapM toByte with
    | error e => cases hc.symm.trans (herror.mpr hbytes)
    | ok ns => exact toByte_defined.mp ((mapM_results hbytes).2 w hw)
  · intro hfinite
    obtain ⟨ns, hns⟩ := mapM_defined fun w hw => toByte_defined.mpr (hfinite w hw)
    cases hcolor : ofComponents x y z opacity with
    | error e => cases hns.symm.trans (herror.mp hcolor)
    | ok c => exact ⟨c, rfl⟩

/-- The components of a sequence are shares of full light. -/
theorem ofComponents_shares {x y z : Float} {opacity : Option Float} {c : Rgba}
    (h : ofComponents x y z opacity = .ok c) : ∀ w ∈ c.toList, isShare w = true := by
  have hone : isShare 1.0 = true := by decide
  have hbyte : ∀ {w n}, toByte w = .ok n → isShare (share n) = true := by
    intro w n hw
    have hrange := toByte_range hw
    exact (isShare_share (by omega) hrange.2).mpr hrange.1
  simp only [ofComponents] at h
  split at h
  · next hshares =>
    cases h
    rw [List.all_append, Bool.and_eq_true] at hshares
    have hgiven : ∀ w ∈ [x, y, z], isShare w = true := List.all_eq_true.mp hshares.1
    have hopacity : isShare (opacity.getD 1.0) = true := by
      cases opacity with
      | none => exact hone
      | some a => exact List.all_eq_true.mp hshares.2 a (by simp)
    intro w hw
    have hmem : w ∈ ([x, y, z] ++ [opacity.getD 1.0]).map clamp := by
      simpa [toList, hshares] using hw
    obtain ⟨u, hu, rfl⟩ := List.mem_map.mp hmem
    apply isShare_clamp
    rcases List.mem_append.mp hu with hu | hu
    · exact hgiven u hu
    · rw [List.mem_singleton.mp hu]
      exact hopacity
  · obtain ⟨r, hr, h⟩ := bind_ok h
    obtain ⟨g, hg, h⟩ := bind_ok h
    obtain ⟨b, hb, h⟩ := bind_ok h
    obtain ⟨a, ha, h⟩ := bind_ok h
    cases h
    simp only [toList, ofBytes, List.forall_mem_cons]
    exact ⟨hbyte hr, hbyte hg, hbyte hb, hbyte ha, List.forall_mem_nil _⟩

/-! ## Sequences -/

/-- Sequences whose first item without a double is an integer, or which have doubles of which the first
    that is not finite is an infinity. -/
inductive TooLarge : List Value → Prop
  | integer {before after : List Value} {n : Int} (numbers : ∀ w ∈ before, ∃ x, w.toFloat = .ok x)
      (large : (Decimal.ofInt n).isFinite = false) : TooLarge (before ++ .int n :: after)
  | infinity {items : List Value} {before after : List Float} {x : Float}
      (numbers : Value.toFloats items = .ok (before ++ x :: after))
      (finite : ∀ y ∈ before, y.isFinite = true) (infinite : x.isInf = true) : TooLarge items

/-- The doubles of a sequence that is a colour. -/
structure Components (items : List Value) (xs : List Float) : Prop where
  size : items.length = 3 ∨ items.length = 4
  numbers : Value.toFloats items = .ok xs
  finite : ∀ x ∈ xs, x.isFinite = true

section

variable {v : Value} {items : List Value} {e : Error}

theorem ofSequence_length (h : ¬ (items.length = 3 ∨ items.length = 4)) :
    ofSequence v items = .error .colorLength := by
  have hcheck : (items.length != 3 && items.length != 4) = true := by
    simpa [not_or] using h
  simp only [ofSequence, hcheck, if_true]

theorem ofSequence_unread (h : items.length = 3 ∨ items.length = 4)
    (hitems : Value.toFloats items = .error e) : ofSequence v items =
      .error (if e.kind = .overflow then e else (Error.colorItems v).settled) := by
  have hcheck : ¬ (items.length != 3 && items.length != 4) = true := by
    simpa [Decidable.imp_iff_not_or, or_comm] using h
  have hkind := toFloats_within items e hitems
  simp only [List.mem_cons, List.not_mem_nil, or_false] at hkind
  simp only [ofSequence, if_neg hcheck, hitems]
  rcases hkind with hk | hk | hk
  · rw [hk]
    rfl
  · rw [hk]
    rfl
  · rw [hk]
    rfl

theorem ofSequence_read {xs : List Float} (h : items.length = 3 ∨ items.length = 4)
    (hitems : Value.toFloats items = .ok xs) : ∃ x y z opacity, xs = [x, y, z] ++ opacity.toList ∧
      ofSequence v items = ofComponents x y z opacity := by
  have hcheck : ¬ (items.length != 3 && items.length != 4) = true := by
    simpa [Decidable.imp_iff_not_or, or_comm] using h
  have hlength : xs.length = items.length := 
    (mapM_results (by rwa [← toFloats_eq_mapM])).1
  rw [← hlength] at h
  match xs, h with
  | [x, y, z], _ => exact ⟨x, y, z, none, rfl, by simp only [ofSequence, if_neg hcheck, hitems]⟩
  | [x, y, z, a], _ => exact ⟨x, y, z, some a, rfl, by simp only [ofSequence, if_neg hcheck, hitems]⟩

/-- An integer beyond the doubles after items that have doubles. -/
theorem toFloats_large {before : List Value} (numbers : ∀ w ∈ before, ∃ x, w.toFloat = .ok x) {n : Int}
    (large : (Decimal.ofInt n).isFinite = false) (after : List Value) :
    Value.toFloats (before ++ .int n :: after) = .error .tooLarge := by
  rw [toFloats_eq_mapM]
  exact mapM_error_iff.mpr ⟨before, .int n, after, rfl, numbers, toFloat_large.mpr large⟩

/-- Where some item has no double, the failure tells whether the numbers are too large. -/
theorem tooLarge_of_unread (hitems : Value.toFloats items = .error e) :
    TooLarge items ↔ e.kind = .overflow := by
  constructor
  · intro h
    cases h with
    | @integer before after n numbers large =>
      cases hitems.symm.trans (toFloats_large numbers large after)
      rfl
    | infinity numbers => cases hitems.symm.trans numbers
  · intro hkind
    rw [toFloats_eq_mapM] at hitems
    obtain ⟨before, w, after, rfl, numbers, hw⟩ := mapM_error_iff.mp hitems
    obtain ⟨n, rfl, rfl⟩ := (toFloat_kind hw).mp hkind
    exact .integer numbers (toFloat_large.mp hw)

/-- Where some double has no byte, the failure tells whether the numbers are too large. -/
theorem tooLarge_of_read {xs : List Float} (hitems : Value.toFloats items = .ok xs)
    (hxs : xs.mapM toByte = .error e) : TooLarge items ↔ e.kind = .overflow := by
  constructor
  · intro h
    cases h with
    | integer numbers large => cases hitems.symm.trans (toFloats_large numbers large _)
    | @infinity _ before after x numbers finite infinite =>
      cases hitems.symm.trans numbers
      obtain ⟨e', hx⟩ := toByte_fails infinite
      have hfirst := mapM_error_iff.mpr ⟨before, x, after, rfl,
        fun y hy => toByte_defined.mpr (finite y hy), hx⟩
      cases hxs.symm.trans hfirst
      exact (toByte_kind hx).2.mpr infinite
  · intro hkind
    obtain ⟨before, x, after, rfl, finite, hx⟩ := mapM_error_iff.mp hxs
    exact .infinity hitems (fun y hy => toByte_defined.mp (finite y hy))
      ((toByte_kind hx).2.mp hkind)

/-- A sequence is a colour when it has components, and refused otherwise. -/
theorem ofSequence_defined : (∃ c, ofSequence v items = .ok c) ↔ ∃ xs, Components items xs := by
  by_cases hlength : items.length = 3 ∨ items.length = 4
  · cases hitems : Value.toFloats items with
    | error e =>
      rw [ofSequence_unread hlength hitems]
      refine iff_of_false nofun ?_
      rintro ⟨xs, hxs⟩
      cases hitems.symm.trans hxs.numbers
    | ok xs =>
      obtain ⟨x, y, z, opacity, hxs, hsequence⟩ := ofSequence_read (v := v) hlength hitems
      rw [hsequence, ofComponents_defined, ← hxs]
      constructor
      · exact fun hfinite => ⟨xs, hlength, hitems, hfinite⟩
      · rintro ⟨ys, hys⟩
        cases hitems.symm.trans hys.numbers
        exact hys.finite
  · rw [ofSequence_length hlength]
    exact iff_of_false nofun fun ⟨xs, hxs⟩ => hlength hxs.size

/-- Failures are for the size of numbers just where numbers are too large. -/
theorem ofSequence_kind (h : ofSequence v items = .error e) :
    e.kind = .overflow ↔ (items.length = 3 ∨ items.length = 4) ∧ TooLarge items := by
  by_cases hlength : items.length = 3 ∨ items.length = 4
  · cases hitems : Value.toFloats items with
    | error e' =>
      rw [ofSequence_unread hlength hitems] at h
      cases h
      rw [tooLarge_of_unread hitems]
      by_cases hkind : e'.kind = .overflow
      · rw [if_pos hkind]
        exact ⟨fun hk => ⟨hlength, hk⟩, And.right⟩
      · rw [if_neg hkind]
        -- the message may be beyond writing, but that is a failure of value as well
        have hvalue : (Error.colorItems v).settled.kind = .value := by
          rcases (Error.colorItems v).settled_kind with hk | hk
          · exact hk
          · exact hk
        rw [hvalue]
        exact iff_of_false nofun fun hboth => hkind hboth.2
    | ok xs =>
      obtain ⟨x, y, z, opacity, hxs, hsequence⟩ := ofSequence_read (v := v) hlength hitems
      rw [hsequence, ofComponents_error, ← hxs] at h
      rw [tooLarge_of_read hitems h]
      exact ⟨fun hk => ⟨hlength, hk⟩, And.right⟩
  · rw [ofSequence_length hlength] at h
    cases h
    exact iff_of_false nofun fun hboth => hlength hboth.1

theorem ofSequence_shares {c : Rgba} (h : ofSequence v items = .ok c) :
    ∀ x ∈ c.toList, isShare x = true := by
  unfold ofSequence at h
  split at h
  · cases h
  · split at h
    · exact ofComponents_shares h
    · exact ofComponents_shares h
    · cases h
    · cases h

end

end Rgba

/-- Shares become whole numbers between 0 and 255. -/
theorem Rgb.ofValue_of_shares {v : Value} {c : Rgba} (h : Rgba.ofValue v = .ok c)
    (hshares : ∀ x ∈ c.toList, Rgba.isShare x = true) :
    ∃ d, Rgb.ofValue v = .ok d ∧ ∀ n ∈ d.toList, 0 ≤ n ∧ n ≤ 255 := by
  refine ⟨⟨ofShare c.red, ofShare c.green, ofShare c.blue⟩, by rw [Rgb.ofValue, h]; rfl, ?_⟩
  simp only [Rgba.toList, Rgb.toList, List.forall_mem_cons] at hshares ⊢
  obtain ⟨hred, hgreen, hblue, -⟩ := hshares
  exact ⟨Light.ofShare_range hred, Light.ofShare_range hgreen, Light.ofShare_range hblue,
    List.forall_mem_nil _⟩

/-- **Colours from sequences.** A list or tuple is a colour just when it has three or four items that all
    have finite doubles. The components are shares of full light then, and between 0 and 255 as whole
    numbers. Otherwise it is refused, and with a failure of value, unless three or four numbers are too
    large: that failure is one of size. -/
theorem sequence_colors {v : Value} {items : List Value}
    (h : v.opened = .list items ∨ v.opened = .tuple items) :
    ((∃ c, Rgba.ofValue v = .ok c) ↔ ∃ xs, Rgba.Components items xs) ∧
    (∀ c, Rgba.ofValue v = .ok c → (∀ x ∈ c.toList, Rgba.isShare x = true) ∧
      ∃ d, Rgb.ofValue v = .ok d ∧ ∀ n ∈ d.toList, 0 ≤ n ∧ n ≤ 255) ∧
    ∀ e, Rgba.ofValue v = .error e → Rgb.ofValue v = .error e ∧
      (e.kind = .value ∨ e.kind = .overflow) ∧
      (e.kind = .overflow ↔ (items.length = 3 ∨ items.length = 4) ∧ Rgba.TooLarge items) := by
  have hsequence : Rgba.ofValue v = Rgba.ofSequence v items := by
    unfold Rgba.ofValue
    rcases h with h | h
    · rw [h]
    · rw [h]
  refine ⟨?accepted, ?shares, ?refused⟩
  case accepted =>
    rw [hsequence]
    exact Rgba.ofSequence_defined
  case shares =>
    intro c hc
    have hshares : ∀ x ∈ c.toList, Rgba.isShare x = true := by
      rw [hsequence] at hc
      exact Rgba.ofSequence_shares hc
    exact ⟨hshares, Rgb.ofValue_of_shares hc hshares⟩
  case refused =>
    intro e he
    refine ⟨by rw [Rgb.ofValue, he]; rfl, ?_, ?_⟩
    · simpa [drawFailures] using Rgba.ofValue_within v e he
    · rw [hsequence] at he
      exact Rgba.ofSequence_kind he

/-- A truth value and two numbers, of which one is beyond full light. -/
theorem sequence_colors_mixed :
    ∃ c, Rgba.ofValue (.list [.bool true, .int 300, .float 0.5]) = .ok c ∧
      ∀ x ∈ c.toList, Rgba.isShare x = true := by
  have hcolor := sequence_colors (v := .list [.bool true, .int 300, .float 0.5]) (.inl rfl)
  have hcomponents : Rgba.Components [.bool true, .int 300, .float 0.5] [1.0, Decimal.ofInt 300, 0.5] := by
    refine ⟨.inl rfl, ?_, by decide⟩
    have hfinite : (Decimal.ofInt 300).isFinite = true := by decide
    simp only [Value.toFloats, Value.toFloat, floatOfInt, hfinite, if_true]
    rfl
  obtain ⟨c, hc⟩ := hcolor.1.mpr ⟨_, hcomponents⟩
  exact ⟨c, hc, (hcolor.2.1 c hc).1⟩

/-- An infinity is refused for its size, while a double that is no number is refused as a value. -/
theorem sequence_infinite :
    Rgba.ofValue (.list [.float (1.0 / 0.0), .int 0, .int 0]) = .error .infinityToInteger ∧
      Rgba.ofValue (.list [.float (0.0 / 0.0), .int 0, .int 0]) = .error .nanToInteger ∧
      Error.infinityToInteger.kind = .overflow ∧ Error.nanToInteger.kind = .value := by
  have hzero : Value.toFloats [.int 0, .int 0] = .ok [Decimal.ofInt 0, Decimal.ofInt 0] := by
    have hfinite : (Decimal.ofInt 0).isFinite = true := by decide
    simp only [Value.toFloats, Value.toFloat, floatOfInt, hfinite, if_true]
    rfl
  have hfirst : ∀ {x : Float} {e : Error}, Rgba.toByte x = .error e →
      Rgba.ofValue (.list [.float x, .int 0, .int 0]) = .error e := by
    intro x e hx
    show Rgba.ofSequence (.list [.float x, .int 0, .int 0]) [.float x, .int 0, .int 0] = .error e
    have hitems : Value.toFloats [.float x, .int 0, .int 0] =
        .ok [x, Decimal.ofInt 0, Decimal.ofInt 0] := by
      rw [Value.toFloats, hzero]
      rfl
    have hcolor : Rgba.ofComponents x (Decimal.ofInt 0) (Decimal.ofInt 0) none = .error e :=
      Rgba.ofComponents_error.mpr (mapM_error_iff.mpr ⟨[], x, _, rfl, List.forall_mem_nil _, hx⟩)
    simpa [Rgba.ofSequence, hitems] using hcolor
  have hround : Decimal.round? (1.0 / 0.0) = none ∧ Decimal.round? (0.0 / 0.0) = none := by
    decide
  have hnan : (1.0 / 0.0 : Float).isNaN = false ∧ (0.0 / 0.0 : Float).isNaN = true := by
    decide
  refine ⟨hfirst ?_, hfirst ?_, rfl, rfl⟩
  · simp only [Rgba.toByte, hround.1, hnan.1, Bool.false_eq_true, if_false]
  · simp only [Rgba.toByte, hround.2, hnan.2, if_true]

end Wireframe
