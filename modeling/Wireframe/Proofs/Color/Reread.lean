import Wireframe.Proofs.Color.Range
import Wireframe.Proofs.Dict
import Wireframe.Proofs.Document.Labels
import Wireframe.Proofs.Raster.Draw
import Wireframe.Run.Preparation

/-!
# `Wireframe.Proofs.Color.Reread` — colours that are read again

Options keep colours as whole numbers. Every copy of the options, the picture and every drawing read
those numbers again as if they had been given by the user. Whole numbers that are all 0 or 1 are then
taken for shares of full light, and negative ones are cut off. So a colour survives exactly if it is
black, or has no negative component and one of at least 2; every other colour is changed at the first
reading and never comes back.

## Contents
- `Rgb.again`, `Rgb.ofValue_toValue`: one more reading.
- `Rgb.Steady`, `again_eq_iff`, `Rereads.again_ne`: the colours that survive.
- `Options.Copied`, `Copied.colors`: copies of options.
- `color_kept_iff_steady` assembles the results.
-/

namespace Wireframe

open Document

/-! ## One more reading -/

namespace Rgb

/-- Whether all components can be shares of full light. -/
def looksShared (c : Rgb) : Bool := c.toList.all fun n => n == 0 || n == 1

/-- The colour that comes of reading one again. -/
def again (c : Rgb) : Rgb :=
  if c.looksShared then ⟨255 * c.red, 255 * c.green, 255 * c.blue⟩
  else ⟨max 0 c.red, max 0 c.green, max 0 c.blue⟩

/-- The components that colours can have. -/
def InRange (c : Rgb) : Prop := ∀ n ∈ c.toList, -15 ≤ n ∧ n ≤ 255

theorem inRange_iff (c : Rgb) : c.InRange ↔
    (-15 ≤ c.red ∧ c.red ≤ 255) ∧ (-15 ≤ c.green ∧ c.green ≤ 255) ∧ -15 ≤ c.blue ∧ c.blue ≤ 255 := by
  simp only [InRange, toList, List.forall_mem_cons, List.not_mem_nil, false_implies, implies_true,
    and_true]

/-- A whole number in the range of components as a double: it stays finite, is a share only if it is 0
or 1, and is rounded to itself. -/
theorem ofInt_component {n : Int} (hlower : -15 ≤ n) (hupper : n ≤ 255) :
    (Decimal.ofInt n).isFinite = true ∧
      Rgba.isShare (Decimal.ofInt n) = (n == 0 || n == 1) ∧
      Decimal.round? (Decimal.ofInt n) = some n := by
  have hall := forall_component (p := fun n => (Decimal.ofInt n).isFinite &&
    Rgba.isShare (Decimal.ofInt n) == (n == 0 || n == 1) && Decimal.round? (Decimal.ofInt n) == some n)
    (by decide +kernel) hlower hupper
  rw [Bool.and_eq_true, Bool.and_eq_true] at hall
  obtain ⟨⟨hfinite, hshare⟩, hround⟩ := hall
  exact ⟨hfinite, eq_of_beq hshare, eq_of_beq hround⟩

theorem floatOfInt_component {n : Int} (hlower : -15 ≤ n) (hupper : n ≤ 255) :
    floatOfInt n = .ok (Decimal.ofInt n) := by
  simp only [floatOfInt, (ofInt_component hlower hupper).1, if_true]

theorem toByte_component {n : Int} (hlower : -15 ≤ n) (hupper : n ≤ 255) :
    Rgba.toByte (Decimal.ofInt n) = .ok (max 0 n) := by
  simp only [Rgba.toByte, (ofInt_component hlower hupper).2.2]
  rw [Int.min_eq_right hupper]

/-- The share that is read is full light or none. -/
theorem ofShare_clamp {n : Int} (h : (n == 0 || n == 1) = true) :
    ofShare (Rgba.clamp (Decimal.ofInt n)) = 255 * n := by
  have hzero : ofShare (Rgba.clamp (Decimal.ofInt 0)) = 255 * 0 := by decide +kernel
  have hone : ofShare (Rgba.clamp (Decimal.ofInt 1)) = 255 * 1 := by decide
  rcases Bool.or_eq_true_iff.mp h with h | h
  · rw [eq_of_beq h]
    exact hzero
  · rw [eq_of_beq h]
    exact hone

/-- **One more reading of a colour.** -/
theorem ofValue_toValue {c : Rgb} (h : c.InRange) : ofValue c.toValue = .ok c.again := by
  obtain ⟨⟨hr0, hr1⟩, ⟨hg0, hg1⟩, hb0, hb1⟩ := (inRange_iff c).mp h
  have hfloats : Value.toFloats [.int c.red, .int c.green, .int c.blue] =
      .ok [Decimal.ofInt c.red, Decimal.ofInt c.green, Decimal.ofInt c.blue] := by
    have hr := floatOfInt_component hr0 hr1
    have hg := floatOfInt_component hg0 hg1
    have hb := floatOfInt_component hb0 hb1
    simp only [Value.toFloats, Value.toFloat, hr, hg, hb]
    rfl
  have hread : Rgba.ofValue c.toValue = Rgba.ofComponents (Decimal.ofInt c.red)
      (Decimal.ofInt c.green) (Decimal.ofInt c.blue) none := by
    show Rgba.ofSequence c.toValue [.int c.red, .int c.green, .int c.blue] = _
    unfold Rgba.ofSequence
    rw [hfloats]
    rfl
  have hshares : ([Decimal.ofInt c.red, Decimal.ofInt c.green, Decimal.ofInt c.blue].all Rgba.isShare) =
      c.looksShared := by
    simp only [List.all_cons, List.all_nil, looksShared, toList, (ofInt_component hr0 hr1).2.1,
      (ofInt_component hg0 hg1).2.1, (ofInt_component hb0 hb1).2.1]
  have hbyte : ∀ n : Int, n ≤ 255 → ofShare (Rgba.share (max 0 n)) = max 0 n := by
    intro n hn
    exact ofShare_share (by omega) (by omega)
  rw [ofValue, hread]
  cases hlooks : c.looksShared with
  | true =>
    have hred : (c.red == 0 || c.red == 1) = true ∧ (c.green == 0 || c.green == 1) = true ∧
        (c.blue == 0 || c.blue == 1) = true := by
      simpa [looksShared, toList] using hlooks
    simp only [Rgba.ofComponents, Option.toList_none, List.append_nil, hshares, hlooks, if_true, again]
    rw [← ofShare_clamp hred.1, ← ofShare_clamp hred.2.1, ← ofShare_clamp hred.2.2]
    rfl
  | false =>
    have halpha : Rgba.toByte 255.0 = .ok 255 := rfl
    simp only [Rgba.ofComponents, Option.toList_none, List.append_nil, hshares, hlooks,
      Bool.false_eq_true, if_false, again, toByte_component hr0 hr1, toByte_component hg0 hg1,
      toByte_component hb0 hb1, Option.getD_none, halpha]
    show Except.ok (⟨ofShare (Rgba.share (max 0 c.red)), ofShare (Rgba.share (max 0 c.green)),
      ofShare (Rgba.share (max 0 c.blue))⟩ : Rgb) = _
    rw [hbyte c.red hr1, hbyte c.green hg1, hbyte c.blue hb1]

/-! ## Colours that survive -/

/-- A colour that is black, or has no negative component and one of at least 2. -/
def Steady (c : Rgb) : Prop :=
  (∀ n ∈ c.toList, 0 ≤ n ∧ n ≤ 255) ∧ (c = black ∨ ∃ n ∈ c.toList, 2 ≤ n)

instance (c : Rgb) : Decidable c.Steady := inferInstanceAs (Decidable (_ ∧ _))

theorem steady_iff (c : Rgb) : c.Steady ↔
    ((0 ≤ c.red ∧ c.red ≤ 255) ∧ (0 ≤ c.green ∧ c.green ≤ 255) ∧ 0 ≤ c.blue ∧ c.blue ≤ 255) ∧
      (c.red = 0 ∧ c.green = 0 ∧ c.blue = 0 ∨ 2 ≤ c.red ∨ 2 ≤ c.green ∨ 2 ≤ c.blue) := by
  obtain ⟨r, g, b⟩ := c
  simp [Steady, toList, black]

theorem looksShared_iff (c : Rgb) : c.looksShared = true ↔
    (c.red = 0 ∨ c.red = 1) ∧ (c.green = 0 ∨ c.green = 1) ∧ (c.blue = 0 ∨ c.blue = 1) := by
  simp [looksShared, toList]

theorem again_of_looksShared {c : Rgb} (h : c.looksShared = true) :
    c.again = ⟨255 * c.red, 255 * c.green, 255 * c.blue⟩ := if_pos h

theorem again_of_not_looksShared {c : Rgb} (h : ¬ c.looksShared = true) :
    c.again = ⟨max 0 c.red, max 0 c.green, max 0 c.blue⟩ := if_neg h

theorem again_eq_iff {c : Rgb} (h : c.InRange) : c.again = c ↔ c.Steady := by
  have hrange := (inRange_iff c).mp h
  have hext : ∀ d : Rgb, d = c ↔ d.red = c.red ∧ d.green = c.green ∧ d.blue = c.blue := by
    intro d
    cases c
    cases d
    simp only [Rgb.mk.injEq]
  rw [hext, steady_iff]
  by_cases hshared : c.looksShared = true
  · rw [again_of_looksShared hshared]
    have hbits := (looksShared_iff c).mp hshared
    dsimp only
    omega
  · rw [again_of_not_looksShared hshared]
    have hbits := mt (looksShared_iff c).mpr hshared
    dsimp only
    omega

/-- No component is negative after a reading. -/
theorem again_nonneg (c : Rgb) : 0 ≤ c.again.red ∧ 0 ≤ c.again.green ∧ 0 ≤ c.again.blue := by
  by_cases hshared : c.looksShared = true
  · rw [again_of_looksShared hshared]
    have hbits := (looksShared_iff c).mp hshared
    dsimp only
    omega
  · rw [again_of_not_looksShared hshared]
    dsimp only
    omega

theorem again_inRange {c : Rgb} (h : c.InRange) : c.again.InRange := by
  have hrange := (inRange_iff c).mp h
  rw [inRange_iff]
  by_cases hshared : c.looksShared = true
  · rw [again_of_looksShared hshared]
    have hbits := (looksShared_iff c).mp hshared
    dsimp only
    omega
  · rw [again_of_not_looksShared hshared]
    dsimp only
    omega

/-- A colour of shares is steady once it is read again. -/
theorem again_steady {c : Rgb} (h : c.looksShared = true) : c.again.Steady := by
  have hbits := (looksShared_iff c).mp h
  rw [again_of_looksShared h, steady_iff]
  dsimp only
  omega

/-- A colour and what becomes of it by reading it again. -/
inductive Rereads (c : Rgb) : Rgb → Prop
  | start : Rereads c c
  | again {d : Rgb} : Rereads c d → Rereads c d.again

theorem Rereads.inRange {c d : Rgb} (h : Rereads c d) (hc : c.InRange) : d.InRange := by
  induction h with
  | start => exact hc
  | again _ ih => exact again_inRange ih

/-- A steady colour stays. -/
theorem Rereads.eq_of_steady {c d : Rgb} (h : Rereads c d) (hc : c.InRange) (hsteady : c.Steady) :
    d = c := by
  induction h with
  | start => rfl
  | again _ ih =>
    rw [ih]
    exact (again_eq_iff hc).mpr hsteady

/-- A colour of shares is steady from the first reading on. -/
theorem Rereads.steady_of_looksShared {c d : Rgb} (h : Rereads c d) (hc : c.InRange)
    (hshared : c.looksShared = true) : d = c ∨ d.Steady := by
  induction h with
  | start => exact .inl rfl
  | again hd ih =>
    rcases ih with rfl | hsteady
    · exact .inr (again_steady hshared)
    · rw [(again_eq_iff (hd.inRange hc)).mpr hsteady]
      exact .inr hsteady

/-- **A colour that is not steady never comes back.** -/
theorem Rereads.again_ne {c d : Rgb} (h : Rereads c d) (hc : c.InRange) (hsteady : ¬ c.Steady) :
    d.again ≠ c := by
  intro heq
  -- a colour that comes back is not negative, so only shares are left
  have hshared : c.looksShared = true := by
    have hnonneg := again_nonneg d
    have hrange := (inRange_iff c).mp hc
    rw [heq] at hnonneg
    rw [steady_iff] at hsteady
    rw [looksShared_iff]
    omega
  rcases h.steady_of_looksShared hc hshared with rfl | hd
  · exact hsteady ((again_eq_iff hc).mp heq)
  · rw [(again_eq_iff (h.inRange hc)).mpr hd] at heq
    rw [heq] at hd
    exact hsteady hd

/-- What is read again can be shown. -/
theorem showable_toValue {c : Rgb} (h : c.InRange) : showable c.toValue = .ok c.again := by
  have hnonneg := again_nonneg c
  have hrange := (inRange_iff _).mp (again_inRange h)
  have hshowable : c.again.isShowable = true := by
    simp [isShowable, toList, hnonneg, hrange]
  simp only [showable, ofValue_toValue h]
  show (if c.again.isShowable then _ else _) = _
  rw [if_pos hshowable]
  rfl

end Rgb

namespace Options

/-- Options that are accepted have their colours read from what was given, and a size. -/
theorem ofFields_ok {fs : Fields} {o : Options} (h : ofFields fs = .ok o) :
    Rgb.ofValue (content fs "background") = .ok o.background ∧
      Rgb.ofValue (content fs "line_color") = .ok o.lineColor ∧ 0 < o.width ∧ 0 < o.height := by
  simp only [ofFields] at h
  split at h
  · cases h
  · obtain ⟨background, hbackground, h⟩ := bind_ok h
    obtain ⟨lineColor, hline, h⟩ := bind_ok h
    split at h
    · cases h
    · obtain ⟨width, -, h⟩ := bind_ok h
      obtain ⟨height, -, h⟩ := bind_ok h
      obtain ⟨step, -, h⟩ := bind_ok h
      obtain ⟨digits, -, h⟩ := bind_ok h
      obtain ⟨duration, -, h⟩ := bind_ok h
      split at h
      · cases h
      · next hsize =>
        split at h
        · cases h
        · obtain ⟨format, -, h⟩ := bind_ok h
          cases h
          have hpositive : 0 < width ∧ 0 < height := by simpa using hsize
          refine ⟨hbackground, hline, ?_, ?_⟩
          · show 0 < width.toNat
            omega
          · show 0 < height.toNat
            omega

/-- Other values for some options, but not for the colours. -/
def SparesColors (overrides : List (Label × Value)) : Prop :=
  ∀ e ∈ overrides, e.2.isNull = false →
    (e.1 == .text "background") = false ∧ (e.1 == .text "line_color") = false

/-- Options that are copied from others any number of times, with other values but not other colours. -/
inductive Copied (o : Options) : Options → Prop
  | start : Copied o o
  | copy {o' o'' : Options} {overrides : List (Label × Value)} : Copied o o' →
      SparesColors overrides → o'.withOverrides overrides = .ok o'' → Copied o o''

/-- A copy reads the colours again. -/
theorem withOverrides_colors {o o' : Options} {overrides : List (Label × Value)}
    (hspares : SparesColors overrides) (h : o.withOverrides overrides = .ok o') :
    Rgb.ofValue o.background.toValue = .ok o'.background ∧
      Rgb.ofValue o.lineColor.toValue = .ok o'.lineColor := by
  obtain ⟨hbackground, hline, -⟩ := ofFields_ok h
  have hspared : ∀ e ∈ overrides.filter fun e => !e.2.isNull,
      (e.1 == .text "background") = false ∧ (e.1 == .text "line_color") = false := by
    intro e he
    obtain ⟨hmem, hpresent⟩ := List.mem_filter.mp he
    exact hspares e hmem (by simpa using hpresent)
  have hcontent : ∀ name v, o.fields.find? (.text name) = some v →
      (∀ e ∈ overrides.filter fun e => !e.2.isNull, (e.1 == .text name) = false) →
      content (o.fields.merge (overrides.filter fun e => !e.2.isNull)) name = v := by
    intro name v hfound hothers
    rw [content, Dict.find_merge_ne hothers, hfound]
  rw [hcontent "background" o.background.toValue rfl fun e he => (hspared e he).1] at hbackground
  rw [hcontent "line_color" o.lineColor.toValue rfl fun e he => (hspared e he).2] at hline
  exact ⟨hbackground, hline⟩

/-- The colours of copies are read again and again. -/
theorem Copied.colors {o o' : Options} (h : o.Copied o') (hbackground : o.background.InRange)
    (hline : o.lineColor.InRange) :
    Rgb.Rereads o.background o'.background ∧ Rgb.Rereads o.lineColor o'.lineColor := by
  induction h with
  | start => exact ⟨.start, .start⟩
  | @copy o' o'' overrides _ hspares hcopy ih =>
    obtain ⟨hb, hl⟩ := withOverrides_colors hspares hcopy
    rw [Rgb.ofValue_toValue (ih.1.inRange hbackground)] at hb
    rw [Rgb.ofValue_toValue (ih.2.inRange hline)] at hl
    rw [← Except.ok.inj hb, ← Except.ok.inj hl]
    exact ⟨ih.1.again, ih.2.again⟩

/-- The size of options stays positive. -/
theorem Copied.size {fs : Fields} {o o' : Options} (hbuilt : ofFields fs = .ok o) (h : o.Copied o') :
    0 < o'.width ∧ 0 < o'.height := by
  cases h with
  | start => exact (ofFields_ok hbuilt).2.2
  | copy _ _ hcopy => exact (ofFields_ok hcopy).2.2

/-- The picture of options is cleared to the background as it is read again. -/
theorem screen_clear {o : Options} (hsize : 0 < o.width ∧ 0 < o.height)
    (hbackground : o.background.InRange) :
    o.screen.map Screen.clear = .ok (.blank o.width o.height o.background.again) := by
  have hwidth : ¬ (o.width : Int) ≤ 0 := by omega
  have hheight : ¬ (o.height : Int) ≤ 0 := by omega
  have hshown := Rgb.showable_toValue hbackground
  simp only [screen, Screen.ofValues, Value.toInteger, hshown]
  show Except.map Screen.clear (if (o.width : Int) ≤ 0 then _
    else if (o.height : Int) ≤ 0 then _
    else .ok (Screen.blank o.width o.height o.background.again)) = _
  rw [if_neg hwidth, if_neg hheight]
  rfl

end Options

/-! ## Drawing in a colour -/

namespace Raster

/-- A segment that is a point. -/
def dot : Segment Float := ⟨0.0, 0.0, 0.0, 0.0⟩

/-- Different colours are told apart by a drawing. -/
theorem drawIn_injective {c d : Rgb}
    (h : ∀ (segments : List (Segment Float)) screen,
      drawIn c segments screen = drawIn d segments screen) : c = d := by
  have hdot : (visits [dot] (.blank 1 1 .white)).toOption = some [[⟨0, 0⟩]] := by decide +kernel
  have hpixel : ∀ c : Rgb, drawIn c [dot] (.blank 1 1 .white) = .ok (⟨1, 1, .white, #[c]⟩, 1) := by
    intro c
    cases hvisits : visits [dot] (.blank 1 1 .white) with
    | error e =>
      rw [hvisits] at hdot
      cases hdot
    | ok ps =>
      rw [hvisits] at hdot
      rw [drawIn, hvisits, Option.some.inj hdot]
      rfl
  have hboth := h [dot] (.blank 1 1 .white)
  rw [hpixel, hpixel] at hboth
  simpa using hboth

end Raster

/-! ## From configuration to pixels -/

/-- **Colours that are kept.** A colour that can be read is read from itself as itself exactly if it is
    steady; and exactly then options that are given it, and all their copies, clear the picture to it
    and draw in it. -/
theorem color_kept_iff_steady {v : Value} {c : Rgb} (hv : Rgb.ofValue v = .ok c) :
    (Rgb.ofValue c.toValue = .ok c ↔ c.Steady) ∧
      ∀ fs o o', Options.ofFields fs = .ok o → o.Copied o' →
        (Options.content fs "background" = v →
          (o'.screen.map Screen.clear = .ok (.blank o'.width o'.height c) ↔ c.Steady)) ∧
        (Options.content fs "line_color" = v →
          ((∀ (segments : List (Segment Float)) screen,
            Raster.drawSegments segments o'.lineColor.toValue screen =
              Raster.drawIn c segments screen) ↔ c.Steady)) := by
  have hrange : c.InRange := Rgb.ofValue_range hv
  refine ⟨?_, fun fs o o' hbuilt hcopied => ?_⟩
  · rw [Rgb.ofValue_toValue hrange, Except.ok.injEq]
    exact Rgb.again_eq_iff hrange
  -- after the copies and one more reading the colour is itself exactly if it is steady
  have hkept : ∀ d, Rgb.Rereads c d → (d.again = c ↔ c.Steady) := by
    intro d hd
    refine ⟨fun heq => ?_, fun hsteady => ?_⟩
    · by_cases hsteady : c.Steady
      · exact hsteady
      · exact absurd heq (hd.again_ne hrange hsteady)
    · rw [hd.eq_of_steady hrange hsteady]
      exact (Rgb.again_eq_iff hrange).mpr hsteady
  obtain ⟨hbackground, hline, -⟩ := Options.ofFields_ok hbuilt
  have hcolors := hcopied.colors (Rgb.ofValue_range hbackground) (Rgb.ofValue_range hline)
  refine ⟨fun hcontent => ?_, fun hcontent => ?_⟩
  · rw [hcontent, hv] at hbackground
    rw [← Except.ok.inj hbackground] at hcolors
    rw [Options.screen_clear (hcopied.size hbuilt) (hcolors.1.inRange hrange), ← hkept _ hcolors.1,
      Except.ok.injEq]
    refine ⟨fun hblank => ?_, fun heq => by rw [heq]⟩
    exact congrArg Screen.background hblank
  · rw [hcontent, hv] at hline
    rw [← Except.ok.inj hline] at hcolors
    have hshown := Rgb.showable_toValue (hcolors.2.inRange hrange)
    rw [← hkept _ hcolors.2]
    refine ⟨fun hdraw => Raster.drawIn_injective fun segments screen => ?_, fun heq segments screen => ?_⟩
    · rw [← Raster.drawSegments_of_showable hshown]
      exact hdraw segments screen
    · rw [Raster.drawSegments_of_showable hshown, heq]

theorem color_kept_blue :
    Rgb.ofValue (.str "#336699") = .ok ⟨51, 102, 153⟩ ∧
      Rgb.ofValue (Rgb.toValue ⟨51, 102, 153⟩) = .ok ⟨51, 102, 153⟩ := by
  have hread : Rgb.ofValue (.str "#336699") = .ok ⟨51, 102, 153⟩ := by rfl
  have hsteady : Rgb.Steady ⟨51, 102, 153⟩ := by decide
  exact ⟨hread, (color_kept_iff_steady hread).1.mpr hsteady⟩

/-- The darkest grey is not kept: it is read again as white. -/
theorem color_lost_grey :
    Rgb.ofValue (.str "#010101") = .ok ⟨1, 1, 1⟩ ∧
      Rgb.ofValue (Rgb.toValue ⟨1, 1, 1⟩) = .ok ⟨255, 255, 255⟩ := by
  refine ⟨?_, ?_⟩
  · rfl
  · rfl

end Wireframe
