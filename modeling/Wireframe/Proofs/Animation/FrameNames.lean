import Wireframe.Animation.Frames
import Mathlib

/-!
# `Wireframe.Proofs.Animation.FrameNames` — the names of frames sort in the order of the frames

The number in the name of a frame is padded to a width. Numbers that fit into it have names of one length,
and lists of digits of one length stand in the order of their numbers: the first digit in which they differ
decides both. The width of a number of frames is such that all their numbers fit, whatever the minimum is.
There are texts of this width only below a bound, and a width only if the last number can be written.

## Contents
- `ofDigitChars_lt`, `digits_lt_iff`, `eq_of_digits`: lists of digits and their numbers.
- `zeroPadded_isDigit`, `ofDigitChars_zeroPadded`, `length_zeroPadded`, `zeroPadded_of_digits`: padded numbers.
- `frameName_toList`, `length_frameName`, `frameName_lt_iff`: names of one width.
- `between?`, `frameNumber?`, `frameNumber_eq_some`: the number in a name.
- `lt_of_frameWidth`, `digitsOfValues_eq`, `isWidth_frameWidth`: the width of a number of frames.
- `nameOfValues_eq`: names from values.
- `frame_names_ordered` assembles the results; `wide_frames_nameless`: a minimum beyond the bound.
-/

namespace Wireframe.Animation

open Document

/-! ## Lists of digits -/

/-- The value of a digit. -/
theorem digit_value {c : Char} (h : c.isDigit = true) : 48 ≤ c.toNat ∧ c.toNat ≤ 57 :=
  Char.isDigit_iff_toNat.mp h

/-- The first digit counts a power of ten. -/
theorem ofDigitChars_first (c : Char) (cs : List Char) :
    Nat.ofDigitChars 10 (c :: cs) 0 = 10 ^ cs.length * (c.toNat - 48) + Nat.ofDigitChars 10 cs 0 := by
  rw [Nat.ofDigitChars_cons, Nat.ofDigitChars_eq_ofDigitChars_zero, Nat.mul_zero, Nat.zero_add]
  rfl

/-- So many digits stand for a number below that power of ten. -/
theorem ofDigitChars_lt {ds : List Char} (h : ∀ c ∈ ds, c.isDigit = true) :
    Nat.ofDigitChars 10 ds 0 < 10 ^ ds.length := by
  induction ds with
  | nil => simp
  | cons c cs ih =>
    have hc := digit_value (h c List.mem_cons_self)
    have hcs := ih fun x hx => h x (List.mem_cons_of_mem c hx)
    have hfirst : 10 ^ cs.length * (c.toNat - 48) ≤ 10 ^ cs.length * 9 :=
      Nat.mul_le_mul_left _ (by omega)
    rw [ofDigitChars_first, List.length_cons, Nat.pow_succ]
    omega

/-- **Lists of digits of one length stand in the order of their numbers.** -/
theorem digits_lt_iff {ds es : List Char} (hds : ∀ c ∈ ds, c.isDigit = true)
    (hes : ∀ c ∈ es, c.isDigit = true) (hlength : ds.length = es.length) :
    ds < es ↔ Nat.ofDigitChars 10 ds 0 < Nat.ofDigitChars 10 es 0 := by
  induction ds generalizing es with
  | nil =>
    rw [List.eq_nil_of_length_eq_zero hlength.symm]
    simp
  | cons d ds ih =>
    obtain ⟨e, es, rfl⟩ := List.exists_cons_of_length_pos (hlength ▸ Nat.succ_pos _ : 0 < es.length)
    have hlength : ds.length = es.length := Nat.succ.inj hlength
    have hd := digit_value (hds d List.mem_cons_self)
    have he := digit_value (hes e List.mem_cons_self)
    have hds' : ∀ c ∈ ds, c.isDigit = true := fun c hc => hds c (List.mem_cons_of_mem d hc)
    have hes' : ∀ c ∈ es, c.isDigit = true := fun c hc => hes c (List.mem_cons_of_mem e hc)
    have hdsLt := ofDigitChars_lt hds'
    have hesLt := ofDigitChars_lt hes'
    rw [List.cons_lt_cons_iff, ih hds' hes' hlength, ofDigitChars_first, ofDigitChars_first, hlength]
    rw [hlength] at hdsLt
    -- what follows the first digit counts less than one of it
    rcases Nat.lt_trichotomy d.toNat e.toNat with hlt | heq | hgt
    · have hpow : 10 ^ es.length * (d.toNat - 48 + 1) ≤ 10 ^ es.length * (e.toNat - 48) :=
        Nat.mul_le_mul_left _ (by omega)
      rw [Nat.mul_add] at hpow
      exact iff_of_true (.inl hlt) (by omega)
    · obtain rfl := Char.toNat_inj.mp heq
      simp
    · have hpow : 10 ^ es.length * (e.toNat - 48 + 1) ≤ 10 ^ es.length * (d.toNat - 48) :=
        Nat.mul_le_mul_left _ (by omega)
      rw [Nat.mul_add] at hpow
      refine iff_of_false ?_ (by omega)
      rintro (hlt | ⟨rfl, -⟩)
      · exact absurd (show d.toNat < e.toNat from hlt) (by omega)
      · omega

/-- Lists of digits of one length and one number are equal. -/
theorem eq_of_digits {ds es : List Char} (hds : ∀ c ∈ ds, c.isDigit = true)
    (hes : ∀ c ∈ es, c.isDigit = true) (hlength : ds.length = es.length)
    (h : Nat.ofDigitChars 10 ds 0 = Nat.ofDigitChars 10 es 0) : ds = es := by
  rcases lt_trichotomy ds es with hlt | heq | hgt
  · rw [digits_lt_iff hds hes hlength] at hlt
    omega
  · exact heq
  · rw [digits_lt_iff hes hds hlength.symm] at hgt
    omega

/-! ## Padded numbers -/

theorem zeroPadded_isDigit (width n : Nat) : ∀ c ∈ (zeroPadded width n).toList, c.isDigit = true := by
  intro c hc
  rw [zeroPadded, String.toList_ofList] at hc
  rcases List.mem_append.mp hc with hzero | hdigit
  · rw [List.eq_of_mem_replicate hzero]
    rfl
  · exact Nat.isDigit_of_mem_toDigits (by decide) (by decide) hdigit

/-- The zeros before a number do not count. -/
theorem ofDigitChars_zeroPadded (width n : Nat) : Nat.ofDigitChars 10 (zeroPadded width n).toList 0 = n := by
  simp [zeroPadded, Nat.ofDigitChars_append]

/-- A number that fits is padded to the width. -/
theorem length_zeroPadded {width n : Nat} (hwidth : 0 < width) (hn : n < 10 ^ width) :
    (zeroPadded width n).toList.length = width := by
  have hdigits := (Nat.length_toDigits_le_iff (b := 10) (by decide) hwidth).mpr hn
  rw [zeroPadded, String.toList_ofList, List.length_append, List.length_replicate]
  omega

/-- Every list of digits is a padded number. -/
theorem zeroPadded_of_digits {ds : List Char} (hds : ∀ c ∈ ds, c.isDigit = true) (hne : ds ≠ []) :
    (zeroPadded ds.length (Nat.ofDigitChars 10 ds 0)).toList = ds :=
  eq_of_digits (zeroPadded_isDigit _ _) hds
    (length_zeroPadded (List.length_pos_of_ne_nil hne) (ofDigitChars_lt hds)) (ofDigitChars_zeroPadded _ _)

/-- A number with zeros before it is made of digits. -/
theorem zeroPadded_toList (width n : Nat) :
    ∃ c cs, (zeroPadded width n).toList = c :: cs ∧ ∀ d ∈ c :: cs, d.isDigit = true := by
  have hne : (zeroPadded width n).toList ≠ [] := by
    rw [zeroPadded, String.toList_ofList]
    exact fun h => Nat.toDigits_ne_nil (List.append_eq_nil_iff.mp h).2
  obtain ⟨c, cs, hcs⟩ := List.exists_cons_of_ne_nil hne
  have hdigits := zeroPadded_isDigit width n
  rw [hcs] at hdigits
  exact ⟨c, cs, hcs, hdigits⟩

/-! ## Names -/

theorem frameName_toList (basename : String) (index digits : Nat) (ending : String) :
    (frameName basename index digits ending).toList =
      basename.toList ++ (zeroPadded digits index).toList ++ '.' :: (withoutDots ending).toList := by
  simp [frameName]

/-- Names of one width have one length. -/
theorem length_frameName (basename ending : String) {digits k : Nat} (hdigits : 0 < digits)
    (hk : k < 10 ^ digits) :
    (frameName basename k digits ending).length =
      basename.length + digits + (1 + (withoutDots ending).length) := by
  rw [← String.length_toList, frameName_toList]
  simp only [List.length_append, List.length_cons, String.length_toList]
  rw [← String.length_toList (s := zeroPadded digits k), length_zeroPadded hdigits hk]
  omega

/-- What stands before two lists does not order them. -/
theorem append_lt_append_left {cs ds es : List Char} : cs ++ ds < cs ++ es ↔ ds < es := by
  induction cs with
  | nil => simp
  | cons c cs ih => simp [ih]

/-- What stands behind two lists of one length does not order them. -/
theorem append_lt_append_right {cs ds es : List Char} (hlength : ds.length = es.length) :
    ds ++ cs < es ++ cs ↔ ds < es := by
  induction ds generalizing es with
  | nil =>
    rw [List.eq_nil_of_length_eq_zero hlength.symm]
    simp
  | cons d ds ih =>
    obtain ⟨e, es, rfl⟩ := List.exists_cons_of_length_pos (hlength ▸ Nat.succ_pos _ : 0 < es.length)
    simp [List.cons_lt_cons_iff, ih (Nat.succ.inj hlength)]

/-- **Names of one width sort in the order of their numbers.** -/
theorem frameName_lt_iff (basename ending : String) {digits j k : Nat} (hdigits : 0 < digits)
    (hj : j < 10 ^ digits) (hk : k < 10 ^ digits) :
    frameName basename j digits ending < frameName basename k digits ending ↔ j < k := by
  have hlength : (zeroPadded digits j).toList.length = (zeroPadded digits k).toList.length := by
    rw [length_zeroPadded hdigits hj, length_zeroPadded hdigits hk]
  rw [String.lt_iff_toList_lt, frameName_toList, frameName_toList, List.append_assoc, List.append_assoc,
    append_lt_append_left, append_lt_append_right hlength,
    digits_lt_iff (zeroPadded_isDigit _ _) (zeroPadded_isDigit _ _) hlength,
    ofDigitChars_zeroPadded, ofDigitChars_zeroPadded]

/-! ## The number in a name -/

theorem strip_eq_some {start cs rest : List Char} : strip? start cs = some rest ↔ cs = start ++ rest := by
  unfold strip?
  split
  · next h =>
    obtain ⟨more, rfl⟩ := List.isPrefixOf_iff_prefix.mp h
    simp [eq_comm]
  · next h =>
    refine iff_of_false nofun ?_
    rintro rfl
    exact h (List.isPrefixOf_iff_prefix.mpr (List.prefix_append _ _))

/-- What stands between the base name and the ending. -/
def between? (basename ending : String) (cs : List Char) : Option (List Char) :=
  (strip? ('.' :: (withoutDots ending).toList).reverse cs.reverse).bind fun rest =>
    strip? basename.toList rest.reverse

theorem between_eq_some {basename ending : String} {cs middle : List Char} :
    between? basename ending cs = some middle ↔
      cs = basename.toList ++ middle ++ '.' :: (withoutDots ending).toList := by
  simp only [between?, Option.bind_eq_some_iff, strip_eq_some]
  constructor
  · rintro ⟨rest, hcs, hrest⟩
    rw [← List.reverse_inj, hcs, ← hrest]
    simp
  · rintro rfl
    exact ⟨(basename.toList ++ middle).reverse, by simp, by simp⟩

/-- The number in the name of a frame. -/
def frameNumber? (basename ending name : String) : Option Nat :=
  (between? basename ending name.toList).bind fun ds =>
    if ds ≠ [] ∧ ∀ c ∈ ds, c.isDigit = true then some (Nat.ofDigitChars 10 ds 0) else none

/-- **The number in a name is that of the frame.** It is found in the names of frames alone. -/
theorem frameNumber_eq_some {basename ending name : String} {k : Nat} :
    frameNumber? basename ending name = some k ↔ ∃ digits, name = frameName basename k digits ending := by
  simp only [frameNumber?, Option.bind_eq_some_iff, between_eq_some, Option.ite_none_right_eq_some,
    Option.some.injEq]
  constructor
  · rintro ⟨ds, hname, ⟨hne, hds⟩, rfl⟩
    refine ⟨ds.length, ?_⟩
    rw [← String.toList_inj, frameName_toList, zeroPadded_of_digits hds hne, hname]
  · rintro ⟨digits, rfl⟩
    obtain ⟨c, cs, hcs, hdigits⟩ := zeroPadded_toList digits k
    exact ⟨_, frameName_toList .., ⟨by simp [hcs], zeroPadded_isDigit _ _⟩, ofDigitChars_zeroPadded _ _⟩

/-! ## The width of a number of frames -/

/-- The width is positive, whatever the minimum is. -/
theorem frameWidth_pos (count minimum : Int) : 0 < (frameWidth count minimum).toNat := by
  have hlast := Nat.length_toDigits_pos (b := 10) (n := (count - 1).toNat)
  rw [frameWidth]
  omega

/-- The numbers of all frames fit into the width. -/
theorem lt_of_frameWidth {n k : Nat} (minimum : Int) (hk : k < n) :
    k < 10 ^ (frameWidth n minimum).toNat := by
  have hlast : (Nat.toDigits 10 ((n : Int) - 1).toNat).length ≤ (frameWidth n minimum).toNat := by
    rw [frameWidth]
    omega
  have hfits := (Nat.length_toDigits_le_iff (by decide) (frameWidth_pos n minimum)).mp hlast
  omega

theorem frameWidth_of_ok {count minimum d : Int} (h : frameDigits count minimum = .ok d) :
    frameWidth count minimum = d := by
  unfold frameDigits at h
  split at h
  · exact Except.ok.inj h
  · cases h

/-- The width is found if the last number can be written. -/
theorem digitsOfValues_eq (n : Nat) (minimum : Int) :
    digitsOfValues (.int n) (.int minimum) =
      if isWritableInt (n - 1 : Nat) = true then .ok (frameWidth n minimum) else .error .unwritable := by
  have hlast : ((n : Int) - 1).toNat = n - 1 := by omega
  show frameDigits n minimum = _
  rw [frameDigits, hlast]

/-- The numbers that can be written are those below a power of ten. -/
theorem isWritableInt_iff {n : Nat} : isWritableInt n = true ↔ n < 10 ^ Decimal.maxDigits := by
  rw [isWritableInt, decide_eq_true_iff, Int.natAbs_natCast,
    Nat.length_toDigits_le_iff (by decide) (by decide)]

/-- A number below one that can be written can be written, too. -/
theorem isWritableInt_of_le {j k : Nat} (hjk : j ≤ k) (h : isWritableInt k = true) :
    isWritableInt j = true := isWritableInt_iff.mpr (Nat.lt_of_le_of_lt hjk (isWritableInt_iff.mp h))

/-- **A text can be as wide as the numbers of the frames, unless the minimum is out of all bounds.** -/
theorem isWidth_frameWidth {n : Nat} (minimum : Int) (h : isWritableInt (n - 1 : Nat) = true) :
    isWidth (frameWidth n minimum) = true ↔ minimum < 2 ^ 63 := by
  have hlast : ((n : Int) - 1).toNat = n - 1 := by omega
  have hdigits : (Nat.toDigits 10 (n - 1)).length ≤ 4300 := of_decide_eq_true h
  rw [isWidth, frameWidth, hlast, Bool.and_eq_true, decide_eq_true_iff, decide_eq_true_iff]
  omega

/-- From values the same names are made, as long as the number can be written and a text can be so wide. -/
theorem nameOfValues_eq (basename ending : String) {k : Nat} (digits : Int)
    (hk : isWritableInt k = true) :
    nameOfValues basename (.int k) (.int digits) (.str ending) =
      if isWidth digits = true then .ok (frameName basename k digits.toNat ending) else .error .notNumber := by
  have hsign : (Value.int k).isBelowZero = .ok false := by
    show Except.ok (decide ((k : Int) < 0)) = Except.ok false
    rw [decide_eq_false (by omega)]
  show (do
    if ← (Value.int k).isBelowZero then
      throw (if (Value.int k).isWritable then .negativeFrame (Value.int k).text else .unwritable)
    if !isWidth digits then throw .notNumber
    if !isWritableInt k then throw .unwritable
    return frameName basename k digits.toNat ending : Except Error String) = _
  rw [hsign, hk]
  cases isWidth digits <;> rfl

/-- **The names of frames sort in the order of the frames.** With the width that is made for the number of
    frames and for any minimum, the names of two frames have one length and differ, and the name of the
    earlier frame comes first. The number of every frame can be read in its name. From values the same
    width is made if the last number can be written, and then the same names, if a text can be so wide. -/
theorem frame_names_ordered (basename ending : String) (minimum : Int) (n : Nat) :
    let width := frameWidth n minimum
    let name := fun k => frameName basename k width.toNat ending
    (∀ j k, j < k → k < n →
      (name j).length = (name k).length ∧ name j ≠ name k ∧ name j < name k) ∧
      (∀ k, frameNumber? basename ending (name k) = some k) ∧
      digitsOfValues (.int n) (.int minimum) =
        (if isWritableInt (n - 1 : Nat) = true then .ok width else .error .unwritable) ∧
      (isWritableInt (n - 1 : Nat) = true → ∀ k < n,
        nameOfValues basename (.int k) (.int width) (.str ending) =
          if minimum < 2 ^ 63 then .ok (name k) else .error .notNumber) := by
  intro width name
  have hwidth : 0 < width.toNat := frameWidth_pos n minimum
  refine ⟨?_, fun k => frameNumber_eq_some.mpr ⟨_, rfl⟩, digitsOfValues_eq n minimum, ?_⟩
  · intro j k hjk hkn
    have hj : j < 10 ^ width.toNat := lt_of_frameWidth minimum (Nat.lt_trans hjk hkn)
    have hk : k < 10 ^ width.toNat := lt_of_frameWidth minimum hkn
    have hlt : name j < name k := (frameName_lt_iff basename ending hwidth hj hk).mpr hjk
    refine ⟨?_, ne_of_lt hlt, hlt⟩
    show (frameName ..).length = (frameName ..).length
    rw [length_frameName basename ending hwidth hj, length_frameName basename ending hwidth hk]
  · intro hlast k hkn
    have hbound : isWidth width = true ↔ minimum < 2 ^ 63 := isWidth_frameWidth minimum hlast
    rw [nameOfValues_eq basename ending width (isWritableInt_of_le (by omega) hlast)]
    simp only [hbound]
    rfl

/-- A thousand frames and one: the last number needs a digit more than all others. -/
theorem frame_names_ordered_thousand :
    digitsOfValues (.int 1001) (.int 0) = .ok 4 ∧
      nameOfValues "anim" (.int 999) (.int 4) (.str "png") = .ok "anim0999.png" ∧
      nameOfValues "anim" (.int 1000) (.int 4) (.str "png") = .ok "anim1000.png" ∧
      "anim0999.png" < "anim1000.png" := by
  have hwidth : frameWidth (1001 : Nat) 0 = 4 := by decide
  have hlast : isWritableInt (1001 - 1 : Nat) = true := by decide
  have hearlier : frameName "anim" 999 4 "png" = "anim0999.png" := by decide
  have hlater : frameName "anim" 1000 4 "png" = "anim1000.png" := by decide
  obtain ⟨hordered, -, hdigits, hnames⟩ := frame_names_ordered "anim" "png" 0 1001
  rw [if_pos hlast, hwidth] at hdigits
  have hnamed := hnames hlast
  simp only [hwidth] at hordered hnamed
  have hlt := (hordered 999 1000 (by decide) (by decide)).2.2
  refine ⟨hdigits, ?_, ?_, ?_⟩
  · rw [← hearlier]
    exact hnamed 999 (by decide)
  · rw [← hlater]
    exact hnamed 1000 (by decide)
  · rw [← hearlier, ← hlater]
    exact hlt

/-- For a minimum beyond all texts the width is made all the same, and then no frame has a name. For too
    many frames to write the number of the last one there is no width. -/
theorem wide_frames_nameless : digitsOfValues (.int 2) (.int (2 ^ 63)) = .ok (2 ^ 63) ∧
    (∀ k < 2, nameOfValues "b" (.int (k : Nat)) (.int (2 ^ 63)) (.str "png") = .error .notNumber) ∧
    digitsOfValues (.int (10 ^ Decimal.maxDigits + 1 : Nat)) (.int 3) = .error .unwritable := by
  have hwidth : frameWidth (2 : Nat) (2 ^ 63) = 2 ^ 63 := by decide
  have hlong : ¬isWritableInt (10 ^ Decimal.maxDigits + 1 - 1 : Nat) = true := by
    rw [isWritableInt_iff, Nat.add_sub_cancel]
    exact Nat.lt_irrefl _
  refine ⟨?_, ?_, ?_⟩
  · exact (digitsOfValues_eq 2 (2 ^ 63)).trans (by rw [hwidth]; rfl)
  · intro k hk
    rw [nameOfValues_eq "b" "png" (2 ^ 63) (isWritableInt_of_le (Nat.le_of_lt hk) (by decide))]
    rfl
  · rw [digitsOfValues_eq, if_neg hlong]

end Wireframe.Animation
