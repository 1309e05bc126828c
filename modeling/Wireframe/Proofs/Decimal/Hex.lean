import Wireframe.Decimal.Reading
import Mathlib.Tactic.IntervalCases

/-!
# `Wireframe.Proofs.Decimal.Hex` — number texts of two characters in base sixteen

A reader of number texts admits more than digits: signs, blanks around the number, marks, underscores, and
the decimal digits of every script. In a text of two characters there is no room for most of that. Two
characters are a number exactly if they are two digits, or one digit with a sign before it or with a blank
beside it.

## Contents
- `IsHexDigit`, `hexValue_eq_some`: digits of base sixteen.
- `hexDigits?`, `hexDigits_single`, `hexDigits_pair`: the digits behind sign and mark.
- `readHex_single`, `readHex_double`: texts of one character and of two.
- `HexPair`, `HexPair.range`, `readHex_eq_some`: what two characters are read as.
-/

namespace Wireframe.Decimal

open Text

/-! ## Digits of base sixteen -/

/-- A digit of base sixteen, in either case. -/
def IsHexDigit (d : Nat) (c : Char) : Prop :=
  d < 16 ∧ (c = Nat.digitChar d ∨ c = (Nat.digitChar d).toUpper)

theorem hexValue_of_isHexDigit {d : Nat} {c : Char} (h : IsHexDigit d c) : hexValue? c = some d := by
  obtain ⟨hd, rfl | rfl⟩ := h
  · interval_cases d <;> rfl
  · interval_cases d <;> rfl

/-- A character between two others has a number between theirs. -/
theorem ofNat_between {a b c : Char} (h : (a ≤ c && c ≤ b) = true) :
    ∃ n, a.toNat ≤ n ∧ n ≤ b.toNat ∧ c = Char.ofNat n := by
  obtain ⟨hlower, hupper⟩ := Bool.and_eq_true_iff.mp h
  exact ⟨c.toNat, of_decide_eq_true hlower, of_decide_eq_true hupper, (Char.ofNat_toNat c).symm⟩

theorem isHexDigit_of_hexValue {d : Nat} {c : Char} (h : hexValue? c = some d) : IsHexDigit d c := by
  unfold hexValue? at h
  -- each of the three rows of digits is gone through
  split at h
  · next hdigit =>
    obtain ⟨n, hlower, hupper, rfl⟩ := ofNat_between hdigit
    have hlower : 48 ≤ n := hlower
    have hupper : n ≤ 57 := hupper
    interval_cases n <;> cases h <;> exact ⟨by decide, .inl rfl⟩
  · split at h
    · next hletter =>
      obtain ⟨n, hlower, hupper, rfl⟩ := ofNat_between hletter
      have hlower : 97 ≤ n := hlower
      have hupper : n ≤ 102 := hupper
      interval_cases n <;> cases h <;> exact ⟨by decide, .inl rfl⟩
    · split at h
      · next hcapital =>
        obtain ⟨n, hlower, hupper, rfl⟩ := ofNat_between hcapital
        have hlower : 65 ≤ n := hlower
        have hupper : n ≤ 70 := hupper
        interval_cases n <;> cases h <;> exact ⟨by decide, .inr rfl⟩
      · cases h

theorem hexValue_eq_some {d : Nat} {c : Char} : hexValue? c = some d ↔ IsHexDigit d c :=
  ⟨isHexDigit_of_hexValue, hexValue_of_isHexDigit⟩

theorem hexValue_filter (c : Char) : (hexValue? c).filter (· < 16) = hexValue? c := by
  cases h : hexValue? c with
  | none => rfl
  | some d => exact if_pos (decide_eq_true (hexValue_eq_some.mp h).1)

namespace IsHexDigit

variable {d : Nat} {c : Char}

/-- Digits are neither blanks nor signs nor marks. -/
theorem bare (h : IsHexDigit d c) :
    isAsciiBlank c = false ∧ c ≠ '-' ∧ c ≠ '+' ∧ asciiLower c ≠ 'x' ∧ c ≠ '#' := by
  obtain ⟨hd, rfl | rfl⟩ := h
  · interval_cases d <;> decide
  · interval_cases d <;> decide

theorem plain (h : IsHexDigit d c) : plainChar c = c := by
  obtain ⟨hd, rfl | rfl⟩ := h
  · interval_cases d <;> rfl
  · interval_cases d <;> rfl

end IsHexDigit

/-! ## Behind sign and mark -/

/-- The digits behind sign and mark as a number. -/
def hexDigits? (negative : Bool) (cs : List Char) : Option Int :=
  (joinDigits? (fun c => (hexValue? c).any (· < 16)) cs).bind fun ds =>
    if ds.isEmpty then none
    else (ds.mapM fun c => (hexValue? c).filter (· < 16)).bind fun digits =>
      some (if negative then -((digits.foldl (fun n d => 16 * n + d) 0 : Nat) : Int)
        else (digits.foldl (fun n d => 16 * n + d) 0 : Nat))

/-- Without underscores nothing is removed. -/
theorem joinDigitsFrom_eq {isDigit : Char → Bool} {cs : List Char} (h : '_' ∉ cs) (before : Bool) :
    joinDigitsFrom? isDigit before cs = some cs := by
  induction cs generalizing before with
  | nil => rfl
  | cons c rest ih =>
    obtain ⟨hc, hrest⟩ := List.ne_and_not_mem_of_not_mem_cons h
    unfold joinDigitsFrom?
    split
    · next hlist => cases hlist
    · next hlist => exact absurd (List.cons.inj hlist).1 (Ne.symm hc)
    · next hlist =>
      cases hlist
      rw [ih hrest]
      rfl

/-- An underscore at the end has no digit behind it. -/
theorem joinDigitsFrom_last (isDigit : Char → Bool) (before : Bool) (cs : List Char) :
    joinDigitsFrom? isDigit before (cs ++ ['_']) = none := by
  induction cs generalizing before with
  | nil => rfl
  | cons c rest ih =>
    show joinDigitsFrom? isDigit before (c :: (rest ++ ['_'])) = none
    unfold joinDigitsFrom?
    split
    · next hlist => cases hlist
    · next hlist =>
      cases hlist
      split
      · split
        · exact ih false
        · rfl
      · rfl
    · next hlist =>
      cases hlist
      rw [ih]
      rfl

theorem hexDigits_single (negative : Bool) (c : Char) :
    hexDigits? negative [c] = (hexValue? c).map fun d : Nat => if negative then -(d : Int) else d := by
  unfold hexDigits? joinDigits?
  by_cases hc : c = '_'
  · subst hc
    rfl
  · rw [joinDigitsFrom_eq (by simpa using Ne.symm hc)]
    simp only [Option.bind_some, List.isEmpty_cons, Bool.false_eq_true, if_false, hexValue_filter, List.mapM_cons,
      List.mapM_nil]
    cases hexValue? c <;> simp

theorem hexDigits_pair (c d : Char) :
    hexDigits? false [c, d] =
      (hexValue? c).bind fun h => (hexValue? d).map fun l : Nat => ((16 * h + l : Nat) : Int) := by
  unfold hexDigits? joinDigits?
  by_cases hd : d = '_'
  · subst hd
    rw [show ([c, '_'] : List Char) = [c] ++ ['_'] from rfl, joinDigitsFrom_last]
    cases hexValue? c <;> rfl
  · by_cases hc : c = '_'
    · subst hc
      rfl
    · rw [joinDigitsFrom_eq (by simpa using ⟨Ne.symm hc, Ne.symm hd⟩)]
      simp only [Option.bind_some, List.isEmpty_cons, Bool.false_eq_true, if_false, hexValue_filter,
        List.mapM_cons, List.mapM_nil]
      cases hexValue? c <;> cases hexValue? d <;> simp

/-! ## Number texts -/

section

variable {s : String} {negative : Bool} {c d : Char} {cs : List Char}

/-- Behind the sign stand the digits, unless a mark does. -/
theorem readHex_of_digits (h : takeSign (core s) = (negative, cs))
    (hmark : ∀ x r, cs = '0' :: x :: r → asciiLower x ≠ 'x') : readHex s = hexDigits? negative cs := by
  unfold readHex readBase hexDigits?
  rw [h]
  simp only [Option.bind_eq_bind]
  split
  · next x r =>
    have hx : (asciiLower x == 'x') = false := beq_eq_false_iff_ne.mpr (hmark x r rfl)
    simp only [hx, Bool.false_eq_true, if_false]
    rfl
  · rfl

/-- A mark alone is no number. -/
theorem readHex_of_mark (h : core s = ['0', d]) (hd : asciiLower d = 'x') : readHex s = none := by
  unfold readHex readBase
  rw [h]
  simp [takeSign, hd, joinDigits?, joinDigitsFrom?]

theorem takeSign_other (hminus : c ≠ '-') (hplus : c ≠ '+') (cs : List Char) :
    takeSign (c :: cs) = (false, c :: cs) := by
  unfold takeSign
  split
  · next hlist => exact absurd (List.cons.inj hlist).1 hminus
  · next hlist => exact absurd (List.cons.inj hlist).1 hplus
  · rfl

theorem readHex_nil (h : core s = []) : readHex s = none := by
  have hsign : takeSign (core s) = (false, []) := by
    rw [h]
    rfl
  rw [readHex_of_digits hsign nofun]
  rfl

/-- One character behind a sign. -/
theorem readHex_signed (h : takeSign (core s) = (negative, [c])) :
    readHex s = (hexValue? c).map fun d : Nat => if negative then -(d : Int) else d := by
  rw [readHex_of_digits h nofun, hexDigits_single]

/-- One character alone. -/
theorem readHex_single (h : core s = [c]) : readHex s = (hexValue? c).map fun d : Nat => (d : Int) := by
  by_cases hminus : c = '-'
  · subst hminus
    have hsign : takeSign (core s) = (true, []) := by rw [h]; rfl
    rw [readHex_of_digits hsign nofun]
    rfl
  · by_cases hplus : c = '+'
    · subst hplus
      have hsign : takeSign (core s) = (false, []) := by rw [h]; rfl
      rw [readHex_of_digits hsign nofun]
      rfl
    · have hsign : takeSign (core s) = (false, [c]) := by rw [h, takeSign_other hminus hplus]
      exact readHex_signed hsign

/-- Two characters, the first of which may be a sign. -/
theorem readHex_double (h : core s = [c, d]) : readHex s =
    if c = '-' then (hexValue? d).map fun l : Nat => -(l : Int)
    else if c = '+' then (hexValue? d).map fun l : Nat => (l : Int)
    else (hexValue? c).bind fun h => (hexValue? d).map fun l : Nat => ((16 * h + l : Nat) : Int) := by
  by_cases hminus : c = '-'
  · subst hminus
    have hsign : takeSign (core s) = (true, [d]) := by rw [h]; rfl
    exact readHex_signed hsign
  · by_cases hplus : c = '+'
    · subst hplus
      have hsign : takeSign (core s) = (false, [d]) := by rw [h]; rfl
      exact readHex_signed hsign
    · have hsign : takeSign (core s) = (false, [c, d]) := by rw [h, takeSign_other hminus hplus]
      rw [if_neg hminus, if_neg hplus]
      by_cases hmark : c = '0' ∧ asciiLower d = 'x'
      · obtain ⟨rfl, hd⟩ := hmark
        -- the letter of the mark is no digit either
        have hnone : hexValue? d = none := by
          cases hvalue : hexValue? d with
          | none => rfl
          | some l => exact absurd hd (isHexDigit_of_hexValue hvalue).bare.2.2.2.1
        rw [readHex_of_mark h hd, hnone]
        rfl
      · rw [readHex_of_digits hsign]
        · exact hexDigits_pair c d
        · rintro x r hlist hx
          cases hlist
          exact hmark ⟨rfl, hx⟩

end

/-! ## Two characters -/

/-- The numbers that two characters are read as. -/
inductive HexPair (a b : Char) : Int → Prop
  | digits {h l : Nat} (high : IsHexDigit h a) (low : IsHexDigit l b) : HexPair a b (16 * h + l : Nat)
  | plus {l : Nat} (sign : a = '+') (low : IsHexDigit l b) : HexPair a b l
  | minus {l : Nat} (sign : a = '-') (low : IsHexDigit l b) : HexPair a b (-l)
  | blankBefore {l : Nat} (blank : isAsciiBlank a = true) (low : IsHexDigit l b) : HexPair a b l
  | blankBehind {l : Nat} (low : IsHexDigit l a) (blank : isAsciiBlank b = true) : HexPair a b l

/-- A sign leaves room for one digit, so that a pair is not far below zero. -/
theorem HexPair.range {a b : Char} {n : Int} (h : HexPair a b n) : -15 ≤ n ∧ n ≤ 255 := by
  cases h with
  | digits high low =>
    have hhigh := high.1
    have hlow := low.1
    omega
  | plus _ low =>
    have hlow := low.1
    omega
  | minus _ low =>
    have hlow := low.1
    omega
  | blankBefore _ low =>
    have hlow := low.1
    omega
  | blankBehind low =>
    have hlow := low.1
    omega

theorem trimBy_pair (p : Char → Bool) (c d : Char) : trimBy p [c, d] =
    if p c then (if p d then [] else [d]) else if p d then [c] else [c, d] := by
  cases hc : p c <;> cases hd : p d <;> simp [trimBy, hc, hd]

/-- What is read of two characters, of which blanks are left out. -/
theorem readHex_trimmed {s : String} {c d : Char} (hcore : core s = trimBy isAsciiBlank [c, d]) {n : Int}
    (h : readHex s = some n) : HexPair c d n := by
  rw [trimBy_pair] at hcore
  by_cases hc : isAsciiBlank c = true
  · by_cases hd : isAsciiBlank d = true
    · rw [if_pos hc, if_pos hd] at hcore
      rw [readHex_nil hcore] at h
      cases h
    · rw [if_pos hc, if_neg hd] at hcore
      rw [readHex_single hcore] at h
      obtain ⟨l, hl, rfl⟩ := Option.map_eq_some_iff.mp h
      exact .blankBefore hc (isHexDigit_of_hexValue hl)
  · by_cases hd : isAsciiBlank d = true
    · rw [if_neg hc, if_pos hd] at hcore
      rw [readHex_single hcore] at h
      obtain ⟨l, hl, rfl⟩ := Option.map_eq_some_iff.mp h
      exact .blankBehind (isHexDigit_of_hexValue hl) hd
    · rw [if_neg hc, if_neg hd] at hcore
      rw [readHex_double hcore] at h
      split at h
      · next hminus =>
        obtain ⟨l, hl, rfl⟩ := Option.map_eq_some_iff.mp h
        exact .minus hminus (isHexDigit_of_hexValue hl)
      · split at h
        · next hplus =>
          obtain ⟨l, hl, rfl⟩ := Option.map_eq_some_iff.mp h
          exact .plus hplus (isHexDigit_of_hexValue hl)
        · obtain ⟨high, hhigh, h⟩ := Option.bind_eq_some_iff.mp h
          obtain ⟨l, hl, rfl⟩ := Option.map_eq_some_iff.mp h
          exact .digits (isHexDigit_of_hexValue hhigh) (isHexDigit_of_hexValue hl)

theorem readHex_of_hexPair {s : String} {c d : Char} (hcore : core s = trimBy isAsciiBlank [c, d]) {n : Int}
    (h : HexPair c d n) : readHex s = some n := by
  rw [trimBy_pair] at hcore
  cases h with
  | @digits high l hhigh hl =>
    obtain ⟨hblank, hminus, hplus, -⟩ := hhigh.bare
    rw [hblank, hl.bare.1] at hcore
    rw [readHex_double hcore, if_neg hminus, if_neg hplus, hexValue_of_isHexDigit hhigh, hexValue_of_isHexDigit hl]
    rfl
  | plus sign hl =>
    subst sign
    rw [hl.bare.1] at hcore
    rw [readHex_double hcore, hexValue_of_isHexDigit hl]
    rfl
  | minus sign hl =>
    subst sign
    rw [hl.bare.1] at hcore
    rw [readHex_double hcore, hexValue_of_isHexDigit hl]
    rfl
  | blankBefore hblank hl =>
    rw [if_pos hblank, hl.bare.1] at hcore
    rw [readHex_single hcore, hexValue_of_isHexDigit hl]
    rfl
  | blankBehind hl hblank =>
    rw [hl.bare.1, if_neg Bool.false_ne_true, if_pos hblank] at hcore
    rw [readHex_single hcore, hexValue_of_isHexDigit hl]
    rfl

/-- **Two characters.** They are a number exactly if they are two digits, or a digit with a sign before it or a
    blank on either side. -/
theorem readHex_eq_some {a b : Char} {n : Int} :
    readHex (String.ofList [a, b]) = some n ↔ HexPair (plainChar a) (plainChar b) n := by
  have hcore : core (String.ofList [a, b]) = trimBy isAsciiBlank [plainChar a, plainChar b] := by
    rw [core, String.toList_ofList]
    rfl
  exact ⟨readHex_trimmed hcore, readHex_of_hexPair hcore⟩

end Wireframe.Decimal
