import Wireframe.Decimal.Reading
import Wireframe.Text.Snake
import Mathlib.Data.List.DropRight

/-!
# `Wireframe.Proofs.Text.Snake` — the normal form of a name and the case of its letters

Lower case does not depend on the case of ASCII letters. The normal form of a name does, because capitals
can begin words: an underscore is set before each such capital inside the name. Whatever underscores are
set, the other characters stay as they are.

## Contents
- `trimBy_map`, `trimBy_map_comm`: characters that are changed after and before trimming.
- `map_asciiLower_eq`, `isIgnorable_letter`, `seen_asciiLower`: what does not depend on the case of letters.
- `lowerFrom_asciiLower`, `map_unfinal_lowerFrom`: lower case of texts.
- `hasWords`, `split_eq`, `length_lt_split`: capitals that begin a word inside a name, and where
  underscores are set.
- `filter_splitWords`, `filter_splitCapitals`: all other characters.
- `bare`, `snake_eq`: the normal form of a name.
-/

namespace Wireframe.Text

open Decimal (asciiLower)

/-! ## Blanks -/

section
variable {α : Type} {p : α → Bool}

theorem trimBy_eq_rdropWhile (s : List α) : trimBy p s = (s.dropWhile p).rdropWhile p := rfl

/-- Nothing is trimmed where neither end is of the class. -/
theorem trimBy_eq_self {s : List α} (hfirst : ∀ c, s.head? = some c → p c = false)
    (hlast : ∀ c, s.getLast? = some c → p c = false) : trimBy p s = s := by
  have hdrop : s.dropWhile p = s := by
    cases s with
    | nil => rfl
    | cons c s => exact List.dropWhile_cons_of_neg (by rw [hfirst c rfl]; exact Bool.false_ne_true)
  rw [trimBy_eq_rdropWhile, hdrop, List.rdropWhile_eq_self_iff]
  intro hne hlast'
  rw [hlast _ (List.getLast?_eq_some_getLast hne)] at hlast'
  cases hlast'

theorem head_trimBy {s : List α} {c : α} (h : (trimBy p s).head? = some c) : p c = false := by
  have hprefix : trimBy p s <+: s.dropWhile p := List.rdropWhile_prefix p _
  obtain ⟨rest, hrest⟩ := hprefix
  have hhead : (s.dropWhile p).head? = some c := by
    rw [← hrest, List.head?_append, h]
    rfl
  have hnot := List.head?_dropWhile_not p s
  rw [hhead] at hnot
  exact hnot

theorem getLast_trimBy {s : List α} {c : α} (h : (trimBy p s).getLast? = some c) : p c = false := by
  have hnot := List.head?_dropWhile_not p (s.dropWhile p).reverse
  rw [trimBy, List.getLast?_reverse] at h
  rw [h] at hnot
  exact hnot

/-- Characters that are changed after trimming need not be trimmed again. -/
theorem trimBy_map {f : α → α} (hf : ∀ c, p c = false → p (f c) = false) (s : List α) :
    trimBy p ((trimBy p s).map f) = (trimBy p s).map f := by
  refine trimBy_eq_self ?_ ?_
  · intro c hc
    rw [List.head?_map] at hc
    obtain ⟨d, hd, rfl⟩ := Option.map_eq_some_iff.mp hc
    exact hf d (head_trimBy hd)
  · intro c hc
    rw [List.getLast?_map] at hc
    obtain ⟨d, hd, rfl⟩ := Option.map_eq_some_iff.mp hc
    exact hf d (getLast_trimBy hd)

/-- Characters may be changed before trimming where the class does not see it. -/
theorem trimBy_map_comm {f : α → α} (hf : ∀ c, p (f c) = p c) (s : List α) :
    trimBy p (s.map f) = (trimBy p s).map f := by
  have hsame : p ∘ f = p := funext hf
  rw [trimBy, trimBy, List.dropWhile_map, ← List.map_reverse, List.dropWhile_map, hsame, ← List.map_reverse]

end

/-! ## Lower case -/

theorem isCapital_iff {c : Char} : isCapital c = true ↔ 65 ≤ c.toNat ∧ c.toNat ≤ 90 := by
  rw [isCapital, Bool.and_eq_true, decide_eq_true_eq, decide_eq_true_eq, Char.le_def, Char.le_def,
    UInt32.le_iff_toNat_le, UInt32.le_iff_toNat_le]
  rfl

/-- What is the same for each capital and its small letter does not depend on the case of letters. -/
theorem map_asciiLower_eq {β : Type} (f : Char → β)
    (h : ∀ n : Fin 26, f (asciiLower (Char.ofNat (65 + n))) = f (Char.ofNat (65 + n))) (c : Char) :
    f (asciiLower c) = f c := by
  cases hc : isCapital c with
  | true =>
    obtain ⟨hlower, hupper⟩ := isCapital_iff.mp hc
    have hletter := h ⟨c.toNat - 65, by omega⟩
    simp only [Nat.add_sub_cancel' hlower, Char.ofNat_toNat] at hletter
    exact hletter
  | false =>
    have hsame : asciiLower c = c := by
      rw [asciiLower, show ('A' ≤ c && c ≤ 'Z') = false from hc]
      rfl
    rw [hsame]

/-- Ranges as a list, along which the kernel finds a code point faster. -/
theorem inRanges_eq (table : Array (Nat × Nat)) (n : Nat) :
    inRanges table n = table.toList.any fun r => r.1 ≤ n && n ≤ r.2 := by
  rw [inRanges, ← Array.any_toList]

/-- No letter of ASCII is on a range of characters that are looked through. -/
theorem ignorableRanges_miss :
    (ignorableRanges.toList.all fun r => (r.2 < 65 || 90 < r.1) && (r.2 < 97 || 122 < r.1)) = true := by
  decide +kernel

theorem isIgnorable_letter {c : Char}
    (h : 65 ≤ c.toNat ∧ c.toNat ≤ 90 ∨ 97 ≤ c.toNat ∧ c.toNat ≤ 122) : isIgnorable c = false := by
  rw [isIgnorable, inRanges_eq, List.any_eq_false]
  intro r hr hon
  have hmiss := List.all_eq_true.mp ignorableRanges_miss r hr
  simp only [Bool.and_eq_true, Bool.or_eq_true, decide_eq_true_eq] at hmiss hon
  omega

theorem isIgnorable_asciiLower (c : Char) : isIgnorable (asciiLower c) = isIgnorable c := by
  refine map_asciiLower_eq isIgnorable (fun n => ?_) c
  have hletters : ∀ n : Fin 26,
      (97 ≤ (asciiLower (Char.ofNat (65 + n))).toNat ∧ (asciiLower (Char.ofNat (65 + n))).toNat ≤ 122) ∧
        65 ≤ (Char.ofNat (65 + n)).toNat ∧ (Char.ofNat (65 + n)).toNat ≤ 90 := by decide
  obtain ⟨hsmall, hcapital⟩ := hletters n
  rw [isIgnorable_letter (.inr hsmall), isIgnorable_letter (.inl hcapital)]

/-- What else is asked of the characters of a name does not depend on the case of letters either. -/
theorem seen_asciiLower (c : Char) :
    lowerChar (asciiLower c) = lowerChar c ∧ isCased (asciiLower c) = isCased c ∧
      ((asciiLower c).toNat == 0x3a3) = (c.toNat == 0x3a3) ∧ isBlank (asciiLower c) = isBlank c := by
  have hseen := map_asciiLower_eq (fun c => (lowerChar c, isCased c, c.toNat == 0x3a3, isBlank c)) (by
    simp only [isCased, inRanges_eq]
    decide) c
  simpa only [Prod.mk.injEq] using hseen

theorem lowerChar_asciiLower (c : Char) : lowerChar (asciiLower c) = lowerChar c := (seen_asciiLower c).1

theorem isCased_asciiLower (c : Char) : isCased (asciiLower c) = isCased c := (seen_asciiLower c).2.1

theorem isSigma_asciiLower (c : Char) : ((asciiLower c).toNat == 0x3a3) = (c.toNat == 0x3a3) :=
  (seen_asciiLower c).2.2.1

theorem isBlank_asciiLower (c : Char) : isBlank (asciiLower c) = isBlank c := (seen_asciiLower c).2.2.2

theorem casedFollows_cons (c : Char) (cs : List Char) :
    casedFollows (c :: cs) = if isIgnorable c then casedFollows cs else isCased c := by
  cases h : isIgnorable c with
  | true => simp only [casedFollows, List.dropWhile_cons, h, if_true]
  | false => simp only [casedFollows, List.dropWhile_cons, h, Bool.false_eq_true, if_false]

theorem casedFollows_asciiLower (cs : List Char) : casedFollows (cs.map asciiLower) = casedFollows cs := by
  induction cs with
  | nil => rfl
  | cons c cs ih =>
    rw [List.map_cons, casedFollows_cons, casedFollows_cons, isIgnorable_asciiLower, isCased_asciiLower,
      ih]

/-- Lower case does not depend on the case of ASCII letters. -/
theorem lowerFrom_asciiLower (inWord : Bool) (cs : List Char) :
    lowerFrom inWord (cs.map asciiLower) = lowerFrom inWord cs := by
  induction cs generalizing inWord with
  | nil => rfl
  | cons c cs ih =>
    rw [List.map_cons, lowerFrom, lowerFrom, casedFollows_asciiLower, lowerChar_asciiLower,
      isIgnorable_asciiLower, isCased_asciiLower, isSigma_asciiLower, ih]

/-- The final sigma as the other one. -/
def unfinal (c : Char) : Char := if c == 'ς' then 'σ' else c

/-- Lower case of a character, both sigmas being one. -/
def plainLower (c : Char) : List Char := (lowerChar c).map unfinal

theorem lowerChar_sigma : lowerChar (Char.ofNat 0x3a3) = ['σ'] := by
  rw [lowerChar, if_neg (by decide), if_neg (by decide), shift?, ← Array.find?_toList]
  decide

/-- But for the final sigma, lower case goes character by character. -/
theorem map_unfinal_lowerFrom (inWord : Bool) (cs : List Char) :
    (lowerFrom inWord cs).map unfinal = cs.flatMap plainLower := by
  induction cs generalizing inWord with
  | nil => rfl
  | cons c cs ih =>
    rw [lowerFrom, List.map_append, ih, List.flatMap_cons]
    congr 1
    split
    · next hsigma =>
      have hc : c.toNat = 0x3a3 := by
        simp only [Bool.and_eq_true, beq_iff_eq] at hsigma
        exact hsigma.1.1
      have hc' : c = Char.ofNat 0x3a3 := by rw [← hc, Char.ofNat_toNat]
      rw [hc', plainLower, lowerChar_sigma]
      rfl
    · rfl

/-! ## Words inside a name -/

/-- A capital with a character other than a line feed before it and a small letter after it. -/
def startsWord : List Char → Bool
  | a :: b :: c :: rest => (a != '\n' && isCapital b && isSmall c) || startsWord (b :: c :: rest)
  | _ => false

/-- A capital with a small letter or digit before it. -/
def followsSmall : List Char → Bool
  | a :: b :: rest =>
    ((isSmall a || ('0' ≤ a && a ≤ '9')) && isCapital b) || followsSmall (b :: rest)
  | _ => false

/-- Some capital begins a word inside the name. -/
def hasWords (cs : List Char) : Bool := startsWord cs || followsSmall cs

theorem splitWords_eq {cs : List Char} (h : startsWord cs = false) : splitWords cs = cs := by
  induction cs using startsWord.induct with
  | case1 a b c rest ih =>
    rw [startsWord, Bool.or_eq_false_iff] at h
    rw [splitWords, h.1, if_neg Bool.false_ne_true, ih h.2]
  | case2 cs hshort =>
    rw [splitWords]
    exact hshort

theorem splitCapitals_eq {cs : List Char} (h : followsSmall cs = false) : splitCapitals cs = cs := by
  induction cs using followsSmall.induct with
  | case1 a b rest ih =>
    rw [followsSmall, Bool.or_eq_false_iff] at h
    rw [splitCapitals, h.1, if_neg Bool.false_ne_true, ih h.2]
  | case2 cs hshort =>
    rw [splitCapitals]
    exact hshort

section
variable {β : Type} {f : Char → List β}

theorem length_flatMap_cons (f : Char → List β) (c : Char) (cs : List Char) :
    ((c :: cs).flatMap f).length = (f c).length + (cs.flatMap f).length := by
  rw [List.flatMap_cons, List.length_append]

/-- What is taken as a word, and what comes after it. -/
theorem flatMap_word (f : Char → List β) (a b c : Char) (rest : List Char) :
    (a :: b :: c :: rest).flatMap f =
      f a ++ (f b ++ (((c :: rest).takeWhile isSmall).flatMap f ++ ((c :: rest).dropWhile isSmall).flatMap f)) := by
  rw [← List.flatMap_append, List.takeWhile_append_dropWhile, List.flatMap_cons, List.flatMap_cons]

/-- Underscores are only added. -/
theorem filter_splitWords {p : β → Bool} (hmark : (f '_').filter p = []) (cs : List Char) :
    ((splitWords cs).flatMap f).filter p = (cs.flatMap f).filter p := by
  fun_induction splitWords cs with
  | case1 a b c rest h word ih =>
    rw [flatMap_word]
    simp only [List.cons_append, List.flatMap_cons, List.flatMap_append, List.filter_append, hmark, ih,
      List.nil_append, word]
  | case2 a b c rest h ih =>
    rw [List.flatMap_cons, List.flatMap_cons, List.filter_append, List.filter_append, ih]
  | case3 => rfl

@[inherit_doc filter_splitWords]
theorem filter_splitCapitals {p : β → Bool} (hmark : (f '_').filter p = []) (cs : List Char) :
    ((splitCapitals cs).flatMap f).filter p = (cs.flatMap f).filter p := by
  fun_induction splitCapitals cs with
  | case1 a b rest h ih =>
    simp only [List.flatMap_cons, List.filter_append, hmark, ih, List.nil_append]
  | case2 a b rest h ih =>
    rw [List.flatMap_cons, List.flatMap_cons, List.filter_append, List.filter_append, ih]
  | case3 => rfl

theorem length_le_splitWords (f : Char → List β) (cs : List Char) :
    (cs.flatMap f).length ≤ ((splitWords cs).flatMap f).length := by
  fun_induction splitWords cs with
  | case1 a b c rest h word ih =>
    rw [flatMap_word]
    simp only [List.cons_append, List.flatMap_cons, List.flatMap_append, List.length_append, word] at ih ⊢
    omega
  | case2 a b c rest h ih =>
    rw [length_flatMap_cons f a, length_flatMap_cons f a]
    exact Nat.add_le_add_left ih _
  | case3 => exact Nat.le_refl _

theorem length_le_splitCapitals (f : Char → List β) (cs : List Char) :
    (cs.flatMap f).length ≤ ((splitCapitals cs).flatMap f).length := by
  fun_induction splitCapitals cs with
  | case1 a b rest h ih =>
    simp only [List.flatMap_cons, List.length_append] at ih ⊢
    omega
  | case2 a b rest h ih =>
    rw [length_flatMap_cons f a, length_flatMap_cons f a]
    exact Nat.add_le_add_left ih _
  | case3 => exact Nat.le_refl _

theorem length_lt_splitWords (hmark : 0 < (f '_').length) {cs : List Char} (h : startsWord cs = true) :
    (cs.flatMap f).length < ((splitWords cs).flatMap f).length := by
  fun_induction splitWords cs with
  | case1 a b c rest hword word ih =>
    have hrest := length_le_splitWords f ((c :: rest).dropWhile isSmall)
    rw [flatMap_word]
    simp only [List.cons_append, List.flatMap_cons, List.flatMap_append, List.length_append, word] at hrest ⊢
    omega
  | case2 a b c rest hword ih =>
    rw [startsWord, Bool.or_eq_true] at h
    rw [length_flatMap_cons f a, length_flatMap_cons f a]
    exact Nat.add_lt_add_left (ih (h.resolve_left hword)) _
  | case3 cs hshort =>
    rw [startsWord] at h
    · cases h
    · exact hshort

theorem length_lt_splitCapitals (hmark : 0 < (f '_').length) {cs : List Char}
    (h : followsSmall cs = true) : (cs.flatMap f).length < ((splitCapitals cs).flatMap f).length := by
  fun_induction splitCapitals cs with
  | case1 a b rest hcapital ih =>
    have hrest := length_le_splitCapitals f rest
    simp only [List.flatMap_cons, List.length_append]
    omega
  | case2 a b rest hcapital ih =>
    rw [followsSmall, Bool.or_eq_true] at h
    rw [length_flatMap_cons f a, length_flatMap_cons f a]
    exact Nat.add_lt_add_left (ih (h.resolve_left hcapital)) _
  | case3 cs hshort =>
    rw [followsSmall] at h
    · cases h
    · exact hshort

/-- An underscore is added exactly where a word begins. -/
theorem split_eq {cs : List Char} (h : hasWords cs = false) : splitCapitals (splitWords cs) = cs := by
  rw [hasWords, Bool.or_eq_false_iff] at h
  rw [splitWords_eq h.1, splitCapitals_eq h.2]

@[inherit_doc split_eq]
theorem length_lt_split (hmark : 0 < (f '_').length) {cs : List Char} (h : hasWords cs = true) :
    (cs.flatMap f).length < ((splitCapitals (splitWords cs)).flatMap f).length := by
  cases hword : startsWord cs with
  | true => exact Nat.lt_of_lt_of_le (length_lt_splitWords hmark hword) (length_le_splitCapitals f _)
  | false =>
    rw [hasWords, hword, Bool.false_or] at h
    rw [splitWords_eq hword]
    exact length_lt_splitCapitals hmark h

end

theorem isUpper_of_isCapital {c : Char} (h : isCapital c = true) : isUpper c = true := by
  have hascii : c.toNat < 0x80 := by
    have hupper := (isCapital_iff.mp h).2
    omega
  rw [isUpper, if_pos hascii]
  exact h

/-- A name with words inside holds a capital. -/
theorem any_isCapital_of_hasWords {cs : List Char} (h : hasWords cs = true) : cs.any isCapital = true := by
  rw [hasWords, Bool.or_eq_true] at h
  rcases h with h | h
  · fun_induction startsWord cs with
    | case1 a b c rest ih =>
      rw [Bool.or_eq_true, Bool.and_eq_true, Bool.and_eq_true] at h
      rcases h with h | h
      · simp [h.1.2]
      · rw [List.any_cons, ih h, Bool.or_true]
    | case2 => cases h
  · fun_induction followsSmall cs with
    | case1 a b rest ih =>
      rw [Bool.or_eq_true, Bool.and_eq_true] at h
      rcases h with h | h
      · simp [h.2]
      · rw [List.any_cons, ih h, Bool.or_true]
    | case2 => cases h

theorem any_isUpper_of_hasWords {cs : List Char} (h : hasWords cs = true) : cs.any isUpper = true := by
  obtain ⟨c, hc, hcapital⟩ := List.any_eq_true.mp (any_isCapital_of_hasWords h)
  exact List.any_eq_true.mpr ⟨c, hc, isUpper_of_isCapital hcapital⟩

/-! ## Normal forms -/

/-- The characters of a name without blanks around it, with underscores for hyphens. -/
def bare (s : String) : List Char := (trim s).toList.map fun c => if c == '-' then '_' else c

/-- The normal form has an underscore before each word inside the name. -/
theorem snake_eq (s : String) :
    snake s = lower (String.ofList (if hasWords (bare s) then splitCapitals (splitWords (bare s)) else bare s)) := by
  have hsnake : snake s = if (bare s).any isUpper then
      lower (String.ofList (splitCapitals (splitWords (bare s)))) else lower (String.ofList (bare s)) := rfl
  rw [hsnake]
  cases hwords : hasWords (bare s) with
  | true => rw [any_isUpper_of_hasWords hwords, if_pos rfl, if_pos rfl]
  | false =>
    rw [split_eq hwords]
    split <;> rfl

end Wireframe.Text
