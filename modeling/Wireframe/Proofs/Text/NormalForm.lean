import Wireframe.Proofs.Text.Snake

/-!
# `Wireframe.Proofs.Text.NormalForm` — the normal form of a normal form

A name in normal form is its own normal form. Its characters are their own lower case, so no capital is
left that could begin a word, no hyphen is left, and no blank has come up at its ends. All of that rests on
the table of lower case: where a run sends a character there is no run, no ASCII character but a small
letter, and no blank.

## Contents
- `CaseRun`, `CaseRun.misses`, `not_on_image`: runs of a case table, and what their images miss.
- `images_miss`, `shift_lowerRuns`, `shift_apart`: the table of lower case.
- `Settles`, `settles_apart`, `settles_of_mem_lowerChar`, `lowerFrom_cons`: what becomes of a character in
  lower case.
- `lowerFrom_eq_self`, `mem_lowerFrom`, `head_lowerFrom`, `getLast_lowerFrom`: lower case of texts.
- `mem_split`, `head_splitWords`, `getLast_splitWords`, `head_splitCapitals`, `getLast_splitCapitals`:
  names with underscores set.
- `Spelled`, `Plain`, `snake_of_plain`, `plain_snake`: names in normal form.
- `snake_snake`, `trim_snake`, `isEmpty_snake`: normal forms.
-/

namespace Wireframe.Text

/-! ## Runs -/

/-- A run of a case table: first and last code point, step, and shift. -/
abbrev CaseRun : Type := Nat × Nat × Nat × Int

/-- Whether a code point is on a run. -/
def CaseRun.holds (r : CaseRun) (n : Nat) : Bool := r.1 ≤ n && n ≤ r.2.1 && (n - r.1) % r.2.2.1 == 0

/-- Where a run sends a code point. -/
def CaseRun.image (r : CaseRun) (n : Nat) : Nat := ((n : Int) + r.2.2.2).toNat

/-- Whether a run sends no code point to another run: the image lies before or behind it, or falls between
its steps. -/
def CaseRun.misses (r q : CaseRun) : Bool :=
  Nat.blt (r.image r.2.1) q.1 || Nat.blt q.2.1 (r.image r.1) ||
    ((r.2.2.1 % q.2.2.1 == 0 || r.image r.1 == r.image r.2.1) && (r.image r.1 - q.1) % q.2.2.1 != 0)

theorem CaseRun.holds_iff {r : CaseRun} {n : Nat} :
    r.holds n = true ↔ r.1 ≤ n ∧ n ≤ r.2.1 ∧ r.2.2.1 ∣ n - r.1 := by
  rw [holds, Bool.and_eq_true, Bool.and_eq_true, decide_eq_true_eq, decide_eq_true_eq, beq_iff_eq,
    ← Nat.dvd_iff_mod_eq_zero, and_assoc]

theorem CaseRun.misses_iff {r q : CaseRun} :
    r.misses q = true ↔ r.image r.2.1 < q.1 ∨ q.2.1 < r.image r.1 ∨
      ((q.2.2.1 ∣ r.2.2.1 ∨ r.image r.1 = r.image r.2.1) ∧ ¬ q.2.2.1 ∣ r.image r.1 - q.1) := by
  rw [misses, Bool.or_eq_true, Bool.or_eq_true, Bool.and_eq_true, Bool.or_eq_true, Nat.blt_eq, Nat.blt_eq,
    beq_iff_eq, beq_iff_eq, bne_iff_ne, Nat.dvd_iff_mod_eq_zero, Nat.dvd_iff_mod_eq_zero, or_assoc]

theorem CaseRun.not_on_image {r q : CaseRun} (h : r.misses q = true) {n : Nat} (hn : r.holds n = true) :
    q.holds (r.image n) = false := by
  rw [Bool.eq_false_iff, Ne, holds_iff]
  rintro ⟨hlow, hhigh, hon⟩
  obtain ⟨hfirst, hlast, hstep⟩ := holds_iff.mp hn
  have hmono : r.image r.1 ≤ r.image n ∧ r.image n ≤ r.image r.2.1 := by
    unfold image
    omega
  rcases misses_iff.mp h with hbefore | hbehind | ⟨hsteps, hbetween⟩
  · omega
  · omega
  · -- the image begins behind the other run, so no shift is cut off at zero
    have hbegin : q.1 < r.image r.1 := by
      by_contra hle
      rw [Nat.sub_eq_zero_of_le (Nat.le_of_not_lt hle)] at hbetween
      exact hbetween (Nat.dvd_zero _)
    have himage : r.image n - q.1 = (n - r.1) + (r.image r.1 - q.1) := by
      unfold image at hbegin ⊢
      omega
    refine hbetween ?_
    rcases hsteps with hdvd | hsingle
    · rw [himage] at hon
      exact (Nat.dvd_add_right (Nat.dvd_trans hdvd hstep)).mp hon
    · rwa [show r.image r.1 = r.image n by omega]

theorem shift_eq (table : Array CaseRun) (n : Nat) :
    shift? table n = (table.toList.find? fun r => r.holds n).map fun r => r.image n := by
  rw [shift?, ← Array.find?_toList]
  rfl

theorem shift_eq_none {table : Array CaseRun} {n : Nat} (h : ∀ r ∈ table.toList, r.holds n = false) :
    shift? table n = none := by
  rw [shift_eq, Option.map_eq_none_iff, List.find?_eq_none]
  exact fun r hr => Bool.eq_false_iff.mp (h r hr)

theorem exists_of_shift {table : Array CaseRun} {n m : Nat} (h : shift? table n = some m) :
    ∃ r ∈ table.toList, r.holds n = true ∧ m = r.image n := by
  rw [shift_eq] at h
  obtain ⟨r, hr, rfl⟩ := Option.map_eq_some_iff.mp h
  exact ⟨r, List.mem_of_find?_eq_some hr, List.find?_some (p := fun r => CaseRun.holds r n) hr, rfl⟩

/-! ## The table of lower case -/

/-- Code points that are not to come up in lower case: those of ASCII before the small letters, the blanks
behind them, and the one with two characters for its lower case. -/
def excluded : List CaseRun :=
  [(0, 0x60, 1, 0), (0x85, 0x85, 1, 0), (0xa0, 0xa0, 1, 0), (0x130, 0x130, 1, 0), (0x1680, 0x1680, 1, 0),
   (0x2000, 0x200a, 1, 0), (0x2028, 0x2029, 1, 0), (0x202f, 0x202f, 1, 0), (0x205f, 0x205f, 1, 0),
   (0x3000, 0x3000, 1, 0)]

theorem images_miss :
    (lowerRuns.toList.all fun r => (excluded ++ lowerRuns.toList).all fun q => CaseRun.misses r q) = true := by
  decide +kernel

/-- What the table gives is on no run of the table, and not excluded. -/
theorem shift_lowerRuns {n m : Nat} (h : shift? lowerRuns n = some m) :
    shift? lowerRuns m = none ∧ ∀ q ∈ excluded, q.holds m = false := by
  obtain ⟨r, hr, hn, rfl⟩ := exists_of_shift h
  have hmiss := List.all_eq_true.mp (List.all_eq_true.mp images_miss r hr)
  refine ⟨shift_eq_none fun q hq => ?_, fun q hq => ?_⟩
  · exact CaseRun.not_on_image (hmiss q (List.mem_append_right _ hq)) hn
  · exact CaseRun.not_on_image (hmiss q (List.mem_append_left _ hq)) hn

/-! ## Lower case -/

/-- A character that comes up in lower case: it is its own lower case, and no blank or hyphen unless that
is what it came from. -/
structure Settles (c d : Char) : Prop where
  fixed : lowerChar d = [d]
  blank : isBlank c = false → isBlank d = false
  hyphen : c ≠ '-' → d ≠ '-'

theorem toNat_ofNat {n : Nat} (h : n.isValidChar) : (Char.ofNat n).toNat = n := by
  rw [Char.ofNat, dif_pos h]
  rfl

theorem lowerChar_capital {c : Char} (h : isCapital c = true) :
    ∃ d : Char, lowerChar c = [d] ∧ d.toNat = c.toNat + 32 := by
  have hupper := (isCapital_iff.mp h).2
  refine ⟨Char.ofNat (c.toNat + 32), ?_, toNat_ofNat (.inl (by omega))⟩
  rw [lowerChar, if_pos (by omega), show ('A' ≤ c && c ≤ 'Z') = true from h]
  rfl

theorem lowerChar_of_not_capital {c : Char} (hascii : c.toNat < 0x80) (h : isCapital c = false) :
    lowerChar c = [c] := by
  rw [lowerChar, if_pos hascii, show ('A' ≤ c && c ≤ 'Z') = false from h]
  rfl

theorem capital_not_fixed {c : Char} (h : isCapital c = true) : lowerChar c ≠ [c] := by
  obtain ⟨d, hd, hcode⟩ := lowerChar_capital h
  rw [hd]
  intro heq
  rw [List.singleton_inj.mp heq] at hcode
  omega

/-- What comes behind the capitals in ASCII is its own lower case. -/
theorem settles_of_small (c : Char) {d : Char} (hlow : 0x60 < d.toNat) (hascii : d.toNat < 0x80) :
    Settles c d := by
  constructor
  · refine lowerChar_of_not_capital hascii (Bool.eq_false_iff.mpr fun hcapital => ?_)
    have hupper := (isCapital_iff.mp hcapital).2
    omega
  · intro _
    rw [Bool.eq_false_iff]
    intro hblank
    simp [isBlank] at hblank
    omega
  · rintro _ rfl
    exact absurd hlow (by decide)

/-- The lower case of a character that is neither ASCII nor the one with two characters. -/
theorem lowerChar_of_shift {c : Char} (hascii : 0x80 ≤ c.toNat) (htwo : c.toNat ≠ 0x130) :
    lowerChar c = [((shift? lowerRuns c.toNat).map Char.ofNat).getD c] := by
  rw [lowerChar, if_neg (by omega), if_neg (by simpa using htwo)]

theorem lowerChar_of_none {c : Char} (hascii : 0x80 ≤ c.toNat) (htwo : c.toNat ≠ 0x130)
    (hshift : shift? lowerRuns c.toNat = none) : lowerChar c = [c] := by
  rw [lowerChar_of_shift hascii htwo, hshift]
  rfl

/-- A character that is on no run and not excluded is its own lower case. -/
theorem settles_of_free (c : Char) {d : Char} (hshift : shift? lowerRuns d.toNat = none)
    (hfree : ∀ q ∈ excluded, q.holds d.toNat = false) : Settles c d := by
  simp [excluded, CaseRun.holds, Nat.mod_one] at hfree
  by_cases hascii : d.toNat < 0x80
  · exact settles_of_small c hfree.1 hascii
  constructor
  · exact lowerChar_of_none (Nat.le_of_not_lt hascii) (by omega) hshift
  · intro _
    rw [Bool.eq_false_iff]
    intro hblank
    simp [isBlank] at hblank
    omega
  · rintro _ rfl
    exact absurd hfree.1 (by decide)

/-- The mark that is left of the one with two characters and the final sigma are on no run. -/
theorem shift_apart : ∀ n ∈ [0x307, 0x3c2], shift? lowerRuns n = none := by
  simp only [shift_eq]
  decide

/-- Characters that come up apart from the table: those of the lower case of the one with two characters, the
final sigma, and the one in the place of numbers that are no code points. -/
theorem settles_apart (c : Char) {d : Char} (h : d ∈ ['i', Char.ofNat 0x307, Char.ofNat 0x3c2, '\x00']) :
    Settles c d := by
  simp only [List.mem_cons, List.not_mem_nil, or_false] at h
  rcases h with rfl | rfl | rfl | rfl
  · exact settles_of_small c (by decide) (by decide)
  · exact settles_of_free c (shift_apart 0x307 (by decide)) (by decide)
  · exact settles_of_free c (shift_apart 0x3c2 (by decide)) (by decide)
  · exact ⟨by decide, fun _ => by decide, fun _ => by decide⟩

theorem settles_of_mem_lowerChar {c d : Char} (h : d ∈ lowerChar c) : Settles c d := by
  by_cases hascii : c.toNat < 0x80
  · cases hcapital : isCapital c with
    | true =>
      obtain ⟨d', hd', hcode⟩ := lowerChar_capital hcapital
      obtain ⟨hlower, hupper⟩ := isCapital_iff.mp hcapital
      rw [hd', List.mem_singleton] at h
      subst h
      exact settles_of_small c (by omega) (by omega)
    | false =>
      have hfixed := lowerChar_of_not_capital hascii hcapital
      rw [hfixed, List.mem_singleton] at h
      subst h
      exact ⟨hfixed, id, id⟩
  by_cases htwo : c.toNat = 0x130
  · rw [lowerChar, if_neg hascii, if_pos (by simpa using htwo)] at h
    exact settles_apart c (List.mem_append_left _ h)
  rw [lowerChar_of_shift (Nat.le_of_not_lt hascii) htwo, List.mem_singleton] at h
  cases hshift : shift? lowerRuns c.toNat with
  | none =>
    rw [hshift] at h
    obtain rfl : d = c := h
    exact ⟨lowerChar_of_none (Nat.le_of_not_lt hascii) htwo hshift, id, id⟩
  | some m =>
    rw [hshift] at h
    obtain rfl : d = Char.ofNat m := h
    by_cases hvalid : m.isValidChar
    · obtain ⟨hnone, hfree⟩ := shift_lowerRuns hshift
      rw [← toNat_ofNat hvalid] at hnone hfree
      exact settles_of_free c hnone hfree
    · rw [Char.ofNat, dif_neg hvalid]
      exact settles_apart c (by decide)

/-! ## Lower case of texts -/

theorem lowerChar_ne_nil (c : Char) : lowerChar c ≠ [] := by
  unfold lowerChar
  split
  · exact List.cons_ne_nil _ _
  · split <;> exact List.cons_ne_nil _ _

/-- What stands for a character in lower case, the final sigma among it, and what follows. -/
theorem lowerFrom_cons (inWord : Bool) (c : Char) (rest : List Char) :
    ∃ here inWord', lowerFrom inWord (c :: rest) = here ++ lowerFrom inWord' rest ∧ here ≠ [] ∧
      ∀ d ∈ here, Settles c d := by
  rw [lowerFrom]
  refine ⟨_, _, rfl, ?_, ?_⟩
  · split
    · exact List.cons_ne_nil _ _
    · exact lowerChar_ne_nil c
  · intro d hd
    split at hd
    · obtain rfl := List.mem_singleton.mp hd
      exact settles_apart c (by decide)
    · exact settles_of_mem_lowerChar hd

theorem lowerFrom_ne_nil (inWord : Bool) {cs : List Char} (h : cs ≠ []) : lowerFrom inWord cs ≠ [] := by
  cases cs with
  | nil => exact absurd rfl h
  | cons c rest =>
    obtain ⟨here, inWord', heq, hne, -⟩ := lowerFrom_cons inWord c rest
    rw [heq]
    exact List.append_ne_nil_of_left_ne_nil hne _

theorem mem_lowerFrom {inWord : Bool} {cs : List Char} {d : Char} (h : d ∈ lowerFrom inWord cs) :
    ∃ c ∈ cs, Settles c d := by
  induction cs generalizing inWord with
  | nil => cases h
  | cons c rest ih =>
    obtain ⟨here, inWord', heq, -, hhere⟩ := lowerFrom_cons inWord c rest
    rw [heq] at h
    rcases List.mem_append.mp h with hd | hd
    · exact ⟨c, List.mem_cons_self, hhere d hd⟩
    · obtain ⟨c', hc', hsettles⟩ := ih hd
      exact ⟨c', List.mem_cons_of_mem _ hc', hsettles⟩

theorem head_lowerFrom {inWord : Bool} {cs : List Char} {d : Char} (h : (lowerFrom inWord cs).head? = some d) :
    ∃ c, cs.head? = some c ∧ Settles c d := by
  cases cs with
  | nil => cases h
  | cons c rest =>
    obtain ⟨here, inWord', heq, hne, hhere⟩ := lowerFrom_cons inWord c rest
    rw [heq, List.head?_append_of_ne_nil _ hne] at h
    exact ⟨c, rfl, hhere d (List.mem_of_head? h)⟩

theorem getLast_lowerFrom {inWord : Bool} {cs : List Char} {d : Char}
    (h : (lowerFrom inWord cs).getLast? = some d) : ∃ c, cs.getLast? = some c ∧ Settles c d := by
  induction cs generalizing inWord with
  | nil => cases h
  | cons c rest ih =>
    obtain ⟨here, inWord', heq, -, hhere⟩ := lowerFrom_cons inWord c rest
    rw [heq] at h
    by_cases hrest : rest = []
    · subst hrest
      rw [lowerFrom, List.append_nil] at h
      exact ⟨c, rfl, hhere d (List.mem_of_getLast? h)⟩
    · rw [List.getLast?_append_of_ne_nil _ (lowerFrom_ne_nil inWord' hrest)] at h
      obtain ⟨c', hc', hsettles⟩ := ih h
      exact ⟨c', by rw [List.getLast?_cons, hc']; rfl, hsettles⟩

/-- Characters that are their own lower case make a text that is its own. A capital sigma is not. -/
theorem lowerFrom_eq_self {inWord : Bool} {cs : List Char} (h : ∀ c ∈ cs, lowerChar c = [c]) :
    lowerFrom inWord cs = cs := by
  induction cs generalizing inWord with
  | nil => rfl
  | cons c rest ih =>
    obtain ⟨hc, hrest⟩ := List.forall_mem_cons.mp h
    have hsigma : (c.toNat == 0x3a3) = false := by
      rw [Bool.eq_false_iff]
      intro hsigma
      have hc' : c = Char.ofNat 0x3a3 := by rw [← eq_of_beq hsigma, Char.ofNat_toNat]
      rw [hc', lowerChar_sigma] at hc
      exact absurd hc (by decide)
    rw [lowerFrom, hsigma, Bool.false_and, Bool.false_and, if_neg Bool.false_ne_true, hc, ih hrest,
      List.singleton_append]

/-! ## Underscores -/

theorem mem_split {cs : List Char} {c : Char} (h : c ∈ splitCapitals (splitWords cs)) : c = '_' ∨ c ∈ cs := by
  by_cases hmark : c = '_'
  · exact .inl hmark
  · have hfilter : (splitCapitals (splitWords cs)).filter (· != '_') = cs.filter (· != '_') := by
      have hcapitals := filter_splitCapitals (f := fun c => [c]) (p := (· != '_')) rfl (splitWords cs)
      have hwords := filter_splitWords (f := fun c => [c]) (p := (· != '_')) rfl cs
      rw [List.flatMap_singleton', List.flatMap_singleton'] at hcapitals hwords
      rw [hcapitals, hwords]
    have hkept : c ∈ cs.filter (· != '_') := by
      rw [← hfilter]
      exact List.mem_filter.mpr ⟨h, bne_iff_ne.mpr hmark⟩
    exact .inr (List.mem_filter.mp hkept).1

/-- An underscore is set behind a character and before another one, so the ends of a name stay. -/
theorem head_splitWords (cs : List Char) : (splitWords cs).head? = cs.head? := by
  fun_induction splitWords cs <;> rfl

@[inherit_doc head_splitWords]
theorem head_splitCapitals (cs : List Char) : (splitCapitals cs).head? = cs.head? := by
  fun_induction splitCapitals cs <;> rfl

@[inherit_doc head_splitWords]
theorem getLast_splitWords (cs : List Char) : (splitWords cs).getLast? = cs.getLast? := by
  fun_induction splitWords cs with
  | case1 a b c rest h word ih =>
    have hname : a :: b :: c :: rest = (a :: b :: word) ++ (c :: rest).dropWhile isSmall := by
      rw [List.cons_append, List.cons_append, List.takeWhile_append_dropWhile]
    rw [hname, List.getLast?_append, List.getLast?_append, ih, List.getLast?_cons_cons,
      List.getLast?_cons_cons, List.getLast?_cons_cons]
  | case2 a b c rest h ih => rw [List.getLast?_cons, ih, ← List.getLast?_cons]
  | case3 => rfl

@[inherit_doc head_splitWords]
theorem getLast_splitCapitals (cs : List Char) : (splitCapitals cs).getLast? = cs.getLast? := by
  fun_induction splitCapitals cs with
  | case1 a b rest h ih =>
    rw [List.getLast?_cons_cons, List.getLast?_cons_cons, List.getLast?_cons_cons, List.getLast?_cons, ih,
      ← List.getLast?_cons]
  | case2 a b rest h ih => rw [List.getLast?_cons, ih, ← List.getLast?_cons]
  | case3 => rfl

/-! ## Normal forms -/

/-- A name with underscores in place of hyphens, and without blanks at the ends. -/
structure Spelled (cs : List Char) : Prop where
  hyphen : ∀ c ∈ cs, c ≠ '-'
  first : ∀ c, cs.head? = some c → isBlank c = false
  last : ∀ c, cs.getLast? = some c → isBlank c = false

/-- A name in normal form: every character is its own lower case besides. -/
structure Plain (cs : List Char) : Prop extends Spelled cs where
  fixed : ∀ c ∈ cs, lowerChar c = [c]

/-- Where every character is its own lower case, no capital begins a word. -/
theorem hasWords_of_fixed {cs : List Char} (h : ∀ c ∈ cs, lowerChar c = [c]) : hasWords cs = false := by
  rw [Bool.eq_false_iff]
  intro hwords
  obtain ⟨c, hc, hcapital⟩ := List.any_eq_true.mp (any_isCapital_of_hasWords hwords)
  exact capital_not_fixed hcapital (h c hc)

/-- An underscore for a hyphen. -/
def unhyphened (c : Char) : Char := if c == '-' then '_' else c

theorem unhyphened_ne (c : Char) : unhyphened c ≠ '-' := by
  unfold unhyphened
  split
  · decide
  · next h => simpa using h

theorem unhyphened_eq_self {c : Char} (h : c ≠ '-') : unhyphened c = c := if_neg (by simpa using h)

theorem isBlank_unhyphened {c : Char} (h : isBlank c = false) : isBlank (unhyphened c) = false := by
  unfold unhyphened
  split
  · decide
  · exact h

theorem bare_eq (s : String) : bare s = (trimBy isBlank s.toList).map unhyphened := by
  rw [bare, trim, String.toList_ofList]
  rfl

theorem bare_of_plain {s : String} (h : Plain s.toList) : bare s = s.toList := by
  rw [bare_eq, trimBy_eq_self h.first h.last]
  refine (List.map_congr_left fun c hc => ?_).trans (List.map_id _)
  exact unhyphened_eq_self (h.hyphen c hc)

/-- A plain name is its own normal form. -/
theorem snake_of_plain {s : String} (h : Plain s.toList) : snake s = s := by
  rw [snake_eq, bare_of_plain h, hasWords_of_fixed h.fixed, if_neg Bool.false_ne_true, lower,
    String.toList_ofList, lowerFrom_eq_self h.fixed, String.ofList_toList]

theorem spelled_bare (s : String) : Spelled (bare s) := by
  rw [bare_eq]
  refine ⟨fun c hc => ?_, fun c hc => ?_, fun c hc => ?_⟩
  · obtain ⟨d, -, rfl⟩ := List.mem_map.mp hc
    exact unhyphened_ne d
  · rw [List.head?_map] at hc
    obtain ⟨d, hd, rfl⟩ := Option.map_eq_some_iff.mp hc
    exact isBlank_unhyphened (head_trimBy hd)
  · rw [List.getLast?_map] at hc
    obtain ⟨d, hd, rfl⟩ := Option.map_eq_some_iff.mp hc
    exact isBlank_unhyphened (getLast_trimBy hd)

/-- What is set inside a name does not come to its ends. -/
theorem Spelled.split {cs : List Char} (h : Spelled cs) : Spelled (splitCapitals (splitWords cs)) := by
  refine ⟨fun c hc => ?_, ?_, ?_⟩
  · rcases mem_split hc with rfl | hc
    · decide
    · exact h.hyphen c hc
  · rw [head_splitCapitals, head_splitWords]
    exact h.first
  · rw [getLast_splitCapitals, getLast_splitWords]
    exact h.last

theorem Spelled.plain {cs : List Char} (h : Spelled cs) : Plain (lowerFrom false cs) := by
  refine ⟨⟨fun d hd => ?_, fun d hd => ?_, fun d hd => ?_⟩, fun d hd => ?_⟩
  · obtain ⟨c, hc, hsettles⟩ := mem_lowerFrom hd
    exact hsettles.hyphen (h.hyphen c hc)
  · obtain ⟨c, hc, hsettles⟩ := head_lowerFrom hd
    exact hsettles.blank (h.first c hc)
  · obtain ⟨c, hc, hsettles⟩ := getLast_lowerFrom hd
    exact hsettles.blank (h.last c hc)
  · obtain ⟨c, -, hsettles⟩ := mem_lowerFrom hd
    exact hsettles.fixed

/-- Normal forms are plain. -/
theorem plain_snake (s : String) : Plain (snake s).toList := by
  rw [snake_eq, lower, String.toList_ofList, String.toList_ofList]
  split
  · exact (spelled_bare s).split.plain
  · exact (spelled_bare s).plain

/-- The normal form of a normal form is itself. -/
theorem snake_snake (s : String) : snake (snake s) = snake s := snake_of_plain (plain_snake s)

theorem trim_snake (s : String) : trim (snake s) = snake s := by
  have hplain := plain_snake s
  rw [trim, trimBy_eq_self hplain.first hplain.last, String.ofList_toList]

theorem split_eq_nil {cs : List Char} : splitCapitals (splitWords cs) = [] ↔ cs = [] := by
  rw [← List.head?_eq_none_iff, head_splitCapitals, head_splitWords, List.head?_eq_none_iff]

theorem lowerFrom_eq_nil {inWord : Bool} {cs : List Char} : lowerFrom inWord cs = [] ↔ cs = [] := by
  refine ⟨fun h => ?_, fun h => by rw [h, lowerFrom]⟩
  by_contra hne
  exact lowerFrom_ne_nil inWord hne h

/-- A normal form is empty if the name was nothing but blanks. -/
theorem isEmpty_snake (s : String) : (snake s).isEmpty = (trim s).isEmpty := by
  rw [Bool.eq_iff_iff, String.isEmpty_iff, String.isEmpty_iff, ← String.toList_eq_nil_iff,
    ← String.toList_eq_nil_iff, snake_eq, lower, String.toList_ofList, String.toList_ofList, lowerFrom_eq_nil]
  have hbare : bare s = [] ↔ (trim s).toList = [] := by rw [bare, List.map_eq_nil_iff]
  split
  · rw [split_eq_nil, hbare]
  · rw [hbare]

end Wireframe.Text
