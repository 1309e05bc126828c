import Wireframe.Path
import Mathlib.Data.List.Basic

/-!
# `Wireframe.Proofs.Path` — the last and the first name of a text

A text that is continued keeps its slashes, so what is put behind it changes the last name only, and it
cannot change how the first name begins unless there was none.

## Contents
- `splitOn_continued`, `splitOn_before_slash`: the parts of a text that is continued.
- `HasSuffix`, `suffixOf_dotted`: names with an ending.
- `nameOf`, `splitOn_dotted`, `getLast_dotted`: the name of a stem, a dot and an ending.
- `hasSuffix_join_dotted`, `hasSuffix_zero_dotted`: whether that name has an ending.
- `StartsHome`, `startsHome_continued`, `startsHome_join`: a leading `~`.
- `expandHome_self`, `root_of_expandHome`: looking it up.
-/

namespace Wireframe.Path

/-! ## Texts that are continued -/

/-- Only what stands behind the last slash is continued. -/
theorem splitOn_continued (xs : List Char) : ∃ front last, '/' ∉ last ∧
    xs.splitOn '/' = front ++ [last] ∧
      ∀ ys, (xs ++ ys).splitOn '/' = front ++ (last ++ ys).splitOn '/' := by
  by_cases hslash : '/' ∈ xs
  · obtain ⟨before, last, hlast, rfl⟩ : ∃ before last, '/' ∉ last ∧ xs = before ++ '/' :: last := by
      obtain ⟨last, before, hxs, hlast⟩ := List.eq_append_cons_of_mem (List.mem_reverse.mpr hslash)
      refine ⟨before.reverse, last.reverse, fun h => hlast (List.mem_reverse.mp h), ?_⟩
      rw [← List.reverse_reverse xs, hxs]
      simp only [List.reverse_append, List.reverse_cons, List.append_assoc, List.singleton_append]
    refine ⟨before.splitOn '/', last, hlast, ?_, fun ys => ?_⟩
    · rw [List.splitOn_append_cons_self, List.splitOn_eq_singleton hlast]
    · rw [List.append_assoc, List.cons_append, List.splitOn_append_cons_self]
  · exact ⟨[], xs, hslash, List.splitOn_eq_singleton hslash, fun _ => rfl⟩

/-- The first part reaches up to the first slash. -/
theorem splitOn_before_slash (ys : List Char) : ∃ first rest,
    ∀ xs, '/' ∉ xs → (xs ++ ys).splitOn '/' = (xs ++ first) :: rest := by
  by_cases hslash : '/' ∈ ys
  · obtain ⟨first, rest, rfl, hfirst⟩ := List.eq_append_cons_of_mem hslash
    refine ⟨first, rest.splitOn '/', fun xs hxs => ?_⟩
    have hnone : '/' ∉ xs ++ first := fun h => (List.mem_append.mp h).elim hxs hfirst
    rw [← List.append_assoc, List.splitOn_append_cons_self, List.splitOn_eq_singleton hnone]
    rfl
  · refine ⟨ys, [], fun xs hxs => ?_⟩
    exact List.splitOn_eq_singleton fun h => (List.mem_append.mp h).elim hxs hslash

/-! ## Names with an ending -/

/-- The last name of a path has an ending. -/
def HasSuffix (p : Path) : Prop := suffixOf p.name.toList ≠ []

instance (p : Path) : Decidable p.HasSuffix := inferInstanceAs (Decidable (_ ≠ _))

theorem suffix_isEmpty {p : Path} : p.suffix.isEmpty = true ↔ ¬p.HasSuffix := by
  rw [String.isEmpty_iff, suffix, HasSuffix, not_not]
  exact String.ofList_eq_empty_iff

/-- Behind a dot that is not the first character stands the end of an ending, unless a dot follows or
    nothing does. -/
theorem suffixOf_dotted {stem ending : List Char} (hstem : stem ≠ []) :
    suffixOf (stem ++ '.' :: ending) = [] ↔ ending.getLast?.getD '.' = '.' := by
  have hback : (stem ++ '.' :: ending).reverse = ending.reverse ++ '.' :: stem.reverse := by
    simp only [List.reverse_append, List.reverse_cons, List.append_assoc, List.singleton_append]
  -- the ending reaches back to the dot before it at most
  have hshort : ((stem ++ '.' :: ending).reverse.takeWhile (· != '.')).length ≤ ending.length := by
    rw [hback, List.takeWhile_append]
    split
    · simp only [List.takeWhile_cons, bne_self_eq_false, Bool.false_eq_true, if_false,
        List.append_nil, List.length_reverse, Nat.le_refl]
    · exact Nat.le_trans (List.takeWhile_sublist _).length_le (Nat.le_of_eq List.length_reverse)
  have hlong : ¬(stem ++ '.' :: ending).length ≤
      ((stem ++ '.' :: ending).reverse.takeWhile (· != '.')).length + 1 := by
    have := List.length_pos_iff.mpr hstem
    rw [List.length_append, List.length_cons]
    omega
  simp only [suffixOf, List.isEmpty_reverse, List.length_reverse, Bool.or_eq_true, ge_iff_le,
    decide_eq_true_eq, ite_eq_left_iff, reduceCtorEq, imp_false, not_not]
  rw [or_iff_left hlong, hback, ← List.head?_reverse]
  cases ending.reverse with
  | nil => simp
  | cons c rest => simp [List.takeWhile_cons]

/-- The name that a text stands for. -/
def nameOf (cs : List Char) : List Char := (((cs.splitOn '/').filter isPart).getLast?).getD []

theorem name_ofString (s : String) : (ofString s).name.toList = nameOf s.toList := by
  show (((((s.toList.splitOn '/').filter isPart).map String.ofList).getLastD "")).toList = _
  rw [List.getLastD_eq_getLast?, List.getLast?_map, nameOf]
  cases ((s.toList.splitOn '/').filter isPart).getLast? with
  | none => rfl
  | some cs => exact String.toList_ofList

/-- A stem, a dot and an ending: the stem keeps what stands before the first slash of the ending. -/
theorem splitOn_dotted (before : List Char) {num : List Char} (hnum : num ≠ []) (hslash : '/' ∉ num)
    {ending first : List Char} {rest : List (List Char)}
    (hending : ∀ xs, '/' ∉ xs → (xs ++ ending).splitOn '/' = (xs ++ first) :: rest) :
    ∃ front stem, stem ≠ [] ∧
      (before ++ num ++ '.' :: ending).splitOn '/' = front ++ (stem ++ '.' :: first) :: rest := by
  obtain ⟨front, last, hlast, -, hfront⟩ := splitOn_continued before
  refine ⟨front, last ++ num, fun h => hnum (List.append_eq_nil_iff.mp h).2, ?_⟩
  have hstem : '/' ∉ last ++ num ++ ['.'] := by simpa using ⟨hlast, hslash⟩
  have hsplit := hending _ hstem
  rw [List.append_assoc, hfront]
  simpa using hsplit

/-- The last part that counts of a stem, a dot and an ending. -/
theorem getLast_dotted (before : List Char) {num : List Char} (hnum : num ≠ []) (hslash : '/' ∉ num)
    {ending first : List Char} {rest : List (List Char)}
    (hending : ∀ xs, '/' ∉ xs → (xs ++ ending).splitOn '/' = (xs ++ first) :: rest) :
    ∃ stem, stem ≠ [] ∧ (((before ++ num ++ '.' :: ending).splitOn '/').filter isPart).getLast? =
      some ((rest.filter isPart).getLast?.getD (stem ++ '.' :: first)) := by
  obtain ⟨front, stem, hstem, hsplit⟩ := splitOn_dotted before hnum hslash hending
  obtain ⟨c, stem, rfl⟩ := List.exists_cons_of_ne_nil hstem
  have hpart : isPart (c :: stem ++ '.' :: first) = true := by simp [isPart]
  refine ⟨c :: stem, hstem, ?_⟩
  rw [hsplit, List.filter_append, List.filter_cons_of_pos hpart, List.getLast?_append,
    List.getLast?_cons, Option.some_or]

/-- Whether a name has an ending can be told from what is put behind a stem and a dot. -/
theorem suffixOf_nameOf_dotted (before : List Char) {num : List Char} (ending : List Char)
    (hnum : num ≠ []) (hslash : '/' ∉ num) :
    suffixOf (nameOf (before ++ num ++ '.' :: ending)) = [] ↔
      suffixOf (nameOf ('0' :: '.' :: ending)) = [] := by
  obtain ⟨first, rest, hending⟩ := splitOn_before_slash ending
  obtain ⟨stem, hstem, hwhole⟩ := getLast_dotted before hnum hslash hending
  obtain ⟨stem', hstem', hzero⟩ := getLast_dotted [] (List.cons_ne_nil '0' []) (by decide) hending
  rw [nameOf, nameOf, hwhole, show '0' :: '.' :: ending = [] ++ ['0'] ++ '.' :: ending from rfl, hzero,
    Option.getD_some, Option.getD_some]
  -- the stem counts only if nothing that counts stands behind a slash, and then it does not matter
  cases (rest.filter isPart).getLast? with
  | some name => rfl
  | none => rw [Option.getD_none, Option.getD_none, suffixOf_dotted hstem, suffixOf_dotted hstem']

/-- A stem, a dot and an ending in a directory. -/
theorem hasSuffix_join_dotted (directory : Path) {s : String} {before num ending : List Char}
    (hs : s.toList = before ++ num ++ '.' :: ending) (hnum : num ≠ []) (hslash : '/' ∉ num) :
    (directory.join (ofString s)).HasSuffix ↔
      (ofString ("0." ++ String.ofList ending)).HasSuffix := by
  have hzero : ("0." ++ String.ofList ending).toList = '0' :: '.' :: ending := by simp
  have hname : (directory.join (ofString s)).name = (ofString s).name := by
    obtain ⟨first, rest, hending⟩ := splitOn_before_slash ending
    obtain ⟨stem, -, hlast⟩ := getLast_dotted before hnum hslash hending
    rw [← hs] at hlast
    have hsome : (ofString s).parts.getLast? = some (String.ofList
        ((rest.filter isPart).getLast?.getD (stem ++ '.' :: first))) := by
      rw [ofString, List.getLast?_map, hlast]
      rfl
    unfold join
    split
    · rfl
    · rw [name, name, List.getLastD_eq_getLast?, List.getLastD_eq_getLast?, List.getLast?_append,
        hsome, Option.some_or]
  rw [HasSuffix, HasSuffix, hname, name_ofString, name_ofString, hs, hzero]
  exact not_congr (suffixOf_nameOf_dotted before ending hnum hslash)

/-- An ending without a slash makes names that have one unless it is empty or ends in a dot. -/
theorem hasSuffix_zero_dotted {ending : String} (hslash : '/' ∉ ending.toList) :
    (ofString ("0." ++ ending)).HasSuffix ↔ ending.toList.getLast?.getD '.' ≠ '.' := by
  have hzero : ("0." ++ ending).toList = ['0'] ++ '.' :: ending.toList := by simp
  have hone : '/' ∉ ['0'] ++ '.' :: ending.toList := by simpa using hslash
  have hpart : isPart (['0'] ++ '.' :: ending.toList) = true := by simp [isPart]
  have hname : nameOf (['0'] ++ '.' :: ending.toList) = ['0'] ++ '.' :: ending.toList := by
    rw [nameOf, List.splitOn_eq_singleton hone, List.filter_cons_of_pos hpart]
    rfl
  rw [HasSuffix, name_ofString, hzero, hname]
  exact not_congr (suffixOf_dotted (by decide))

/-! ## A leading `~` -/

/-- The path is relative, and its first name begins with `~`. -/
def StartsHome (p : Path) : Prop :=
  p.root = "" ∧ p.parts.head?.bind (·.toList.head?) = some '~'

instance (p : Path) : Decidable p.StartsHome := inferInstanceAs (Decidable (_ ∧ _))

/-- The character with which the first name of a text begins. -/
theorem head_ofString (s : String) : (ofString s).parts.head?.bind (·.toList.head?) =
    ((s.toList.splitOn '/').filter isPart).head?.bind List.head? := by
  rw [ofString, List.head?_map]
  cases ((s.toList.splitOn '/').filter isPart).head? with
  | none => rfl
  | some cs => exact congrArg List.head? String.toList_ofList

/-- The root of a text does not depend on what stands behind a character that is no slash. -/
theorem rootOf_continued (xs : List Char) {c : Char} (cs : List Char) (hslash : c ≠ '/') :
    rootOf (xs ++ c :: cs) = rootOf xs := by
  have hslashes : (xs ++ c :: cs).takeWhile (· == '/') = xs.takeWhile (· == '/') := by
    rw [List.takeWhile_append, List.takeWhile_cons_of_neg (by simpa using hslash), List.append_nil]
    split
    · next hall => exact ((List.takeWhile_sublist _).eq_of_length hall).symm
    · rfl
  rw [rootOf, hslashes, rootOf]

/-- Nothing that begins with a digit or a letter makes a path begin with `~`, or not begin with it. -/
theorem startsHome_continued {s t : String} {c : Char} {cs : List Char}
    (ht : t.toList = s.toList ++ c :: cs) (hslash : c ≠ '/') (hdot : c ≠ '.') (hhome : c ≠ '~') :
    (ofString t).StartsHome ↔ (ofString s).StartsHome := by
  obtain ⟨front, last, hlast, hparts, hfront⟩ := splitOn_continued s.toList
  obtain ⟨first, rest, hfirst⟩ := splitOn_before_slash cs
  have hsplit : t.toList.splitOn '/' = front ++ (last ++ c :: first) :: rest := by
    have := hfirst (last ++ [c]) (by simpa using ⟨hlast, hslash.symm⟩)
    rw [ht, hfront]
    simpa using this
  have hpart : isPart (last ++ c :: first) = true := by
    cases last <;> simp [isPart, hdot]
  have hroot : (ofString t).root = (ofString s).root := by
    rw [ofString, ofString, ht, rootOf_continued s.toList cs hslash]
  rw [StartsHome, StartsHome, hroot, head_ofString, head_ofString, hsplit, hparts,
    List.filter_append, List.filter_append, List.filter_cons_of_pos hpart, List.head?_append,
    List.head?_append]
  refine and_congr_right fun _ => ?_
  -- the first name that counts is before the continued one, or it is the continued one
  cases (front.filter isPart).head? with
  | some name => rfl
  | none =>
    cases last with
    | nil => simp [isPart, hhome]
    | cons d last =>
      by_cases hd : isPart (d :: last) = true
      · simp [hd]
      · obtain ⟨rfl, rfl⟩ : d = '.' ∧ last = [] := by simpa [isPart] using hd
        simp [isPart]

/-- A path that does not begin with `~` is not looked up in the home directory. -/
theorem expandHome_self {p home : Path} (h : ¬p.StartsHome) : p.expandHome home = .ok p := by
  obtain ⟨root, parts⟩ := p
  cases parts with
  | nil => simp [expandHome]
  | cons first rest =>
    by_cases hroot : root = ""
    · subst hroot
      have hfirst : first.toList.head? ≠ some '~' := fun hhome => h ⟨rfl, hhome⟩
      have hhere : first ≠ "~" := by
        rintro rfl
        exact hfirst rfl
      simp [expandHome, hfirst, hhere]
    · simp [expandHome, hroot]

/-- What is looked up in the home directory has its root. -/
theorem root_of_expandHome {p q home : Path} (hp : p.StartsHome) (h : p.expandHome home = .ok q) :
    q.root = home.root := by
  obtain ⟨root, parts⟩ := p
  obtain ⟨rfl, hfirst⟩ := hp
  cases parts with
  | nil => cases hfirst
  | cons first rest =>
    change first.toList.head? = some '~' at hfirst
    simp only [expandHome, hfirst, beq_self_eq_true, if_true] at h
    split at h
    · cases h
      rfl
    · cases h

/-- Behind another path than the current directory nothing begins with `~`, unless that does. -/
theorem startsHome_join {p q : Path} (hp : ¬p.StartsHome) :
    (p.join q).StartsHome ↔ p = here ∧ q.StartsHome := by
  unfold join
  split
  · next habsolute =>
    have hq : ¬q.StartsHome := by
      rintro ⟨hroot, -⟩
      simp [isAbsolute, hroot] at habsolute
    exact iff_of_false hq fun h => hq h.2
  · next hrelative =>
    obtain ⟨root, parts⟩ := p
    have hroot : q.root = "" := by simpa [isAbsolute] using hrelative
    cases parts with
    | nil => simp [StartsHome, here, hroot]
    | cons first rest => exact iff_of_false hp (by simp [here])

end Wireframe.Path
