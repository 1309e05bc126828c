import Wireframe.Opcode.Parse
import Wireframe.Proofs.Basic
import Wireframe.Proofs.Dict
import Wireframe.Proofs.Document.Labels
import Wireframe.Proofs.Text.Snake

/-!
# `Wireframe.Proofs.Opcode.Keyword` — the case of keywords

A keyword is looked up by its normal form, and that has an underscore before each capital that begins a
word inside the keyword. Keywords without such capitals are looked up as they are, in lower case, so the
case of their letters does not matter. One more underscore makes a keyword unknown where it had its
underscores already; and since letters are never lost, no keyword becomes another one.

## Contents
- `spelled`, `lookedUp`, `ofKeyword_iff`: how a keyword is looked up.
- `Resembles`, `resembles_of_case`: keywords up to case, hyphens and blanks.
- `Resembles.eq_of_known`, `Resembles.lookedUp_eq`, `Resembles.unknown`: what becomes of two of them.
- `parseFields`, `Named`, `parseItem_eq`, `parseItem_unknown`: items and their keywords.
- `ReadAlike`, `readAlike_iff`: items that are equal but for their keywords.
- `keyword_case`: the case of keywords in items.
-/

namespace Wireframe

open Document Text
open Decimal (asciiLower)

/-- What a registry has under a text. -/
theorem Registry.get_ok_iff {β : Type} {r : Registry β} {name : String} {thing : β} :
    r.get (.str name) = .ok thing ↔
      (trim name).isEmpty = false ∧ r.table.find? (snake name) = some thing := by
  rw [Registry.get, Registry.key, Registry.normalize]
  cases (trim name).isEmpty with
  | true => exact iff_of_false (fun h => by cases h) (fun h => by cases h.1)
  | false =>
    simp only [Bool.false_eq_true, if_false, true_and, Bind.bind, Except.bind]
    cases r.table.find? (snake name) with
    | none => exact iff_of_false (fun h => by cases h) (fun h => by cases h)
    | some other =>
      show Except.ok other = .ok thing ↔ _
      rw [Except.ok.injEq, Option.some.injEq]

namespace Form

/-! ## Looking up -/

/-- The characters of a keyword without blanks around it, with underscores for hyphens and blanks. -/
def spelled (s : String) : List Char :=
  (trim s).toList.map fun c => if c == ' ' || c == '-' then '_' else c

/-- Some capital begins a word inside the keyword. -/
def HasWords (s : String) : Prop := hasWords (spelled s) = true

instance (s : String) : Decidable (HasWords s) := by
  unfold HasWords
  exact inferInstance

/-- The keyword stands for some kind of instruction. -/
def Known (s : String) : Prop := ∃ f, Form.ofKeyword (trim s) = .ok f

/-- The normal form by which a keyword is looked up. -/
def lookedUp (s : String) : List Char :=
  lowerFrom false (if hasWords (spelled s) then splitCapitals (splitWords (spelled s)) else spelled s)

theorem keywords_find {k : String} {f : Form} : keywords.table.find? k = some f ↔ k = f.keyword := by
  constructor
  · intro h
    have hnames : ∀ e ∈ keywords.table.entries, e.1 = e.2.keyword := by decide
    obtain ⟨e, he, hk, rfl⟩ := Dict.exists_of_find h
    rw [← hnames e he]
    exact (eq_of_beq hk).symm
  · rintro rfl
    cases f <;> rfl

theorem bare_keyword (s : String) :
    bare (String.ofList ((trim s).toList.map fun c => if c == ' ' then '_' else c)) = spelled s := by
  have hblank : ∀ c, isBlank c = false → isBlank (if c == ' ' then '_' else c) = false := by
    intro c hc
    split
    · rfl
    · exact hc
  rw [bare, trim, String.toList_ofList, String.toList_ofList, trim, String.toList_ofList,
    trimBy_map hblank, List.map_map, spelled, trim, String.toList_ofList]
  refine List.map_congr_left fun c _ => ?_
  rw [Function.comp_apply]
  by_cases hblank : c == ' '
  · simp [hblank]
  · simp [hblank]

/-- A keyword stands for the kind of instruction whose keyword is its normal form. -/
theorem ofKeyword_iff {s : String} {f : Form} :
    Form.ofKeyword (trim s) = .ok f ↔ lookedUp s = f.keyword.toList := by
  generalize hu : String.ofList ((trim s).toList.map fun c => if c == ' ' then '_' else c) = u
  have hbare : bare u = spelled s := by rw [← hu, bare_keyword]
  have hsnake : snake u = String.ofList (lookedUp s) := by
    rw [snake_eq, hbare, lower, String.toList_ofList, lookedUp]
  have hkey : Form.ofKeyword (trim s) = keywords.get (.str u) := by rw [Form.ofKeyword, hu]
  have hfind : keywords.table.find? (snake u) = some f ↔ lookedUp s = f.keyword.toList := by
    rw [keywords_find, hsnake, ← String.toList_inj, String.toList_ofList]
  rw [hkey, Registry.get_ok_iff, hfind]
  refine and_iff_right_of_imp fun h => Bool.eq_false_iff.mpr fun hempty => ?_
  -- if nothing is left to look up, it is no keyword
  have hnone : bare u = [] := by
    rw [bare, String.isEmpty_iff.mp hempty]
    rfl
  rw [lookedUp, ← hbare, hnone] at h
  cases f <;> cases h

/-! ## Keywords that resemble each other -/

/-- The keywords differ in the case of ASCII letters, in blanks around them, and in hyphens, blanks and
    underscores between words. -/
def Resembles (s t : String) : Prop := (spelled s).map asciiLower = (spelled t).map asciiLower

/-- Keywords that differ in the case of ASCII letters alone. -/
theorem resembles_of_case {s t : String} (h : s.toList.map asciiLower = t.toList.map asciiLower) :
    Resembles s t := by
  have htrim : ∀ s : String, (trim s).toList.map asciiLower = trimBy isBlank (s.toList.map asciiLower) := by
    intro s
    rw [trim, String.toList_ofList, trimBy_map_comm isBlank_asciiLower]
  have hspelled : ∀ s : String, (spelled s).map asciiLower =
      ((trim s).toList.map asciiLower).map fun c => asciiLower (if c == ' ' || c == '-' then '_' else c) := by
    intro s
    rw [spelled, List.map_map, List.map_map]
    refine List.map_congr_left fun c _ => ?_
    exact (map_asciiLower_eq (fun c => asciiLower (if c == ' ' || c == '-' then '_' else c))
      (by decide) c).symm
  rw [Resembles, hspelled, hspelled, htrim, htrim, h]

theorem map_unfinal_keyword (f : Form) : f.keyword.toList.map unfinal = f.keyword.toList := by
  cases f <;> decide

/-- The letters of a keyword that is known are those of the kind of instruction. -/
theorem letters_of_known {s : String} {f : Form} (h : lookedUp s = f.keyword.toList) :
    f.keyword.toList.filter (· != '_') = ((spelled s).flatMap plainLower).filter (· != '_') := by
  -- splitting adds underscores only, and those are left out here
  have hmark : (plainLower '_').filter (· != '_') = [] := by decide
  rw [← map_unfinal_keyword, ← h, lookedUp, map_unfinal_lowerFrom]
  split
  · rw [filter_splitCapitals hmark, filter_splitWords hmark]
  · rfl

/-- Different kinds of instructions have keywords with different letters. -/
theorem eq_of_letters {f g : Form}
    (h : f.keyword.toList.filter (· != '_') = g.keyword.toList.filter (· != '_')) : f = g := by
  have hall : ∀ f ∈ Form.all, ∀ g ∈ Form.all,
      f.keyword.toList.filter (· != '_') = g.keyword.toList.filter (· != '_') → f = g := by decide
  have hmem : ∀ f : Form, f ∈ Form.all := fun f => by cases f <;> decide
  exact hall f (hmem f) g (hmem g) h

theorem length_keyword {s : String} {f : Form} (h : lookedUp s = f.keyword.toList) :
    f.keyword.toList.length =
      ((if hasWords (spelled s) then splitCapitals (splitWords (spelled s)) else spelled s).flatMap
        plainLower).length := by
  rw [← h, ← List.length_map (f := unfinal), lookedUp, map_unfinal_lowerFrom]

namespace Resembles

variable {s t : String} {f g : Form}

theorem symm (h : Resembles s t) : Resembles t s := Eq.symm h

theorem flatMap_eq (h : Resembles s t) :
    (spelled s).flatMap plainLower = (spelled t).flatMap plainLower := by
  have hlower : ∀ cs : List Char, cs.flatMap plainLower = (cs.map asciiLower).flatMap plainLower := by
    intro cs
    rw [List.flatMap_map]
    refine List.flatMap_congr fun c _ => ?_
    rw [plainLower, plainLower, lowerChar_asciiLower]
  rw [hlower, h, ← hlower]

/-- Keywords that resemble each other are never known as different kinds of instructions. -/
theorem eq_of_known (h : Resembles s t) (hs : lookedUp s = f.keyword.toList)
    (ht : lookedUp t = g.keyword.toList) : f = g := by
  refine eq_of_letters ?_
  rw [letters_of_known hs, letters_of_known ht, h.flatMap_eq]

/-- Without words inside, keywords that resemble each other are looked up as one. -/
theorem lookedUp_eq (h : Resembles s t) (hs : ¬ HasWords s) (ht : ¬ HasWords t) :
    lookedUp s = lookedUp t := by
  rw [HasWords] at hs ht
  rw [lookedUp, lookedUp, if_neg hs, if_neg ht, ← lowerFrom_asciiLower, h, lowerFrom_asciiLower]

/-- A keyword with words inside is unknown if one without them is known. -/
theorem unknown (h : Resembles s t) (hs : ¬ HasWords s) (ht : HasWords t)
    (hknown : lookedUp s = f.keyword.toList) : lookedUp t ≠ g.keyword.toList := by
  intro hother
  -- both would be spellings of one keyword, but the second has more underscores than fit
  obtain rfl := h.eq_of_known hknown hother
  have hlength := length_keyword hknown
  have hlength' := length_keyword hother
  have hmark : 0 < (plainLower '_').length := by decide
  have hlonger := length_lt_split hmark ht
  rw [HasWords] at hs ht
  rw [if_neg hs, h.flatMap_eq] at hlength
  rw [if_pos ht] at hlength'
  omega

end Resembles

end Form

/-! ## Items -/

section
variable {β γ : Type}

/-- The results are the same, or both are failures. -/
def SameResult (r r' : Except Error β) : Prop := r.toOption = r'.toOption

theorem SameResult.bind {r r' : Except Error β} {f f' : β → Except Error γ} (h : SameResult r r')
    (hrest : ∀ x, SameResult (f x) (f' x)) : SameResult (r >>= f) (r' >>= f') := by
  cases r with
  | error e =>
    cases r' with
    | error e' => rfl
    | ok x => cases h
  | ok x =>
    cases r' with
    | error e' => cases h
    | ok x' =>
      cases h
      exact hrest x

end

/-- An instruction from the fields of an item whose keyword is known. -/
def parseFields (form : Form) (index : Int) (keyword : String) (fs : Fields) : Except Error (Opcode Float) := do
  let fs ← withArguments form index keyword fs
  match form.ofFields index keyword fs with
  | .ok op => return op
  | .error e => throw (inItem index keyword e)

theorem addArguments_keyword (index : Int) (kw kw' : String) (fs : Fields) (args : List (String × Value)) :
    SameResult (addArguments index kw fs args) (addArguments index kw' fs args) := by
  induction args generalizing fs with
  | nil => rfl
  | cons arg args ih =>
    obtain ⟨name, v⟩ := arg
    simp only [addArguments]
    split
    · rfl
    · exact ih _

theorem withArguments_keyword (form : Form) (index : Int) (kw kw' : String) (fs : Fields) :
    SameResult (withArguments form index kw fs) (withArguments form index kw' fs) := by
  simp only [withArguments]
  split
  · rfl
  · split
    · rfl
    · exact addArguments_keyword ..
  · split
    · rfl
    · exact addArguments_keyword ..
  · rfl

theorem checkUnknown_keyword (index : Int) (kw kw' : String) (form : Form) (fs : Fields) :
    SameResult (checkUnknown index kw form fs) (checkUnknown index kw' form fs) := by
  simp only [checkUnknown]
  split
  · rfl
  · split <;> rfl

/-- The keyword of an item is shown in messages, but nothing else depends on it. -/
theorem parseFields_keyword (form : Form) (index : Int) (kw kw' : String) (fs : Fields) :
    SameResult (parseFields form index kw fs) (parseFields form index kw' fs) := by
  refine (withArguments_keyword form index kw kw' fs).bind fun fs => ?_
  have hfields : SameResult (form.ofFields index kw fs) (form.ofFields index kw' fs) := by
    unfold Form.ofFields
    dsimp only
    split
    · exact SameResult.bind rfl fun fs => (checkUnknown_keyword ..).bind fun _ => rfl
    · exact SameResult.bind rfl fun fs => (checkUnknown_keyword ..).bind fun _ => rfl
  unfold SameResult at hfields
  cases hk : form.ofFields index kw fs <;> cases hk' : form.ofFields index kw' fs <;>
    rw [hk, hk'] at hfields <;> cases hfields <;> rfl

/-- The keyword of an item is a text; the other fields of the item are given. -/
def Named (item : Value) (word : String) (others : Fields) : Prop :=
  ∃ fs, itemFields? item = some fs ∧ fs.content "op" = .str word ∧ fs.erase (.text "op") = others

theorem parseItem_eq {item : Value} {word : String} {others : Fields} (h : Named item word others)
    (index : Int) : parseItem item index =
      match Form.ofKeyword (trim word) with
      | .error _ => .error (.unknownOpcode index (trim word))
      | .ok form => parseFields form index (trim word) others := by
  obtain ⟨fs, hfs, hword, rfl⟩ := h
  have htext : (Value.str word).text = word := rfl
  have hwritable : (Value.str word).isWritable = true := rfl
  simp only [parseItem, hfs, hword, htext, hwritable, Bool.not_true, Bool.false_eq_true, if_false]
  generalize Form.ofKeyword (trim word) = known
  cases known <;> rfl

theorem parseItem_unknown {item : Value} {word : String} {others : Fields} (h : Named item word others)
    (hunknown : ∀ f, Form.ofKeyword (trim word) ≠ .ok f) (index : Int) :
    parseItem item index = .error (.unknownOpcode index (trim word)) := by
  rw [parseItem_eq h]
  cases hword : Form.ofKeyword (trim word) with
  | error e => rfl
  | ok f => exact absurd hword (hunknown f)

/-- Items that are equal but for their keywords are read as one instruction, or both keywords are
    unknown. -/
def ReadAlike (s t : String) : Prop :=
  ∀ item item' others, Named item s others → Named item' t others → ∀ index,
    (∃ f, Form.ofKeyword (trim s) = .ok f ∧ Form.ofKeyword (trim t) = .ok f ∧
      SameResult (parseItem item index) (parseItem item' index)) ∨
    (parseItem item index = .error (.unknownOpcode index (trim s)) ∧
      parseItem item' index = .error (.unknownOpcode index (trim t)))

/-- A keyword that is known is not reported as unknown. -/
theorem parseItem_str_ne_unknown {s : String} {f : Form} (h : Form.ofKeyword (trim s) = .ok f) :
    parseItem (.str s) 0 ≠ .error (.unknownOpcode 0 (trim s)) := by
  have hnamed : Named (.str s) s ⟨[]⟩ := ⟨_, rfl, rfl, rfl⟩
  rw [parseItem_eq hnamed, h]
  generalize trim s = keyword
  cases f <;> exact fun hunknown => by cases hunknown

/-- Keywords that resemble each other are read alike if both are known or both are not. -/
theorem readAlike_iff {s t : String} (h : Form.Resembles s t) :
    ReadAlike s t ↔ (Form.Known s ↔ Form.Known t) := by
  constructor
  · intro halike
    rcases halike (.str s) (.str t) ⟨[]⟩ ⟨_, rfl, rfl, rfl⟩ ⟨_, rfl, rfl, rfl⟩ 0 with
      ⟨f, hs, ht, -⟩ | ⟨hs, ht⟩
    · exact iff_of_true ⟨f, hs⟩ ⟨f, ht⟩
    · exact iff_of_false (fun ⟨f, hf⟩ => parseItem_str_ne_unknown hf hs)
        fun ⟨f, hf⟩ => parseItem_str_ne_unknown hf ht
  · intro hknown item item' others hitem hitem' index
    by_cases hs : Form.Known s
    · obtain ⟨f, hf⟩ := hs
      obtain ⟨g, hg⟩ := hknown.mp ⟨f, hf⟩
      obtain rfl := h.eq_of_known (Form.ofKeyword_iff.mp hf) (Form.ofKeyword_iff.mp hg)
      refine .inl ⟨f, hf, hg, ?_⟩
      rw [parseItem_eq hitem, parseItem_eq hitem', hf, hg]
      exact parseFields_keyword ..
    · exact .inr ⟨parseItem_unknown hitem (fun f hf => hs ⟨f, hf⟩) index,
        parseItem_unknown hitem' (fun f hf => hs (hknown.mpr ⟨f, hf⟩)) index⟩

/-- **The case of keywords.** Keywords that differ in case alone resemble each other. Those that do are
    never taken for different kinds of instructions, so they are read alike if both are known or both are
    not. That is so if no capital begins a word inside either of them; a capital that begins a word inside
    one makes it unknown where the other is known. So a spelling of the keyword of a kind of instructions
    stands for it exactly if no capital begins a word inside. -/
theorem keyword_case (s t : String) :
    (s.toList.map asciiLower = t.toList.map asciiLower → Form.Resembles s t) ∧
    (Form.Resembles s t →
      (∀ f g, Form.ofKeyword (trim s) = .ok f → Form.ofKeyword (trim t) = .ok g → f = g) ∧
      (ReadAlike s t ↔ (Form.Known s ↔ Form.Known t)) ∧
      (¬ Form.HasWords s → ¬ Form.HasWords t → ReadAlike s t) ∧
      (Form.Known s → ¬ Form.HasWords s → Form.HasWords t →
        ∀ item others, Named item t others → ∀ index,
          parseItem item index = .error (.unknownOpcode index (trim t)))) ∧
    (∀ f : Form, Form.Resembles s f.keyword →
      (Form.ofKeyword (trim s) = .ok f ↔ ¬ Form.HasWords s)) := by
  refine ⟨Form.resembles_of_case, fun h => ⟨?_, readAlike_iff h, ?_, ?_⟩, fun f h => ?_⟩
  · exact fun f g hf hg => h.eq_of_known (Form.ofKeyword_iff.mp hf) (Form.ofKeyword_iff.mp hg)
  · intro hs ht
    rw [readAlike_iff h]
    refine exists_congr fun f => ?_
    rw [Form.ofKeyword_iff, Form.ofKeyword_iff, h.lookedUp_eq hs ht]
  · intro hknown hs ht item others hitem index
    obtain ⟨f, hf⟩ := hknown
    exact parseItem_unknown hitem
      (fun g hg => h.unknown hs ht (Form.ofKeyword_iff.mp hf) (Form.ofKeyword_iff.mp hg)) index
  · have hplain : ¬ Form.HasWords f.keyword := by cases f <;> decide
    have hknown : Form.lookedUp f.keyword = f.keyword.toList := by cases f <;> decide
    rw [Form.ofKeyword_iff]
    refine ⟨fun hs hwords => ?_, fun hwords => ?_⟩
    · exact h.symm.unknown hplain hwords hknown hs
    · rw [h.lookedUp_eq hwords hplain, hknown]

/-- The item for an instruction that sets all knobs to one, by a keyword. -/
def knobsItem (word : String) : Value := .map [(.text "op", .str word), (.text "value", .int 1)]

theorem named_knobsItem (word : String) : Named (knobsItem word) word ⟨[(.text "value", .int 1)]⟩ :=
  ⟨_, rfl, rfl, rfl⟩

theorem keyword_case_upper :
    SameResult (parseItem (knobsItem "SETKNOBS") 0) (parseItem (knobsItem "setknobs") 0) := by
  have hcase := keyword_case "SETKNOBS" "setknobs"
  rcases (hcase.2.1 (hcase.1 (by decide))).2.2.1 (by decide) (by decide) _ _ _
    (named_knobsItem _) (named_knobsItem _) 0 with ⟨f, -, -, hsame⟩ | ⟨hunknown, hunknown'⟩
  · exact hsame
  · rw [SameResult, hunknown, hunknown']
    rfl

/-- The name of the kind of instructions is not a spelling of its keyword: a capital begins a word inside. -/
theorem keyword_lost_setKnobs :
    "SetKnobs".toList.map asciiLower = "setknobs".toList.map asciiLower ∧
      (parseItem (knobsItem "setknobs") 0).toOption.map Opcode.form = some .setKnobs ∧
      parseItem (knobsItem "SetKnobs") 0 = .error (.unknownOpcode 0 "SetKnobs") := by
  refine ⟨by decide, by decide, ?_⟩
  refine parseItem_unknown (named_knobsItem _) (fun f hf => ?_) 0
  have hlooked : Form.lookedUp "SetKnobs" = "set_knobs".toList := by decide +kernel
  rw [Form.ofKeyword_iff, hlooked] at hf
  revert hf
  cases f <;> decide

end Wireframe
