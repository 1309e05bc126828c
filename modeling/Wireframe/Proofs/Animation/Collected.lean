import Wireframe.Animation.Assembly
import Wireframe.Proofs.Animation.FrameNames

/-!
# `Wireframe.Proofs.Animation.Collected` — which files of a directory are taken for frames

Frames are looked for by the shape of their names: base name, so many digits, and ending. What is found comes
in the order of the names, and so the frames come in the order of their numbers. But digits of every script
are digits there, and a line break at the end of a name does not count, so that files that are no frame are
found as well. Exactly where there is none of those, the frames are all that is found.

## Contents
- `Files.filesIn`: the files of a directory.
- `isFrameName_eq`, `IsNumbered`, `isFrameName_iff`: the names that are taken for those of frames.
- `frameNames`, `mem_frameNames`, `frameNames_isNumbered`: the names of frames among them.
- `range_names_pairwise`: names in the order of the numbers.
- `collect_eq`, `mem_collect`, `collect_pairwise`, `framePaths_eq`: what is found, and in which order.
- `filter_collect`, `collect_eq_iff`: the frames among what is found.
- `collected_frames`: all of it; `collected_line_break`: files that are no frames.
-/

namespace Wireframe

open Document

/-- The names of the files in a directory; one that is missing has none. -/
def Files.filesIn (fs : Files) (directory : Path) : List String :=
  if fs.isDirectory directory then
    (fs.under directory).filterMap fun e =>
      match e.2 with
      | .directory => none
      | _ => some e.1
  else []

namespace Animation

variable {basename ending : String} {d : Nat}

/-! ## Names that are taken for those of frames -/

/-- What stands between base name and ending decides, with or without a line break at the end. -/
theorem isFrameName_eq (digits : Option Int) (name : String) :
    isFrameName basename ending digits name =
      ((between? basename ending name.toList).any (isNumbering digits) ||
        (name.toList.getLast? == some '\n' &&
          (between? basename ending name.toList.dropLast).any (isNumbering digits))) := by
  unfold isFrameName between?
  dsimp only
  -- the name as it is, and the name without its last character
  congr 1
  · cases strip? ('.' :: (withoutDots ending).toList).reverse name.toList.reverse with
    | none => rfl
    | some rest =>
      simp only [Option.bind_some]
      cases strip? basename.toList rest.reverse <;> rfl
  · congr 1
    cases strip? ('.' :: (withoutDots ending).toList).reverse name.toList.dropLast.reverse with
    | none => rfl
    | some rest =>
      simp only [Option.bind_some]
      cases strip? basename.toList rest.reverse <;> rfl

/-- A name with so many digits of any script between the base name and the ending, and perhaps a line break
    behind it. -/
def IsNumbered (basename ending : String) (d : Nat) (name : String) : Prop :=
  ∃ ds, ds.length = d ∧ (∀ c ∈ ds, Text.isDigit c = true) ∧
    ∃ rest ∈ [[], ['\n']], name.toList = basename.toList ++ ds ++ '.' :: (withoutDots ending).toList ++ rest

theorem isNumbering_iff {cs : List Char} :
    isNumbering (some (d : Int)) cs = true ↔ cs.length = d ∧ ∀ c ∈ cs, Text.isDigit c = true := by
  show (cs.length == d && cs.all fun c => (Text.digit? c).isSome) = true ↔ _
  simp [Text.isDigit]

theorem isFrameName_iff {name : String} :
    isFrameName basename ending (some (d : Int)) name = true ↔ IsNumbered basename ending d name := by
  have hany : ∀ cs : List Char, (between? basename ending cs).any (isNumbering (some (d : Int))) = true ↔
      ∃ ds, ds.length = d ∧ (∀ c ∈ ds, Text.isDigit c = true) ∧
        cs = basename.toList ++ ds ++ '.' :: (withoutDots ending).toList := by
    intro cs
    simp only [Option.any_eq_true, between_eq_some, isNumbering_iff]
    constructor
    · rintro ⟨ds, hcs, hlength, hds⟩
      exact ⟨ds, hlength, hds, hcs⟩
    · rintro ⟨ds, hlength, hds, hcs⟩
      exact ⟨ds, hcs, hlength, hds⟩
  rw [isFrameName_eq, Bool.or_eq_true, Bool.and_eq_true, beq_iff_eq, hany, hany]
  constructor
  · rintro (⟨ds, hlength, hds, hname⟩ | ⟨hlast, ds, hlength, hds, hname⟩)
    · exact ⟨ds, hlength, hds, [], by simp, by simpa using hname⟩
    · refine ⟨ds, hlength, hds, ['\n'], by simp, ?_⟩
      rw [← hname, List.dropLast_append_getLast? _ hlast]
  · rintro ⟨ds, hlength, hds, rest, hrest, hname⟩
    rcases List.mem_cons.mp hrest with rfl | hrest
    · exact .inl ⟨ds, hlength, hds, by simpa using hname⟩
    · rw [List.mem_singleton.mp hrest] at hname
      refine .inr ⟨?_, ds, hlength, hds, ?_⟩
      · rw [hname, List.getLast?_append]
        rfl
      · rw [hname, List.dropLast_concat]

/-! ## Names of frames -/

/-- An ASCII digit is a digit. -/
theorem isDigit_of_ascii {c : Char} (h : c.isDigit = true) : Text.isDigit c = true := by
  obtain ⟨hlower, hupper⟩ := digit_value h
  rw [Text.isDigit, Text.digit?, Option.isSome_map, List.find?_isSome]
  refine ⟨0x30, List.mem_cons_self, ?_⟩
  rw [Bool.and_eq_true, decide_eq_true_eq, decide_eq_true_eq]
  omega

/-- The names of the frames whose numbers have at most so many digits, in the order of the numbers. -/
def frameNames (basename ending : String) (d : Nat) : List String :=
  (List.range (10 ^ d)).map fun k => frameName basename k d ending

theorem mem_frameNames {name : String} :
    name ∈ frameNames basename ending d ↔ ∃ k < 10 ^ d, frameName basename k d ending = name := by
  simp [frameNames]

/-- The names of frames are those with ASCII digits and without a line break. -/
theorem mem_frameNames_iff (hd : 0 < d) {name : String} :
    name ∈ frameNames basename ending d ↔ ∃ ds, ds.length = d ∧ (∀ c ∈ ds, c.isDigit = true) ∧
      name.toList = basename.toList ++ ds ++ '.' :: (withoutDots ending).toList := by
  rw [mem_frameNames]
  constructor
  · rintro ⟨k, hk, rfl⟩
    exact ⟨_, length_zeroPadded hd hk, zeroPadded_isDigit d k, frameName_toList ..⟩
  · rintro ⟨ds, rfl, hds, hname⟩
    refine ⟨_, ofDigitChars_lt hds, ?_⟩
    rw [← String.toList_inj, frameName_toList, zeroPadded_of_digits hds (List.ne_nil_of_length_pos hd), hname]

theorem frameNames_isNumbered (hd : 0 < d) {name : String} (h : name ∈ frameNames basename ending d) :
    IsNumbered basename ending d name := by
  obtain ⟨ds, hlength, hds, hname⟩ := (mem_frameNames_iff hd).mp h
  exact ⟨ds, hlength, fun c hc => isDigit_of_ascii (hds c hc), [], by simp, by simpa using hname⟩

/-- The names of the first frames are in the order of the numbers. -/
theorem range_names_pairwise (hd : 0 < d) {n : Nat} (hn : ∀ k < n, k < 10 ^ d) :
    ((List.range n).map fun k => frameName basename k d ending).Pairwise (· < ·) := by
  rw [List.pairwise_map]
  refine List.Pairwise.imp_of_mem ?_ List.pairwise_lt_range
  intro j k hj hk hjk
  have hj := hn j (List.mem_range.mp hj)
  have hk := hn k (List.mem_range.mp hk)
  exact (frameName_lt_iff basename ending hd hj hk).mpr hjk

theorem frameNames_pairwise (hd : 0 < d) : (frameNames basename ending d).Pairwise (· < ·) :=
  range_names_pairwise hd fun _ hk => hk

/-! ## What is found -/

/-- The files with the names of frames, by name. -/
theorem collect_eq (fs : Files) (directory : Path) (basename ending : String) (digits : Option Int) :
    collect fs directory basename ending digits =
      ((fs.filesIn directory).filter (isFrameName basename ending digits)).mergeSort (· ≤ ·) := by
  unfold collect Files.filesIn
  split
  · rw [List.filter_filterMap]
    refine congrArg (List.mergeSort · _) (congrArg (List.filterMap · _) (funext fun e => ?_))
    obtain ⟨name, entry⟩ := e
    cases entry with
    | directory => rfl
    | _ => cases h : isFrameName basename ending digits name <;> simp [Option.filter, h]
  · simp

theorem mem_collect {fs : Files} {directory : Path} {name : String} :
    name ∈ collect fs directory basename ending (some d) ↔
      name ∈ fs.filesIn directory ∧ IsNumbered basename ending d name := by
  rw [collect_eq, List.mem_mergeSort, List.mem_filter, isFrameName_iff]

/-- What is found comes in the order of the names. -/
theorem collect_pairwise {fs : Files} {directory : Path} {digits : Option Int}
    (hnames : (fs.filesIn directory).Nodup) :
    (collect fs directory basename ending digits).Pairwise (· < ·) := by
  rw [collect_eq]
  generalize hfound : (fs.filesIn directory).filter (isFrameName basename ending digits) = found
  have hsorted : (found.mergeSort (· ≤ ·)).Pairwise fun a b => decide (a ≤ b) = true := by
    apply List.pairwise_mergeSort
    · intro a b c hab hbc
      simp only [decide_eq_true_eq] at hab hbc ⊢
      exact le_trans hab hbc
    · intro a b
      simpa using le_total a b
  have hnodup : (found.mergeSort (· ≤ ·)).Nodup := by
    rw [(List.mergeSort_perm found _).nodup_iff, ← hfound]
    exact hnames.filter _
  refine (hsorted.and hnodup).imp ?_
  rintro a b ⟨hle, hne⟩
  exact lt_of_le_of_ne (of_decide_eq_true hle) hne

/-- Widths of 32 bits cannot be looked for. -/
theorem namesOf_eq (basename ending : String) (d : Nat) :
    namesOf (.str basename) (.str ending) (.int d) =
      if d < 2 ^ 32 - 1 then .ok (basename, ending, some (d : Int)) else .error .tooLarge := by
  show (do
    if (some (d : Int)).any (2 ^ 32 - 1 ≤ ·) then throw .tooLarge
    return (basename, ending, some (d : Int)) : Except Error (String × String × Option Int)) = _
  by_cases hd : d < 2 ^ 32 - 1
  · have hfits : (some (d : Int)).any (2 ^ 32 - 1 ≤ ·) = false := by
      simp only [Option.any_some, decide_eq_false_iff_not]
      omega
    rw [hfits, if_pos hd]
    rfl
  · have hwide : (some (d : Int)).any (2 ^ 32 - 1 ≤ ·) = true := by
      simp only [Option.any_some, decide_eq_true_eq]
      omega
    rw [hwide, if_neg hd]
    rfl

theorem framePaths_eq (fs : Files) (directory : Path) (basename ending : String) (d : Nat) :
    framePaths fs directory none (.str basename) (.str ending) (.int d) =
      if d < 2 ^ 32 - 1 then .ok ((collect fs directory basename ending (some d)).map directory.child)
      else .error .tooLarge := by
  simp only [framePaths, namesOf_eq]
  split
  · rfl
  · rfl

/-! ## The frames among what is found -/

section Found

variable {fs : Files} {directory : Path}

/-- **The frames among what is found** come in the order of their numbers, and none is left out. -/
theorem filter_collect (hd : 0 < d) (hnames : (fs.filesIn directory).Nodup) {written : List String}
    (hwritten : written.Pairwise (· < ·)) (hframes : ∀ name ∈ written, name ∈ frameNames basename ending d) :
    (collect fs directory basename ending (some d)).filter (· ∈ written) =
      written.filter (· ∈ fs.filesIn directory) := by
  apply ((collect_pairwise hnames).filter _).eq_of_mem_iff (hwritten.filter _)
  intro name
  rw [List.mem_filter, List.mem_filter, mem_collect, decide_eq_true_eq, decide_eq_true_eq]
  constructor
  · rintro ⟨⟨hfile, -⟩, hname⟩
    exact ⟨hname, hfile⟩
  · rintro ⟨hname, hfile⟩
    exact ⟨⟨hfile, frameNames_isNumbered hd (hframes name hname)⟩, hname⟩

/-- Frames are all that is found exactly if every file that is taken for one is one. -/
theorem collect_eq_iff (hd : 0 < d) (hnames : (fs.filesIn directory).Nodup) {written : List String}
    (hwritten : written.Pairwise (· < ·)) (hframes : ∀ name ∈ written, name ∈ frameNames basename ending d) :
    collect fs directory basename ending (some d) = written.filter (· ∈ fs.filesIn directory) ↔
      ∀ name ∈ fs.filesIn directory, IsNumbered basename ending d name → name ∈ written := by
  rw [← filter_collect hd hnames hwritten hframes, eq_comm, List.filter_eq_self]
  constructor
  · intro h name hfile hname
    exact of_decide_eq_true (h name (mem_collect.mpr ⟨hfile, hname⟩))
  · intro h name hname
    obtain ⟨hfile, hname⟩ := mem_collect.mp hname
    exact decide_eq_true (h name hfile hname)

end Found

/-- **The frames in a directory.** What is found are the files with so many digits of any script between base
    name and ending, with or without a line break at the end, in the order of their names. The frames
    among them are all frames that are there, in the order of their numbers; they are all that is found
    exactly if every file that is taken for a frame is one. So the frames of a run, with the width that is
    made for their number and any minimum, are found in their order, and alone if no other file is taken
    for a frame. Widths of 32 bits are refused. -/
theorem collected_frames (fs : Files) (directory : Path) (basename ending : String) {d : Nat} (hd : 1 ≤ d)
    (hnames : (fs.filesIn directory).Nodup) :
    let files := fs.filesIn directory
    let frames := frameNames basename ending d
    let found := framePaths fs directory none (.str basename) (.str ending) (.int d)
    (2 ^ 32 - 1 ≤ d → found = .error .tooLarge) ∧
      (d < 2 ^ 32 - 1 → ∃ names, found = .ok (names.map directory.child) ∧
        names.Pairwise (· < ·) ∧
        (∀ name, name ∈ names ↔ name ∈ files ∧ IsNumbered basename ending d name) ∧
        names.filter (· ∈ frames) = frames.filter (· ∈ files) ∧
        (names = frames.filter (· ∈ files) ↔
          ∀ name ∈ files, IsNumbered basename ending d name → name ∈ frames) ∧
        ∀ (n : Nat) (minimum : Int), frameDigits n minimum = .ok d →
          let written := (List.range n).map fun k => frameName basename k d ending
          (∀ name ∈ written, name ∈ files) →
            names.filter (· ∈ written) = written ∧
              (names = written ↔ ∀ name ∈ files, IsNumbered basename ending d name → name ∈ written)) := by
  intro files frames found
  have hfound := framePaths_eq fs directory basename ending d
  refine ⟨fun hwide => hfound.trans (if_neg (by omega)), fun hfits => ?_⟩
  refine ⟨_, hfound.trans (if_pos hfits), collect_pairwise hnames, fun name => mem_collect,
    filter_collect hd hnames (frameNames_pairwise hd) fun _ h => h,
    collect_eq_iff hd hnames (frameNames_pairwise hd) fun _ h => h, ?_⟩
  intro n minimum hwidth written hthere
  -- the frames of a run are the first of all frames
  have hlt : ∀ k < n, k < 10 ^ d := by
    intro k hk
    have hk := lt_of_frameWidth minimum hk
    rwa [frameWidth_of_ok hwidth] at hk
  have hsorted : written.Pairwise (· < ·) := range_names_pairwise hd hlt
  have hframes : ∀ name ∈ written, name ∈ frames := by
    intro name hname
    obtain ⟨k, hk, rfl⟩ := List.mem_map.mp hname
    exact mem_frameNames.mpr ⟨k, hlt k (List.mem_range.mp hk), rfl⟩
  have hall : written.filter (· ∈ files) = written :=
    List.filter_eq_self.mpr fun name hname => decide_eq_true (hthere name hname)
  have hfilter := filter_collect hd hnames hsorted hframes
  have hiff := collect_eq_iff hd hnames hsorted hframes
  rw [hall] at hfilter hiff
  exact ⟨hfilter, hiff⟩

/-- The current directory with the given files. -/
def directoryOf (names : List String) : Files where
  entries := ⟨names.map fun name => (Path.here.child name, .text "")⟩

/-- Two frames of a run beside its animation and a file of another name. -/
theorem collected_frames_pair :
    framePaths (directoryOf ["demo.gif", "demo001.png", "demox001.png", "demo000.png"]) .here none
      (.str "demo") (.str "png") (.int 3) =
        .ok [Path.here.child "demo000.png", Path.here.child "demo001.png"] := by
  have hfiles : (directoryOf ["demo.gif", "demo001.png", "demox001.png", "demo000.png"]).filesIn .here =
      ["demo.gif", "demo001.png", "demox001.png", "demo000.png"] := by decide
  have hnames :
      ((directoryOf ["demo.gif", "demo001.png", "demox001.png", "demo000.png"]).filesIn .here).Nodup := by
    rw [hfiles]
    decide
  obtain ⟨names, hfound, -, -, -, -, hrun⟩ :=
    (collected_frames _ .here "demo" "png" (d := 3) (by decide) hnames).2 (by decide)
  have hwritten : ((List.range 2).map fun k => frameName "demo" k 3 "png") =
      ["demo000.png", "demo001.png"] := by decide
  obtain ⟨-, hall⟩ := hrun 2 3 rfl (by rw [hfiles, hwritten]; decide)
  rw [hfiles, hwritten] at hall
  -- the two other names are not taken for those of frames
  have hothers : ∀ name ∈ ["demo.gif", "demo001.png", "demox001.png", "demo000.png"],
      isFrameName "demo" "png" (some (3 : Nat)) name = true → name ∈ ["demo000.png", "demo001.png"] := by
    decide
  have hpair : names = ["demo000.png", "demo001.png"] :=
    hall.mpr fun name hname hnumbered => hothers name hname (isFrameName_iff.mpr hnumbered)
  rw [hpair] at hfound
  exact hfound

/-- A file with a line break at the end of its name, and one with digits of another script, are no frames and
    are found. -/
theorem collected_line_break :
    framePaths (directoryOf ["demo000.png", "demo003.png\n", "demo٠٠١.png"]) .here none
      (.str "demo") (.str "png") (.int 3) =
        .ok (["demo000.png", "demo003.png\n", "demo٠٠١.png"].map Path.here.child) ∧
      "demo003.png\n" ∉ frameNames "demo" "png" 3 ∧ "demo٠٠١.png" ∉ frameNames "demo" "png" 3 := by
  have hfound : ((directoryOf ["demo000.png", "demo003.png\n", "demo٠٠١.png"]).filesIn .here).filter
      (isFrameName "demo" "png" (some (3 : Nat))) = ["demo000.png", "demo003.png\n", "demo٠٠١.png"] := by
    decide
  have hsorted : ["demo000.png", "demo003.png\n", "demo٠٠١.png"].Pairwise fun a b =>
      decide (a ≤ b) = true := by decide
  refine ⟨?_, ?_, ?_⟩
  rotate_left
  · intro hname
    obtain ⟨ds, hlength, -, hds⟩ := (mem_frameNames_iff (by decide)).mp hname
    have hlong := congrArg List.length hds
    rw [List.length_append, List.length_append, hlength] at hlong
    exact absurd hlong (by decide)
  · intro hname
    obtain ⟨ds, hlength, hdigits, hds⟩ := (mem_frameNames_iff (by decide)).mp hname
    have hmiddle : ['٠', '٠', '١'] = ds := by
      have hcut := congrArg (fun cs => (cs.drop 4).take 3) hds
      rw [List.append_assoc] at hcut
      simpa [hlength] using hcut
    rw [← hmiddle] at hdigits
    exact absurd (hdigits '٠' List.mem_cons_self) (by decide)
  refine (framePaths_eq _ _ "demo" "png" 3).trans ?_
  rw [if_pos (by decide), collect_eq, hfound, List.mergeSort_of_pairwise hsorted]

end Animation

end Wireframe
