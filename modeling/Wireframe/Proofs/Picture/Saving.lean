import Wireframe.Picture
import Wireframe.Proofs.Files
import Wireframe.Proofs.Path

/-!
# `Wireframe.Proofs.Picture.Saving` — where a picture is saved

A picture is saved under the path that its file name stands for, and it is found there. The file name
stands for itself if it has an ending and does not begin with `~`, and for another path otherwise.

## Contents
- `withEnding_ok`, `resolvePath_self`: file names that stand for themselves.
- `prepare_ok`, `writeAs_ok`, `save_ok`: pictures that are saved.
- `save_home`: the home directory.
-/

namespace Wireframe.Picture

/-! ## File names -/

/-- An ending is given to a name that has none. -/
theorem withEnding_ok {ending : String} {p q : Path} (h : withEnding ending p = .ok q) :
    (p.HasSuffix ∧ q = p) ∨ (¬p.HasSuffix ∧ q = p.parent.child (p.name ++ dotted ending)) := by
  simp only [withEnding] at h
  split at h
  · next hempty =>
    refine .inr ⟨Path.suffix_isEmpty.mp hempty, ?_⟩
    simp only [Path.withName] at h
    split at h <;> cases h
    rfl
  · next hempty =>
    cases h
    exact .inl ⟨not_not.mp fun hnone => hempty (Path.suffix_isEmpty.mpr hnone), rfl⟩

/-- An ending is not empty. -/
theorem dotted_ne_empty (ending : String) : dotted ending ≠ "" := by
  unfold dotted
  split
  · next hdot =>
    rintro rfl
    cases hdot
  · simp

/-- A file name with another ending is another one. -/
theorem child_dotted_ne (p : Path) (ending : String) : p.parent.child (p.name ++ dotted ending) ≠ p := by
  intro h
  have hname : p.name = p.name ++ dotted ending := by
    calc p.name = (p.parent.child (p.name ++ dotted ending)).name := by rw [h]
      _ = p.name ++ dotted ending := by simp [Path.child, Path.name]
  exact dotted_ne_empty ending (String.append_eq_left_iff.mp hname.symm)

/-- A file name stands for itself exactly if it has an ending and does not begin with `~`. -/
theorem resolvePath_self {home p : Path} {ending : String} (hhome : home.isAbsolute = true) :
    resolvePath home ending p = .ok p ↔ p.HasSuffix ∧ ¬p.StartsHome := by
  constructor
  · intro h
    obtain ⟨q, hq, hending⟩ := bind_ok h
    have hstart : ¬p.StartsHome := by
      intro hstart
      -- the path is relative, and what is found in the home directory is not
      have hroot : p.root = q.root := by
        rcases withEnding_ok hending with ⟨-, rfl⟩ | ⟨-, rfl⟩ <;> rfl
      rw [hstart.1, Path.root_of_expandHome hstart hq] at hroot
      rw [Path.isAbsolute, ← hroot] at hhome
      cases hhome
    rw [Path.expandHome_self hstart] at hq
    cases hq
    rcases withEnding_ok hending with ⟨hsuffix, -⟩ | ⟨-, hself⟩
    · exact ⟨hsuffix, hstart⟩
    · exact absurd hself.symm (child_dotted_ne p ending)
  · rintro ⟨hsuffix, hstart⟩
    show p.expandHome home >>= withEnding ending = .ok p
    rw [Path.expandHome_self hstart]
    exact if_neg fun hempty => Path.suffix_isEmpty.mp hempty hsuffix

/-! ## Saved pictures -/

/-- Before a picture is written, its directory is made. -/
theorem prepare_ok {p q : Path} {fs fs' : Files} (h : prepare p fs = .ok (q, fs')) :
    resolvePath fs.home defaultEnding p = .ok q ∧ fs'.home = fs.home := by
  obtain ⟨path, hpath, h⟩ := bind_ok h
  split at h
  · cases h
    exact ⟨hpath, rfl⟩
  · obtain ⟨made, hmade, h⟩ := bind_ok h
    cases h
    exact ⟨hpath, Files.makeDirectories_home hmade⟩

/-- A picture that is written is found. -/
theorem writeAs_ok {k : Keeping} {s : Screen} {path q : Path} {fs fs' : Files}
    (h : writeAs k s path fs = (fs', .ok q)) : q = path ∧ fs'.find? q = some (k.entry s) := by
  simp only [writeAs] at h
  split at h
  · cases h
  · next hwritten =>
    split at h
    · cases h
    · cases h
      exact ⟨rfl, Files.find_of_write hwritten⟩

theorem writeAs_home (k : Keeping) (s : Screen) (path : Path) (fs : Files) :
    (writeAs k s path fs).1.home = fs.home := by
  simp only [writeAs]
  split
  · rfl
  · next hwritten => split <;> exact Files.write_home hwritten

/-- A picture that is saved is found under the path that its file name stands for, which is the one that
    is answered. -/
theorem save_ok {s : Screen} {p q : Path} {fs fs' : Files} (h : save s p fs = (fs', .ok q)) :
    resolvePath fs.home defaultEnding p = .ok q ∧
      ∃ k, Keeping.ofEnding? q.suffix = some k ∧ fs'.find? q = some (k.entry s) := by
  simp only [save] at h
  split at h
  · cases h
  · next path made hprepared =>
    split at h
    · cases h
    · next k hk =>
      obtain ⟨rfl, hfound⟩ := writeAs_ok h
      exact ⟨(prepare_ok hprepared).1, k, hk, hfound⟩

theorem save_home (s : Screen) (p : Path) (fs : Files) : (save s p fs).1.home = fs.home := by
  simp only [save]
  split
  · rfl
  · next hprepared =>
    split
    · exact (prepare_ok hprepared).2
    · rw [writeAs_home]
      exact (prepare_ok hprepared).2

end Wireframe.Picture
