import Wireframe.Files
import Wireframe.Proofs.Basic
import Wireframe.Proofs.Dict

/-!
# `Wireframe.Proofs.Files` — what is found after a change

A file that is written is found under the path under which it was written: the directories on the way are
those that were there before. Nothing changes the home directory.

## Contents
- `descend_of_directories`, `find_of_write`: written files.
- `makeFrom_home`, `makeDirectories_home`, `write_home`: the home directory.
-/

namespace Wireframe.Files

/-- A way through directories stays one as long as they are there. -/
theorem descend_of_directories {fs fs' : Files} {p place end_ : Path} {names : List String}
    (hkept : ∀ place, fs.entry? place = some .directory → fs'.entry? place = some .directory)
    (h : fs.descend p place names = .ok end_) : fs'.descend p place names = .ok end_ := by
  induction names generalizing place with
  | nil => exact h
  | cons name rest ih =>
    simp only [descend] at h ⊢
    split
    · next hup =>
      rw [if_pos hup] at h
      exact ih h
    · next hup =>
      rw [if_neg hup] at h
      split
      · next hlong =>
        rw [if_pos hlong] at h
        cases h
      · next hlong =>
        rw [if_neg hlong] at h
        split
        · next hlast =>
          rw [if_pos hlast] at h
          exact h
        · next hlast =>
          rw [if_neg hlast] at h
          split at h
          · next hdirectory =>
            rw [hkept _ hdirectory]
            exact ih h
          · cases h
          · cases h

/-- What is written is a file at the place of the path, where no directory was. -/
theorem write_ok {fs fs' : Files} {p : Path} {e : Entry} (h : fs.write p e = .ok fs') :
    ∃ place, fs.locate p = .ok place ∧ fs.entry? place ≠ some .directory ∧
      fs' = { fs with entries := fs.entries.insert place e } := by
  obtain ⟨place, hplace, h⟩ := bind_ok h
  refine ⟨place, hplace, ?_⟩
  dsimp only at h
  split at h
  · obtain ⟨_, hthrow, -⟩ := bind_ok h
    cases hthrow
  · split at h
    · cases h
    · next hfile =>
      cases h
      exact ⟨hfile, rfl⟩

/-- What is written is found under the path under which it was written. -/
theorem find_of_write {fs fs' : Files} {p : Path} {e : Entry} (h : fs.write p e = .ok fs') :
    fs'.find? p = some e := by
  obtain ⟨place, hplace, hfile, rfl⟩ := write_ok h
  have hparts : place.parts.isEmpty = false := by
    cases hempty : place.parts.isEmpty with
    | false => rfl
    | true =>
      exact absurd (if_pos hempty) hfile
  -- no directory is written over, so the way to the place is the same as before
  have hkept : ∀ q, fs.entry? q = some .directory →
      Files.entry? { fs with entries := fs.entries.insert place e } q = some .directory := by
    intro q hq
    have hother : (place == q) = false := by
      rw [beq_eq_false_iff_ne]
      rintro rfl
      exact hfile hq
    simp only [Dict.find_insert_ne hother, entry?] at hq ⊢
    exact hq
  have hsame : Files.locate { fs with entries := fs.entries.insert place e } p = .ok place := by
    simp only [locate] at hplace ⊢
    split
    · next hends =>
      rw [if_pos hends] at hplace
      cases hplace
    · next hends =>
      rw [if_neg hends] at hplace
      exact descend_of_directories hkept hplace
  simp only [find?, hsame, entry?, hparts, Bool.false_eq_true, if_false]
  exact Dict.find_insert_eq (beq_self_eq_true place) e fs.entries

/-! ## The home directory -/

theorem makeFrom_home {fs fs' : Files} {p place : Path} {names : List String}
    (h : fs.makeFrom p place names = .ok fs') : fs'.home = fs.home := by
  induction names generalizing fs place with
  | nil =>
    cases h
    rfl
  | cons name rest ih =>
    simp only [makeFrom] at h
    split at h
    · exact ih h
    · split at h
      · cases h
      · split at h
        · exact (ih h).trans rfl
        · exact ih h
        · cases h

theorem makeDirectories_home {fs fs' : Files} {p : Path} (h : fs.makeDirectories p = .ok fs') :
    fs'.home = fs.home := by
  simp only [makeDirectories] at h
  split at h
  · cases h
  · exact makeFrom_home h

theorem write_home {fs fs' : Files} {p : Path} {e : Entry} (h : fs.write p e = .ok fs') :
    fs'.home = fs.home := by
  obtain ⟨place, -, -, rfl⟩ := write_ok h
  rfl

end Wireframe.Files
