import Wireframe.Animation.Plan
import Wireframe.Proofs.Basic
import Wireframe.Proofs.Dict
import Wireframe.Proofs.Document.Labels

/-!
# `Wireframe.Proofs.Timeline` — which knobs a frame sets

The timeline of a program has its frames, and a knob stands in a frame only if the program sets it in
motion over a range that has the frame in it.

## Contents
- `Covered`: every knob of a frame is in motion there.
- `write_ok`, `add_ok`, `build_ok`: timelines; `plan_timeline`: the one of a plan.
-/

namespace Wireframe

open Document

variable {α : Type} [Scalar α]

namespace Timeline

/-- Every knob of a frame is set in motion over a range with the frame in it. -/
def Covered (vs : List (Vary α)) (frames : List (Knobs α)) : Prop :=
  ∀ (j : Nat) f, frames[j]? = some f → ∀ x ∈ f.keys,
    ∃ v ∈ vs, v.target.label? = some x ∧ v.first ≤ j ∧ j ≤ v.last

/-- Writing a knob leaves the first frame, or writes the knob there if the frame is in its range. -/
theorem write_cons {v : Vary α} {name : Label} {first : Int} {f : Knobs α}
    {rest written : List (Knobs α)} (h : write v name first (f :: rest) = .ok written) :
    ∃ f' rest', written = f' :: rest' ∧ write v name (first + 1) rest = .ok rest' ∧
      (f' = f ∨ (v.first ≤ first ∧ first ≤ v.last ∧ ∃ x, f' = f.insert name x)) := by
  unfold write at h
  dsimp only at h
  split at h
  · next hrange =>
    simp only [Bool.and_eq_true, decide_eq_true_eq] at hrange
    obtain ⟨x, -, h⟩ := bind_ok h
    obtain ⟨f', hf', h⟩ := bind_ok h
    obtain ⟨rest', hrest, h⟩ := bind_ok h
    cases hf'
    cases h
    exact ⟨_, rest', rfl, hrest, .inr ⟨hrange.1, hrange.2, x, rfl⟩⟩
  · obtain ⟨f', hf', h⟩ := bind_ok h
    obtain ⟨rest', hrest, h⟩ := bind_ok h
    cases hf'
    cases h
    exact ⟨f, rest', rfl, hrest, .inl rfl⟩

/-- Writing a knob changes the frames of its range, and in them the knob alone. -/
theorem write_ok {v : Vary α} {name : Label} {first : Int} {frames written : List (Knobs α)}
    (h : write v name first frames = .ok written) :
    written.length = frames.length ∧
      ∀ (j : Nat) f', written[j]? = some f' → ∃ f, frames[j]? = some f ∧
        (f' = f ∨ (v.first ≤ first + j ∧ first + j ≤ v.last ∧ ∃ x, f' = f.insert name x)) := by
  induction frames generalizing first written with
  | nil =>
    cases h
    exact ⟨rfl, nofun⟩
  | cons f rest ih =>
    obtain ⟨f₀, rest', rfl, hrest, hfirst⟩ := write_cons h
    obtain ⟨hlength, hframes⟩ := ih hrest
    refine ⟨congrArg (· + 1) hlength, ?_⟩
    intro j f' hf'
    cases j with
    | zero =>
      cases hf'
      refine ⟨f, rfl, ?_⟩
      simpa using hfirst
    | succ j =>
      obtain ⟨g, hg, hcases⟩ := hframes j f' hf'
      have hshift : first + 1 + (j : Int) = first + ((j + 1 : Nat) : Int) := by omega
      rw [hshift] at hcases
      exact ⟨g, hg, hcases⟩

/-- Adding a knob keeps the number of frames, and covers what it adds. -/
theorem add_ok {vs : List (Vary α)} {v : Vary α} (hv : v ∈ vs) {frames added : List (Knobs α)}
    (hcovered : Covered vs frames) (h : add frames v = .ok added) :
    added.length = frames.length ∧ Covered vs added := by
  obtain ⟨u, -, h⟩ := bind_ok h
  split at h
  · next name hname =>
    obtain ⟨hlength, hframes⟩ := write_ok h
    refine ⟨hlength, ?_⟩
    intro j f' hf' x hx
    obtain ⟨f, hf, rfl | ⟨hfirst, hlast, y, rfl⟩⟩ := hframes j f' hf'
    · exact hcovered j f' hf x hx
    · rcases Dict.mem_keys_insert hx with rfl | hx
      · exact ⟨v, hv, hname, by omega, by omega⟩
      · exact hcovered j f hf x hx
  · split at h
    · cases h
    · cases h
      exact ⟨rfl, hcovered⟩

/-- **Timelines.** A timeline has the frames that it is built for, and sets in a frame the knobs that are
    in motion there. -/
theorem build_ok {vs : List (Vary α)} {count : Int} {t : Timeline α} (h : build vs count = .ok t) :
    t.frames.length = count.toNat ∧ Covered vs t.frames := by
  obtain ⟨frames, hframes, rfl⟩ := map_ok h
  have hempty : Covered vs (List.replicate count.toNat (.empty : Knobs α)) := by
    intro j f hf x hx
    rw [(List.mem_replicate.mp (List.mem_of_getElem? hf)).2] at hx
    cases hx
  apply foldlM_invariant (P := fun frames => frames.length = count.toNat ∧ Covered vs frames) _ _ hframes
  · rintro v hv xs ys ⟨hlength, hcovered⟩ hadd
    obtain ⟨hsame, hadded⟩ := add_ok hv hcovered hadd
    exact ⟨hsame.trans hlength, hadded⟩
  · exact ⟨List.length_replicate, hempty⟩

end Timeline

/-- The timeline of a plan is the one for its settings. -/
theorem plan_timeline {default : Name} {ops : List (Opcode α)} {p : Plan α}
    (h : (plan default ops).2 = .ok p) : timelineFor p.settings ops = .ok p.timeline := by
  unfold plan at h
  split at h
  · cases h
  · split at h
    · cases h
    · next htimeline =>
      cases h
      exact htimeline

end Wireframe
