import Wireframe.Error

/-!
# `Wireframe.Proofs.Basic` — results taken apart

Functions of the program fail or succeed, and they are put together from parts that do. When the whole
succeeds, so do the parts.

## Contents
- `map_ok`, `bind_ok`, `ok_of_toOption`, `isOk_iff`, `isOk_map`: successful results.
- `bind_error`: where a result fails.
- `foldlM_invariant`: what every step of a fold keeps.
- `mapM_cons_some`, `mapM_mem`: lists of optional results.
- `mapM_defined`, `mapM_results`, `mapM_perm`: lists of results.
- `FirstFails`, `mapM_error_iff`: the first failure in a list of results.
-/

namespace Wireframe

variable {ε β γ : Type}

theorem map_ok {r : Except ε β} {f : β → γ} {y : γ} (h : r.map f = .ok y) : ∃ x, r = .ok x ∧ y = f x := by
  cases r with
  | error e => cases h
  | ok x =>
    cases h
    exact ⟨x, rfl, rfl⟩

theorem bind_ok {r : Except ε β} {f : β → Except ε γ} {y : γ} (h : r >>= f = .ok y) :
    ∃ x, r = .ok x ∧ f x = .ok y := by
  cases r with
  | error e => cases h
  | ok x => exact ⟨x, rfl, h⟩

theorem bind_error {r : Except ε β} {f : β → Except ε γ} {e : ε} (h : r >>= f = .error e) :
    r = .error e ∨ ∃ x, r = .ok x ∧ f x = .error e := by
  cases r with
  | error e' =>
    cases h
    exact .inl rfl
  | ok x => exact .inr ⟨x, rfl, h⟩

theorem ok_of_toOption {r : Except ε β} {x : β} (h : r.toOption = some x) : r = .ok x := by
  cases r with
  | error e => cases h
  | ok y =>
    cases h
    rfl

theorem isOk_iff {r : Except ε β} : r.isOk = true ↔ ∃ x, r = .ok x := by
  cases r with
  | error e => exact ⟨nofun, nofun⟩
  | ok x => exact ⟨fun _ => ⟨x, rfl⟩, fun _ => rfl⟩

theorem isOk_map (r : Except ε β) (f : β → γ) : (r.map f).isOk = r.isOk := by cases r <;> rfl

/-- What every step of a fold keeps holds at its end. -/
theorem foldlM_invariant {P : β → Prop} {step : β → γ → Except ε β} {items : List γ} {x y : β}
    (hstep : ∀ a ∈ items, ∀ x y, P x → step x a = .ok y → P y) (hx : P x)
    (h : items.foldlM step x = .ok y) : P y := by
  induction items generalizing x with
  | nil =>
    cases h
    exact hx
  | cons a rest ih =>
    rw [List.foldlM_cons] at h
    obtain ⟨z, hz, hrest⟩ := bind_ok h
    apply ih (fun a ha => hstep a (List.mem_cons_of_mem _ ha)) _ hrest
    exact hstep a List.mem_cons_self x z hx hz

theorem mapM_cons_some {f : β → Option γ} {x : β} {xs : List β} {ys : List γ}
    (h : (x :: xs).mapM f = some ys) : ∃ y ys', f x = some y ∧ xs.mapM f = some ys' ∧ ys = y :: ys' := by
  rw [List.mapM_cons] at h
  obtain ⟨y, hy, h⟩ := Option.bind_eq_some_iff.mp h
  obtain ⟨ys', hys, h⟩ := Option.bind_eq_some_iff.mp h
  cases h
  exact ⟨y, ys', hy, hys, rfl⟩

theorem mapM_mem {f : β → Option γ} {xs : List β} {ys : List γ} {y : γ} (h : xs.mapM f = some ys)
    (hy : y ∈ ys) : ∃ x, x ∈ xs ∧ f x = some y := by
  induction xs generalizing ys with
  | nil =>
    cases h
    cases hy
  | cons x xs ih =>
    obtain ⟨z, ys', hz, hys, rfl⟩ := mapM_cons_some h
    rcases List.mem_cons.mp hy with rfl | hmem
    · exact ⟨x, List.mem_cons_self, hz⟩
    · obtain ⟨w, hw, hfw⟩ := ih hys hmem
      exact ⟨w, List.mem_cons_of_mem _ hw, hfw⟩

/-- A list of results succeeds if each of them does. -/
theorem mapM_defined {f : β → Except ε γ} {xs : List β} (h : ∀ x ∈ xs, ∃ y, f x = .ok y) :
    ∃ ys, xs.mapM f = .ok ys := by
  induction xs with
  | nil => exact ⟨[], rfl⟩
  | cons x xs ih =>
    obtain ⟨y, hy⟩ := h x List.mem_cons_self
    obtain ⟨ys, hys⟩ := ih fun x hx => h x (List.mem_cons_of_mem _ hx)
    exact ⟨y :: ys, by rw [List.mapM_cons, hy, hys]; rfl⟩

/-- A list of results that succeeds has one result for each item. -/
theorem mapM_results {f : β → Except ε γ} {items : List β} {results : List γ}
    (h : items.mapM f = .ok results) :
    results.length = items.length ∧ ∀ b ∈ items, ∃ c, f b = .ok c := by
  induction items generalizing results with
  | nil =>
    cases h
    exact ⟨rfl, nofun⟩
  | cons b rest ih =>
    rw [List.mapM_cons] at h
    obtain ⟨c, hc, h⟩ := bind_ok h
    obtain ⟨cs, hcs, h⟩ := bind_ok h
    cases h
    obtain ⟨hlength, hrest⟩ := ih hcs
    exact ⟨congrArg (· + 1) hlength, List.forall_mem_cons.mpr ⟨⟨c, hc⟩, hrest⟩⟩

/-- The first item that has no result fails with `e`. -/
def FirstFails (f : β → Except ε γ) (items : List β) (e : ε) : Prop :=
  ∃ before b after, items = before ++ b :: after ∧ (∀ a ∈ before, ∃ c, f a = .ok c) ∧ f b = .error e

/-- A list of results fails as the first of them that fails. -/
theorem mapM_error_iff {f : β → Except ε γ} {items : List β} {e : ε} :
    items.mapM f = .error e ↔ FirstFails f items e := by
  constructor
  · intro h
    induction items with
    | nil => cases h
    | cons b rest ih =>
      rw [List.mapM_cons] at h
      rcases bind_error h with hb | ⟨c, hc, h⟩
      · exact ⟨[], b, rest, rfl, nofun, hb⟩
      · rcases bind_error h with hrest | ⟨cs, -, h⟩
        · obtain ⟨before, d, after, hsplit, hbefore, hd⟩ := ih hrest
          refine ⟨b :: before, d, after, by rw [hsplit, List.cons_append], ?_, hd⟩
          exact List.forall_mem_cons.mpr ⟨⟨c, hc⟩, hbefore⟩
        · cases h
  · rintro ⟨before, b, after, rfl, hbefore, hb⟩
    induction before with
    | nil =>
      rw [List.nil_append, List.mapM_cons, hb]
      rfl
    | cons a before ih =>
      obtain ⟨⟨c, hc⟩, hbefore⟩ := List.forall_mem_cons.mp hbefore
      rw [List.cons_append, List.mapM_cons, hc, ih hbefore]
      rfl

/-- Results in another order. -/
theorem mapM_perm {f : β → Except ε γ} {xs xs' : List β} {ys : List γ} (h : xs.Perm xs')
    (hys : xs.mapM f = .ok ys) : ∃ ys', xs'.mapM f = .ok ys' ∧ ys.Perm ys' := by
  induction h generalizing ys with
  | nil => exact ⟨ys, hys, .refl _⟩
  | cons x _ ih =>
    rw [List.mapM_cons] at hys
    obtain ⟨y, hy, hys⟩ := bind_ok hys
    obtain ⟨zs, hzs, hys⟩ := bind_ok hys
    obtain ⟨zs', hzs', hperm⟩ := ih hzs
    cases hys
    exact ⟨y :: zs', by rw [List.mapM_cons, hy, hzs']; rfl, hperm.cons y⟩
  | swap x x' xs =>
    rw [List.mapM_cons, List.mapM_cons] at hys
    obtain ⟨y, hy, hys⟩ := bind_ok hys
    obtain ⟨zs, hzs, hys⟩ := bind_ok hys
    obtain ⟨y', hy', hzs⟩ := bind_ok hzs
    obtain ⟨ws, hws, hzs⟩ := bind_ok hzs
    cases hzs
    cases hys
    exact ⟨y' :: y :: ws, by rw [List.mapM_cons, List.mapM_cons, hy, hy', hws]; rfl, .swap _ _ _⟩
  | trans _ _ ih ih' =>
    obtain ⟨zs, hzs, hperm⟩ := ih hys
    obtain ⟨zs', hzs', hperm'⟩ := ih' hzs
    exact ⟨zs', hzs', hperm.trans hperm'⟩

end Wireframe
