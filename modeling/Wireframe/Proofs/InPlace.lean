import Wireframe.Error

/-!
# `Wireframe.Proofs.InPlace` — work on a state, write by write

The library gives the state after a change, or a failure. Whoever changes a state in place may fail half
way, and then keeps what was written until then. Both come to the same where everything that can fail
comes before the first write.

## Contents
- `InPlace`: work on a state; `look`, `atOnce`, `onPart`, `ofOutcome`: the forms that it takes.
- `ofOutcome_eq_ok`, `ofOutcome_eq_error`: what it answers, and the state that it leaves.
- `changed`, `changed_failed`: a change of all or nothing, with an answer.
- `look_bind_ok`, `look_bind_error`, `look_bind_value`, `look_pure`: a look, and what follows it.
- `look_atOnce`, `look_modify`: changes behind a look; `modify_bind`, `modify_eq`,
  `forM_modify`: writes that never fail.
- `forM_look_modify`: several writes, with the same look before each.
- `onPart_atOnce`: changes of a part.
-/

namespace Wireframe

variable {σ τ β γ : Type}

/-- Work on a state: where it fails, the state is the one that the writes before the failure left. -/
abbrev InPlace (σ β : Type) : Type := EStateM Error σ β

namespace InPlace

/-- A look at the state, which may fail. -/
def look (f : σ → Except Error β) : InPlace σ β := fun s =>
  match f s with
  | .ok b => .ok b s
  | .error e => .error e s

/-- A change that is made at once: where it fails, nothing was written. -/
def atOnce (f : σ → Except Error σ) : InPlace σ Unit := fun s =>
  match f s with
  | .ok t => .ok () t
  | .error e => .error e s

/-- Work on a part of the state. -/
def onPart (get : σ → τ) (put : σ → τ → σ) (a : InPlace τ β) : InPlace σ β := fun s =>
  match a (get s) with
  | .ok b t => .ok b (put s t)
  | .error e t => .error e (put s t)

/-- Work that answers and leaves a state even where it fails. -/
def ofOutcome (f : σ → σ × Except Error β) : InPlace σ β := fun s =>
  match f s with
  | (t, .ok b) => .ok b t
  | (t, .error e) => .error e t

theorem ofOutcome_eq_ok {f : σ → σ × Except Error β} {s t : σ} {b : β} :
    ofOutcome f s = .ok b t ↔ f s = (t, .ok b) := by
  unfold ofOutcome
  rcases f s with ⟨u, _ | _⟩ <;> simp [and_comm]

theorem ofOutcome_eq_error {f : σ → σ × Except Error β} {s t : σ} {e : Error} :
    ofOutcome f s = .error e t ↔ f s = (t, .error e) := by
  unfold ofOutcome
  rcases f s with ⟨u, _ | _⟩ <;> simp [and_comm]

/-- A change with an answer: the new state, or the old one with a failure. -/
def changed (s : σ) (answer : β) (r : Except Error σ) : σ × Except Error β :=
  match r with
  | .ok s' => (s', .ok answer)
  | .error e => (s, .error e)

theorem changed_failed {s : σ} {answer : β} {r : Except Error σ} {e : Error}
    (h : (changed s answer r).2 = .error e) : (changed s answer r).1 = s := by
  cases r with
  | ok s' => cases h
  | error e => rfl

theorem look_bind_ok {f : σ → Except Error β} {s : σ} {b : β} (h : f s = .ok b) (a : β → InPlace σ γ) :
    (look f >>= a) s = a b s := by simp only [bind, EStateM.bind, look, h]

theorem look_bind_error {f : σ → Except Error β} {s : σ} {e : Error} (h : f s = .error e)
    (a : β → InPlace σ γ) : (look f >>= a) s = .error e s := by
  simp only [bind, EStateM.bind, look, h]

theorem look_bind_value (f : σ → β) (a : β → InPlace σ γ) (s : σ) :
    ((look fun s => .ok (f s)) >>= a) s = a (f s) s := rfl

/-- A look that changes nothing, and what it answers. -/
theorem look_pure (f : σ → Except Error β) (g : β → γ) :
    (look f >>= fun b => pure (g b)) = ofOutcome fun s => (s, (f s).map g) := by
  funext s
  cases h : f s with
  | ok b =>
    rw [look_bind_ok h]
    simp only [ofOutcome, h]
    rfl
  | error e =>
    rw [look_bind_error h]
    simp only [ofOutcome, h]
    rfl

/-- A write, and what follows it. -/
theorem modify_bind (g : σ → σ) (a : PUnit → InPlace σ γ) (s : σ) :
    ((modify g : InPlace σ PUnit) >>= a) s = a ⟨⟩ (g s) := rfl

/-- A write never fails. -/
theorem modify_eq (g : σ → σ) : (modify g : InPlace σ Unit) = atOnce fun s => .ok (g s) := rfl

/-- **Looking first.** A change behind a look is one change, which fails if either does. -/
theorem look_atOnce (f : σ → Except Error β) (g : β → σ → Except Error σ) :
    (look f >>= fun b => atOnce (g b)) = atOnce fun s => f s >>= fun b => g b s := by
  funext s
  cases h : f s with
  | ok b =>
    rw [look_bind_ok h]
    simp only [atOnce, h]
    rfl
  | error e =>
    rw [look_bind_error h]
    simp only [atOnce, h]
    rfl

theorem look_modify (f : σ → Except Error β) (g : β → σ → σ) :
    (look f >>= fun b => modify (g b)) = atOnce fun s => (f s).map fun b => g b s := by
  simp only [modify_eq, look_atOnce]
  refine congrArg atOnce (funext fun s => ?_)
  cases f s <;> rfl

/-- Writes one after the other, none of which fails. -/
theorem forM_modify (xs : List β) (g : β → σ → σ) :
    (xs.forM fun x => modify (g x) : InPlace σ Unit) =
      atOnce fun s => .ok (xs.foldl (fun s x => g x s) s) := by
  funext s
  induction xs generalizing s with
  | nil => rfl
  | cons x xs ih => exact ih (g x s)

/-- Writes that all need one thing, which is looked up before each of them: either it is there each time,
or nothing is written. -/
theorem forM_look_modify (xs : List β) (r : Except Error γ) (g : β → γ → σ → σ) :
    (xs.forM fun x => look (fun _ => r) >>= fun c => modify (g x c) : InPlace σ Unit) =
      atOnce fun s =>
        if xs.isEmpty then .ok s else r.map fun c => xs.foldl (fun s x => g x c s) s := by
  cases xs with
  | nil => rfl
  | cons x rest =>
    cases r with
    | error e => rfl
    | ok c => exact forM_modify (x :: rest) fun x => g x c

/-- A change of a part at once is a change of the whole at once. -/
theorem onPart_atOnce {get : σ → τ} {put : σ → τ → σ} (h : ∀ s, put s (get s) = s)
    (f : τ → Except Error τ) :
    onPart get put (atOnce f) = atOnce fun s => (f (get s)).map (put s) := by
  funext s
  simp only [onPart, atOnce]
  cases f (get s) with
  | ok t => rfl
  | error e => exact congrArg _ (h s)

end InPlace

end Wireframe
