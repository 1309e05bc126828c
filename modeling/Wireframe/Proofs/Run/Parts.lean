import Wireframe.Proofs.Opcode.Describe
import Wireframe.Run

/-!
# `Wireframe.Proofs.Run.Parts` — how the parts of a run compose

A part of a run is a function from a state to an outcome, and a run is put together from parts by
`bind`. Proofs about runs take it apart again: `bind_ok` splits a successful part into its two halves,
and `runOps_append` splits the instructions of a frame at any place.

## Contents
- `andThen_assoc`, `bind_ok`, `bind_notes`, `bind_pure_calls`: sequencing, which is lawful.
- `StartsWith`: parts that run as another one does first.
- `Only`: what a part calls and notes at most.
- `Upholds`: what a part keeps, and how it fails.
- `KeepsMachine`: parts that leave stack, symbols and picture alone.
- `setKnobs_cons_of_error`, `setKnobs_cons_of_ok`: knobs, one by one.
- `exec_cases`, `exec_machine`, `exec_failed`: what an instruction does to the machine.
- `Admits`, `perform_of_barred`, `perform_apply`, `perform_ok`: an instruction with what is reported of it.
- `runOps_append`: instructions in two halves.
- `runFrame_upholds`, `runFrames_upholds`: what frames keep, and how they fail.
-/

namespace Wireframe.Run

open Document

variable {α ω β γ δ : Type}

/-! ## Sequencing -/

theorem Outcome.andThen_of_ok {r : Outcome α ω β} {b : β} (h : r.result = .ok b)
    (f : β → Action α ω γ) :
    r.andThen f = ⟨(f b r.state).result, (f b r.state).state, r.calls ++ (f b r.state).calls,
      r.notes ++ (f b r.state).notes⟩ := by
  simp only [Outcome.andThen, h]

theorem Outcome.andThen_of_error {r : Outcome α ω β} {e : Error} (h : r.result = .error e)
    (f : β → Action α ω γ) : r.andThen f = ⟨.error e, r.state, r.calls, r.notes⟩ := by
  simp only [Outcome.andThen, h]

theorem Outcome.andThen_assoc (r : Outcome α ω β) (f : β → Action α ω γ) (g : γ → Action α ω δ) :
    (r.andThen f).andThen g = r.andThen fun b s => (f b s).andThen g := by
  cases r with
  | mk result state calls notes =>
    cases result with
    | error e => rfl
    | ok b =>
      simp only [Outcome.andThen]
      cases hf : (f b state).result with
      | error e => rfl
      | ok c => simp only [List.append_assoc]

theorem Outcome.andThen_done (r : Outcome α ω β) : r.andThen Action.done = r := by
  cases r with
  | mk result state calls notes =>
    cases result with
    | error e => rfl
    | ok b => simp only [Outcome.andThen, Action.done, List.append_nil]

instance : LawfulMonad (Action α ω) :=
  .mk' _ (fun a => funext fun s => Outcome.andThen_done (a s)) (fun _ _ => rfl)
    (fun a f g => funext fun s => Outcome.andThen_assoc (a s) f g)

namespace Action

theorem bind_apply (a : Action α ω β) (f : β → Action α ω γ) (s : State α ω) :
    (a >>= f) s = (a s).andThen f := rfl

/-- **A successful part in two halves.** Both halves succeed, the second one ends where the whole ends,
    and the calls of the whole are those of the halves. -/
theorem bind_ok {a : Action α ω β} {f : β → Action α ω γ} {s : State α ω} {x : γ}
    (h : ((a >>= f) s).result = .ok x) :
    ∃ b, (a s).result = .ok b ∧ (f b (a s).state).result = .ok x ∧
      ((a >>= f) s).state = (f b (a s).state).state ∧
      ((a >>= f) s).calls = (a s).calls ++ (f b (a s).state).calls := by
  rw [bind_apply] at h ⊢
  cases hr : (a s).result with
  | error e =>
    rw [Outcome.andThen_of_error hr] at h
    cases h
  | ok b =>
    rw [Outcome.andThen_of_ok hr] at h ⊢
    exact ⟨b, rfl, h, rfl, rfl⟩

theorem bind_notes {a : Action α ω β} {s : State α ω} {b : β} (h : (a s).result = .ok b)
    (f : β → Action α ω γ) : ((a >>= f) s).notes = (a s).notes ++ (f b (a s).state).notes := by
  rw [bind_apply, Outcome.andThen_of_ok h]

/-- What is made of a result in the end calls no one. -/
theorem bind_pure_calls (a : Action α ω β) (f : β → γ) (s : State α ω) :
    ((a >>= fun b => pure (f b)) s).calls = (a s).calls := by
  rw [bind_apply]
  cases hr : (a s).result with
  | error e => rw [Outcome.andThen_of_error hr]
  | ok b =>
    rw [Outcome.andThen_of_ok hr]
    exact List.append_nil _

/-! ## What a part begins with -/

/-- A part that runs as another one does first; what follows may depend on the state at the start. -/
def StartsWith (a : Action α ω β) (b : Action α ω γ) : Prop :=
  ∀ s, ∃ rest : γ → Action α ω β, a s = (b s).andThen rest

theorem startsWith_left (b : Action α ω γ) (f : γ → Action α ω β) : (b >>= f).StartsWith b :=
  fun _ => ⟨f, rfl⟩

theorem StartsWith.bind (a : Action α ω δ) {f : δ → Action α ω β} {g : δ → Action α ω γ}
    (h : ∀ d, (f d).StartsWith (g d)) : (a >>= f).StartsWith (a >>= g) := by
  intro s
  rw [bind_apply, bind_apply]
  cases hr : (a s).result with
  | error e =>
    -- nothing follows, so whatever is said to follow will do
    refine ⟨fun _ => lift (.error e), ?_⟩
    rw [Outcome.andThen_of_error hr, Outcome.andThen_of_error hr, Outcome.andThen_of_error rfl]
  | ok d =>
    obtain ⟨rest, hrest⟩ := h d (a s).state
    have hf : f d (a s).state = (g d (a s).state).andThen rest := hrest
    refine ⟨rest, ?_⟩
    calc (a s).andThen f
        = (a s).andThen fun d t => (g d t).andThen rest := by
          rw [Outcome.andThen_of_ok hr f, hf]
          exact (Outcome.andThen_of_ok hr fun d t => (g d t).andThen rest).symm
      _ = ((a s).andThen g).andThen rest := (Outcome.andThen_assoc (a s) g rest).symm

/-- Where the beginning fails, it is the whole. -/
theorem StartsWith.error {a : Action α ω β} {b : Action α ω γ} (h : a.StartsWith b) {s : State α ω}
    {e : Error} (hb : (b s).result = .error e) :
    a s = ⟨.error e, (b s).state, (b s).calls, (b s).notes⟩ := by
  obtain ⟨rest, hrest⟩ := h s
  rw [hrest, Outcome.andThen_of_error hb]

/-- Where the whole succeeds, so does the beginning. -/
theorem StartsWith.ok {a : Action α ω β} {b : Action α ω γ} (h : a.StartsWith b) {s : State α ω}
    {x : β} (ha : (a s).result = .ok x) : ∃ y, (b s).result = .ok y := by
  cases hb : (b s).result with
  | ok y => exact ⟨y, rfl⟩
  | error e =>
    rw [h.error hb] at ha
    cases ha

/-! ## What a part calls and notes -/

/-- All calls and all notes of a part are of certain kinds, whether it fails or not. -/
def Only (calls : Call α → Prop) (notes : Note → Prop) (a : Action α ω β) : Prop :=
  ∀ s, (∀ call ∈ (a s).calls, calls call) ∧ ∀ note ∈ (a s).notes, notes note

section

variable {calls : Call α → Prop} {notes : Note → Prop}

theorem Only.bind {a : Action α ω β} {f : β → Action α ω γ} (ha : Only calls notes a)
    (hf : ∀ b, Only calls notes (f b)) : Only calls notes (a >>= f) := by
  intro s
  obtain ⟨haCalls, haNotes⟩ := ha s
  rw [bind_apply]
  cases hr : (a s).result with
  | error e =>
    rw [Outcome.andThen_of_error hr]
    exact ⟨haCalls, haNotes⟩
  | ok b =>
    obtain ⟨hfCalls, hfNotes⟩ := hf b (a s).state
    rw [Outcome.andThen_of_ok hr]
    exact ⟨fun call hcall => (List.mem_append.mp hcall).elim (haCalls call) (hfCalls call),
      fun note hnote => (List.mem_append.mp hnote).elim (haNotes note) (hfNotes note)⟩

theorem only_pure (b : β) : Only calls notes (pure b : Action α ω β) := fun _ => ⟨nofun, nofun⟩

theorem only_lift (r : Except Error β) : Only calls notes (lift r : Action α ω β) :=
  fun _ => ⟨nofun, nofun⟩

theorem only_look (f : State α ω → β) : Only calls notes (look f) := fun _ => ⟨nofun, nofun⟩

theorem only_keep (path : Path) : Only calls notes (keep path : Action α ω Unit) :=
  fun _ => ⟨nofun, nofun⟩

theorem only_change (f : Machine α → Except Error (Machine α)) :
    Only calls notes (change f : Action α ω Unit) := by
  intro s
  unfold change
  split <;> exact ⟨nofun, nofun⟩

theorem only_note {n : Note} (h : notes n) : Only calls notes (note n : Action α ω Unit) :=
  fun _ => ⟨nofun, fun _ hn => List.mem_singleton.mp hn ▸ h⟩

theorem only_consult {ask : ω → Reply ω β} (h : ∀ record, notes (.outside record)) :
    Only calls notes (consult ask : Action α ω β) := by
  refine fun _ => ⟨nofun, fun n hn => ?_⟩
  obtain ⟨record, -, rfl⟩ := List.mem_map.mp hn
  exact h record

theorem only_call {request : Request} {ask : Screen → ω → Reply ω β}
    (hcall : ∀ stack screen succeeded, calls ⟨request, stack, screen, succeeded⟩)
    (h : ∀ record, notes (.outside record)) : Only calls notes (call request ask : Action α ω β) := by
  refine fun _ => ⟨fun c hc => ?_, fun n hn => ?_⟩
  · rw [List.mem_singleton.mp hc]
    exact hcall _ _ _
  · obtain ⟨record, -, rfl⟩ := List.mem_map.mp hn
    exact h record

theorem only_advance {f : Machine α → Step α} (h : ∀ material, notes (.passedOver material)) :
    Only calls notes (advance f : Action α ω Unit) := by
  have hpassed : ∀ (m : Machine α), ∀ n ∈ (f m).passedOver.map Note.passedOver, notes n := by
    intro m n hn
    obtain ⟨material, -, rfl⟩ := List.mem_map.mp hn
    exact h material
  intro s
  unfold advance
  dsimp only
  split
  · exact ⟨nofun, hpassed s.machine⟩
  · exact ⟨nofun, hpassed s.machine⟩

end

/-! ## What a part keeps, and how it fails -/

/-- A part that keeps a property of the machine, whether it fails or not, and fails in certain ways only. -/
def Upholds (I : Machine α → Prop) (P : Error → Prop) (a : Action α ω β) : Prop :=
  ∀ s, I s.machine → I (a s).state.machine ∧ ∀ e, (a s).result = .error e → P e

section

variable {I : Machine α → Prop} {P : Error → Prop}

theorem Upholds.bind {a : Action α ω β} {f : β → Action α ω γ} (ha : Upholds I P a)
    (hf : ∀ b, Upholds I P (f b)) : Upholds I P (a >>= f) := by
  intro s hs
  obtain ⟨hkept, hfails⟩ := ha s hs
  rw [bind_apply]
  cases hr : (a s).result with
  | error e =>
    rw [Outcome.andThen_of_error hr]
    refine ⟨hkept, ?_⟩
    rintro e' ⟨⟩
    exact hfails e hr
  | ok b =>
    rw [Outcome.andThen_of_ok hr]
    exact hf b (a s).state hkept

theorem upholds_lift {r : Except Error β} (h : ∀ e, r = .error e → P e) :
    Upholds I P (lift r : Action α ω β) := fun _ hs => ⟨hs, h⟩

theorem upholds_pure (b : β) : Upholds I P (pure b : Action α ω β) := fun _ hs => ⟨hs, nofun⟩

theorem upholds_look (f : State α ω → β) : Upholds I P (look f) := fun _ hs => ⟨hs, nofun⟩

theorem upholds_note (n : Note) : Upholds I P (note n : Action α ω Unit) := fun _ hs => ⟨hs, nofun⟩

theorem upholds_keep (path : Path) : Upholds I P (keep path : Action α ω Unit) :=
  fun _ hs => ⟨hs, nofun⟩

theorem upholds_consult {ask : ω → Reply ω β} (h : ∀ w e, (ask w).result = .error e → P e) :
    Upholds I P (consult ask : Action α ω β) := fun s hs => ⟨hs, h s.world⟩

theorem upholds_call {request : Request} {ask : Screen → ω → Reply ω β}
    (h : ∀ screen w e, (ask screen w).result = .error e → P e) :
    Upholds I P (call request ask : Action α ω β) := fun s hs => ⟨hs, h s.machine.screen s.world⟩

theorem upholds_change {f : Machine α → Except Error (Machine α)}
    (hkeep : ∀ m m', I m → f m = .ok m' → I m') (hfail : ∀ m e, I m → f m = .error e → P e) :
    Upholds I P (change f : Action α ω Unit) := by
  intro s hs
  unfold change
  split
  · next m' hm' => exact ⟨hkeep _ m' hs hm', nofun⟩
  · next e he =>
    refine ⟨hs, ?_⟩
    rintro e' ⟨⟩
    exact hfail _ e hs he

theorem upholds_advance {f : Machine α → Step α} (hkeep : ∀ m m', I m → (f m).result = .ok m' → I m')
    (hfail : ∀ m e, I m → (f m).result = .error e → P e) :
    Upholds I P (advance f : Action α ω Unit) := by
  intro s hs
  unfold advance
  dsimp only
  split
  · next m' hm' => exact ⟨hkeep _ m' hs hm', nofun⟩
  · next e he =>
    refine ⟨hs, ?_⟩
    rintro e' ⟨⟩
    exact hfail _ e hs he

end

/-! ## Parts that leave the machine alone -/

/-- A part after which stack, symbols and picture are what they were, whether it fails or not. -/
def KeepsMachine (a : Action α ω β) : Prop := ∀ s, (a s).state.machine = s.machine

theorem KeepsMachine.bind {a : Action α ω β} {f : β → Action α ω γ} (ha : KeepsMachine a)
    (hf : ∀ b, KeepsMachine (f b)) : KeepsMachine (a >>= f) := by
  intro s
  rw [bind_apply]
  cases hr : (a s).result with
  | error e =>
    rw [Outcome.andThen_of_error hr]
    exact ha s
  | ok b =>
    rw [Outcome.andThen_of_ok hr]
    exact (hf b (a s).state).trans (ha s)

theorem keepsMachine_lift (r : Except Error β) : KeepsMachine (lift r : Action α ω β) :=
  fun _ => rfl

theorem keepsMachine_note (n : Note) : KeepsMachine (note n : Action α ω Unit) := fun _ => rfl

theorem keepsMachine_keep (path : Path) : KeepsMachine (keep path : Action α ω Unit) := fun _ => rfl

theorem keepsMachine_call (request : Request) (ask : Screen → ω → Reply ω β) :
    KeepsMachine (call request ask : Action α ω β) := fun _ => rfl

end Action

/-! ## Knobs -/

/-- A knob that cannot be set is the last one. -/
theorem setKnobs_cons_of_error {name : Label} {value : α} {s : State α ω} {e : Error}
    (h : s.machine.set name.value value = .error e) (rest : List (Label × α)) :
    setKnobs ((name, value) :: rest) s = ⟨.error e, s, [], []⟩ := by
  have hchange : Action.change (fun m : Machine α => m.set name.value value) s =
      ⟨.error e, s, [], []⟩ := by simp only [Action.change, h]
  show (Action.change (fun m : Machine α => m.set name.value value) s).andThen _ = _
  rw [hchange, Outcome.andThen_of_error rfl]

/-- A knob that can be set is set before the others. -/
theorem setKnobs_cons_of_ok {name : Label} {value : α} {s : State α ω} {m : Machine α}
    (h : s.machine.set name.value value = .ok m) (rest : List (Label × α)) :
    setKnobs ((name, value) :: rest) s = setKnobs rest { s with machine := m } := by
  have hchange : Action.change (fun m : Machine α => m.set name.value value) s =
      ⟨.ok (), { s with machine := m }, [], []⟩ := by simp only [Action.change, h]
  show (Action.change (fun m : Machine α => m.set name.value value) s).andThen _ = _
  rw [hchange, Outcome.andThen_of_ok rfl]
  rfl

namespace Setup

open Run.Action

variable (c : Setup α ω)

theorem keepsMachine_saveAs (filename : Name) : KeepsMachine (c.saveAs filename) :=
  (keepsMachine_lift _).bind fun _ => (keepsMachine_call _ _).bind fun _ =>
    (keepsMachine_note _).bind fun _ => keepsMachine_keep _

/-- A picture that cannot be saved for its name is not asked for. -/
theorem saveAs_of_path_error {filename : Name} {e : Error} (h : Path.ofValue filename = .error e)
    (s : State α ω) : c.saveAs filename s = ⟨.error e, s, [], []⟩ := by
  simp only [saveAs, bind_apply, Outcome.andThen, lift, h]

/-- **Saving a picture for an instruction.** One call is made; if it succeeds, the path that is answered,
    or else the one that was asked for, is kept in mind. -/
theorem saveAs_apply {filename : Name} {path : Path} (h : Path.ofValue filename = .ok path)
    (s : State α ω) :
    c.saveAs filename s =
      let reply := c.outside.save s.machine.screen path s.world
      let records := reply.records.map Note.outside
      match reply.result with
      | .error e => ⟨.error e, { s with world := reply.world },
          [⟨.save path, s.machine.stack, s.machine.screen, false⟩], records⟩
      | .ok answer =>
        ⟨.ok (), ⟨s.machine, s.saved ++ [answer.getD path], reply.world⟩,
          [⟨.save path, s.machine.stack, s.machine.screen, true⟩],
          records ++ [.saved (answer.getD path)]⟩ := by
  simp only [saveAs, bind_apply, Outcome.andThen, lift, h, Setup.save, call, List.nil_append]
  cases hr : (c.outside.save s.machine.screen path s.world).result with
  | error e => rfl
  | ok answer => rfl

/-- The file of a frame is asked for once its name can be written. -/
theorem saveFrame_eq (directory : Path) (frame : Nat) :
    c.saveFrame directory frame =
      if !c.basename.isWritable then Action.lift (.error .unwritable)
      else if !Animation.isWidth c.digits then Action.lift (.error .notNumber)
      else do
        let _ ← c.save (c.framePath directory frame)
        Action.note (.frameWritten (frame + 1) c.frameCount (c.framePath directory frame))
        return c.framePath directory frame := by
  unfold saveFrame
  cases c.basename.isWritable <;> cases Animation.isWidth c.digits <;> rfl

/-! ## One instruction -/

variable [Scalar α] [Angle α] [Shown α]

/-- An instruction asks those outside for a picture to be saved or shown; all others only change the
    machine. -/
theorem exec_cases (op : Opcode α) :
    (∃ filename, op = .save filename) ∨ op = .display ∨
      (op.form ≠ .save ∧ op.form ≠ .display ∧
        c.exec op = Action.advance fun m => m.step c.options op) := by
  cases op with
  | save filename => exact .inl ⟨filename, rfl⟩
  | display => exact .inr (.inl rfl)
  | _ => exact .inr (.inr ⟨nofun, nofun, rfl⟩)

/-- The machine after an instruction that succeeds is the one that its step gives. -/
theorem exec_machine {op : Opcode α} {s : State α ω} {u : Unit} (h : (c.exec op s).result = .ok u) :
    (s.machine.step c.options op).result = .ok (c.exec op s).state.machine := by
  rcases c.exec_cases op with ⟨filename, rfl⟩ | rfl | ⟨-, -, he⟩
  · show Except.ok s.machine = .ok (c.saveAs filename s).state.machine
    rw [c.keepsMachine_saveAs filename s]
  · rfl
  · rw [he] at h ⊢
    simp only [Action.advance] at h ⊢
    cases hr : (s.machine.step c.options op).result with
    | error e =>
      rw [hr] at h
      cases h
    | ok m => rfl

/-- An instruction that fails leaves the machine as it was. -/
theorem exec_failed_machine {op : Opcode α} {s : State α ω} {e : Error}
    (h : (c.exec op s).result = .error e) : (c.exec op s).state.machine = s.machine := by
  rcases c.exec_cases op with ⟨filename, rfl⟩ | rfl | ⟨-, -, he⟩
  · exact c.keepsMachine_saveAs filename s
  · rfl
  · rw [he] at h ⊢
    simp only [Action.advance] at h ⊢
    cases hr : (s.machine.step c.options op).result with
    | error e => rfl
    | ok m =>
      rw [hr] at h
      cases h

/-- Whoever is called by an instruction that succeeds has succeeded. -/
theorem exec_calls_succeeded {op : Opcode α} {s : State α ω} {u : Unit}
    (h : (c.exec op s).result = .ok u) : ∀ call ∈ (c.exec op s).calls, call.succeeded = true := by
  rcases c.exec_cases op with ⟨filename, rfl⟩ | rfl | ⟨-, -, he⟩
  · change (c.saveAs filename s).result = .ok u at h
    show ∀ call ∈ (c.saveAs filename s).calls, call.succeeded = true
    cases hp : Path.ofValue filename with
    | error e =>
      rw [c.saveAs_of_path_error hp] at h
      cases h
    | ok path =>
      rw [c.saveAs_apply hp] at h ⊢
      cases hr : (c.outside.save s.machine.screen path s.world).result with
      | error e =>
        simp only [hr] at h
        cases h
      | ok answer => simp [hr]
  · change (c.outside.view s.machine.screen s.world).result = .ok u at h
    simp [exec, Action.call, Action.succeeded, h]
  · rw [he]
    simp only [Action.advance]
    split <;> simp

/-- **Failing instructions.** Either a call has failed, or the failure is that of the step of the
    machine, or a picture has no file name. -/
theorem exec_failed {op : Opcode α} {s : State α ω} {e : Error} (h : (c.exec op s).result = .error e) :
    (∃ call ∈ (c.exec op s).calls, call.succeeded = false) ∨
      (s.machine.step c.options op).result = .error e ∨ e = .notPath := by
  rcases c.exec_cases op with ⟨filename, rfl⟩ | rfl | ⟨-, -, he⟩
  · change (c.saveAs filename s).result = .error e at h
    show (∃ call ∈ (c.saveAs filename s).calls, call.succeeded = false) ∨ _
    cases hp : Path.ofValue filename with
    | error e' =>
      rw [c.saveAs_of_path_error hp] at h
      cases h
      refine .inr (.inr ?_)
      unfold Path.ofValue at hp
      split at hp
      · cases hp
      · cases hp
        rfl
    | ok path =>
      rw [c.saveAs_apply hp] at h ⊢
      cases hr : (c.outside.save s.machine.screen path s.world).result with
      | error e' => simp [hr]
      | ok answer =>
        simp only [hr] at h
        cases h
  · change (c.outside.view s.machine.screen s.world).result = .error e at h
    exact .inl ⟨_, List.mem_singleton.mpr rfl, by simp only [h, Action.succeeded]⟩
  · rw [he] at h
    simp only [Action.advance] at h
    cases hr : (s.machine.step c.options op).result with
    | error e' =>
      rw [hr] at h
      cases h
      exact .inr (.inl rfl)
    | ok m =>
      rw [hr] at h
      cases h

/-! ## An instruction and what is reported of it -/

/-- What is noted of an instruction by its line, if it has one. -/
def lineNotes (op : Opcode α) (n : String → Note) : List Note :=
  match op.describe with
  | .ok line => [n line]
  | .error _ => []

/-- What is traced of an instruction before it runs. -/
def tracing (index : Nat) (op : Opcode α) : List Note :=
  if c.traced then lineNotes op (.traced index) else []

/-- An instruction gets to run unless it is to be traced and cannot be written. -/
def Admits (op : Opcode α) : Prop := c.traced = true → ∃ line, op.describe = .ok line

omit [Scalar α] [Angle α] in
theorem admits_or_barred (op : Opcode α) :
    c.Admits op ∨ ∃ e, c.traced = true ∧ op.describe = .error e := by
  cases hline : op.describe with
  | ok line => exact .inl fun _ => ⟨line, hline⟩
  | error e =>
    cases ht : c.traced with
    | false => exact .inl fun htraced => by rw [ht] at htraced; cases htraced
    | true => exact .inr ⟨e, rfl, rfl⟩

/-- An instruction that is to be traced and cannot be written fails before it runs. -/
theorem perform_of_barred {op : Opcode α} {e : Error} (ht : c.traced = true)
    (hline : op.describe = .error e) (frame index : Nat) (s : State α ω) :
    c.perform frame index op s = ⟨.error e, s, [], []⟩ := by
  simp only [perform, ht, if_true]
  show (Action.lift op.describe s).andThen _ = _
  rw [hline]
  rfl

omit [Scalar α] [Angle α] [Shown α] in
/-- A note behind a failure, or another failure in its place. -/
theorem orReport_apply {β : Type} (a : Action α ω β) (n : Except Error Note) (s : State α ω) :
    a.orReport n s =
      match (a s).result, n with
      | .ok _, _ => a s
      | .error _, .ok n => ⟨(a s).result, (a s).state, (a s).calls, (a s).notes ++ [n]⟩
      | .error _, .error e => ⟨.error e, (a s).state, (a s).calls, (a s).notes⟩ := by
  cases hr : (a s).result <;> cases n <;> simp only [Action.orReport, hr]

/-- An instruction as a frame runs it: a trace before it, and a report behind a failure, whose own failure
    is handed on if it cannot be made. -/
theorem perform_apply {op : Opcode α} (h : c.Admits op) (frame index : Nat) (s : State α ω) :
    c.perform frame index op s =
      ⟨(c.exec op s).result.mapError op.handedOn, (c.exec op s).state, (c.exec op s).calls,
        c.tracing index op ++ (c.exec op s).notes ++
          match (c.exec op s).result with
          | .ok _ => []
          | .error _ => lineNotes op (.failed frame index)⟩ := by
  have hreported : ((c.exec op).orReport (op.describe.map (.failed frame index))) s =
      ⟨(c.exec op s).result.mapError op.handedOn, (c.exec op s).state, (c.exec op s).calls,
        (c.exec op s).notes ++
          match (c.exec op s).result with
          | .ok _ => []
          | .error _ => lineNotes op (.failed frame index)⟩ := by
    rw [orReport_apply]
    cases hr : (c.exec op s).result with
    | ok u =>
      simp only [List.append_nil, Except.mapError, ← hr]
    | error e =>
      cases hline : op.describe with
      | ok line => simp only [Except.map, Except.mapError, Opcode.handedOn_of_ok hline, lineNotes, hline]
      | error e' =>
        simp only [Except.map, Except.mapError, Opcode.handedOn_of_error hline, lineNotes, hline,
          List.append_nil]
  cases ht : c.traced with
  | false => simpa [perform, tracing, ht] using hreported
  | true =>
    obtain ⟨line, hline⟩ := h ht
    have hbind : c.perform frame index op s =
        (Action.note (.traced index line) s).andThen fun _ =>
          (c.exec op).orReport (op.describe.map (.failed frame index)) := by
      simp only [perform, ht, if_true, hline]
      rfl
    rw [hbind, Outcome.andThen_of_ok rfl]
    have htraced : c.tracing index op = [.traced index line] := by
      rw [tracing, if_pos ht, lineNotes, hline]
    simp only [Action.note, hreported, htraced, List.nil_append, List.append_assoc]

/-- An instruction that a frame gets beyond was admitted, and did what it does. -/
theorem perform_ok {frame index : Nat} {op : Opcode α} {s : State α ω}
    (h : (c.perform frame index op s).result = .ok ()) :
    c.Admits op ∧ (c.exec op s).result = .ok () ∧
      c.perform frame index op s =
        ⟨.ok (), (c.exec op s).state, (c.exec op s).calls,
          c.tracing index op ++ (c.exec op s).notes⟩ := by
  rcases c.admits_or_barred op with hadmits | ⟨e, ht, hline⟩
  · rw [c.perform_apply hadmits] at h ⊢
    cases hr : (c.exec op s).result with
    | ok u => exact ⟨hadmits, rfl, by simp only [Except.mapError, List.append_nil]⟩
    | error e =>
      rw [hr] at h
      cases h
  · rw [c.perform_of_barred ht hline] at h
    cases h

/-- An instruction that fails as a frame runs it leaves what it left, or what was there before. -/
theorem perform_parts (frame index : Nat) (op : Opcode α) (s : State α ω) :
    ((c.perform frame index op s).state = (c.exec op s).state ∧
        (c.perform frame index op s).calls = (c.exec op s).calls) ∨
      ((c.perform frame index op s).state = s ∧ (c.perform frame index op s).calls = []) := by
  rcases c.admits_or_barred op with hadmits | ⟨e, ht, hline⟩
  · rw [c.perform_apply hadmits]
    exact .inl ⟨rfl, rfl⟩
  · rw [c.perform_of_barred ht hline]
    exact .inr ⟨rfl, rfl⟩

/-! ## Instructions one after the other -/

theorem runOps_cons (frame index : Nat) (op : Opcode α) (rest : List (Opcode α)) (s : State α ω) :
    c.runOps frame index (op :: rest) s =
      (c.perform frame index op s).andThen fun _ => c.runOps frame (index + 1) rest := rfl

theorem runOps_append (frame index : Nat) (ops rest : List (Opcode α)) (s : State α ω) :
    c.runOps frame index (ops ++ rest) s =
      (c.runOps frame index ops s).andThen fun _ => c.runOps frame (index + ops.length) rest := by
  induction ops generalizing index s with
  | nil => simp only [List.nil_append, List.length_nil, Nat.add_zero]; rfl
  | cons op ops ih =>
    have htail : (fun _ : Unit => c.runOps frame (index + 1) (ops ++ rest)) =
        fun _ t => (c.runOps frame (index + 1) ops t).andThen fun _ =>
          c.runOps frame (index + (op :: ops).length) rest := by
      funext _ t
      rw [ih (index + 1) t, List.length_cons, Nat.add_assoc, Nat.add_comm 1]
    rw [List.cons_append, runOps_cons, runOps_cons, Outcome.andThen_assoc, htail]

/-! ## What frames keep, and how they fail -/

section

variable {c} {I : Machine α → Prop} {P : Error → Prop}

omit [Scalar α] [Angle α] [Shown α] in
/-- The file of a frame fails for its name, or because those outside do. -/
theorem saveFrame_upholds (hname : P .unwritable) (hwidth : P .notNumber)
    (hsave : ∀ screen path w e, (c.outside.save screen path w).result = .error e → P e)
    (directory : Path) (k : Nat) : Upholds I P (c.saveFrame directory k) := by
  have hlift : ∀ {e : Error}, P e → Upholds I P (lift (.error e) : Action α ω Path) := by
    intro e he
    apply upholds_lift
    rintro e' ⟨⟩
    exact he
  rw [saveFrame_eq]
  split
  · exact hlift hname
  · split
    · exact hlift hwidth
    · refine (upholds_call fun screen w e he => hsave screen _ w e he).bind fun _ => ?_
      exact (upholds_note _).bind fun _ => upholds_pure _

/-- An instruction fails as it does, or because it cannot be written. -/
theorem perform_upholds (frame index : Nat) {op : Opcode α} (hline : ∀ e, op.describe = .error e → P e)
    (h : Upholds I P (c.exec op)) : Upholds I P (c.perform frame index op) := by
  intro s hs
  rcases c.admits_or_barred op with hadmits | ⟨e, ht, hbarred⟩
  · rw [c.perform_apply hadmits]
    refine ⟨(h s hs).1, ?_⟩
    intro e he
    cases hr : (c.exec op s).result with
    | ok u =>
      rw [hr] at he
      cases he
    | error e' =>
      simp only [hr, Except.mapError, Except.error.injEq] at he
      cases hdescribed : op.describe with
      | ok line =>
        rw [Opcode.handedOn_of_ok hdescribed] at he
        exact he ▸ (h s hs).2 e' hr
      | error e'' =>
        rw [Opcode.handedOn_of_error hdescribed] at he
        exact he ▸ hline e'' hdescribed
  · rw [c.perform_of_barred ht hbarred]
    refine ⟨hs, ?_⟩
    rintro e' ⟨⟩
    exact hline e hbarred

theorem runOps_upholds (frame index : Nat) {ops : List (Opcode α)}
    (hlines : ∀ op ∈ ops, ∀ e, op.describe = .error e → P e)
    (h : ∀ op ∈ ops, Upholds I P (c.exec op)) : Upholds I P (c.runOps frame index ops) := by
  induction ops generalizing index with
  | nil => exact upholds_pure ()
  | cons op rest ih =>
    refine (perform_upholds frame index (hlines op List.mem_cons_self)
      (h op List.mem_cons_self)).bind fun _ => ?_
    exact ih (index + 1) (fun op hop => hlines op (List.mem_cons_of_mem _ hop))
      fun op hop => h op (List.mem_cons_of_mem _ hop)

omit [Angle α] [Shown α] in
theorem fresh_upholds (h : ∀ m, I m → I m.fresh) :
    Upholds I P (Action.change fun m => .ok m.fresh : Action α ω Unit) := by
  apply upholds_change
  · rintro m m' hm ⟨⟩
    exact h m hm
  · nofun

theorem runFrame_upholds (hfresh : ∀ m, I m → I m.fresh)
    (hlines : ∀ op ∈ c.ops, ∀ e, op.describe = .error e → P e)
    (hops : ∀ op ∈ c.ops, Upholds I P (c.exec op)) (k : Nat) : Upholds I P (c.runFrame k) :=
  (fresh_upholds hfresh).bind fun _ => runOps_upholds k 0 hlines hops

/-- Frames keep what their knobs, their instructions and their files keep. -/
theorem runFrames_upholds {directory : Path} {frames : List Nat} (hfresh : ∀ m, I m → I m.fresh)
    (hknobs : ∀ k ∈ frames, Upholds I P (c.applyKnobs k))
    (hlines : ∀ op ∈ c.ops, ∀ e, op.describe = .error e → P e)
    (hops : ∀ op ∈ c.ops, Upholds I P (c.exec op))
    (hfile : ∀ k, Upholds I P (c.saveFrame directory k)) :
    Upholds I P (c.runFrames directory frames) := by
  induction frames with
  | nil => exact upholds_pure []
  | cons k rest ih =>
    have hframe : Upholds I P (c.animateFrame directory k) :=
      (hknobs k List.mem_cons_self).bind fun _ =>
        (runFrame_upholds hfresh hlines hops k).bind fun _ => hfile k
    refine hframe.bind fun path => ?_
    refine Upholds.bind (ih ?_) fun paths => upholds_pure _
    exact fun k hk => hknobs k (List.mem_cons_of_mem _ hk)

end

end Setup

end Wireframe.Run
