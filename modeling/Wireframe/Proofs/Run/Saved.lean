import Mathlib.Logic.Function.Iterate
import Wireframe.Proofs.Run.Effects
import Wireframe.Proofs.Run.Position

/-!
# `Wireframe.Proofs.Run.Saved` — the pictures that runs report

A run reports the list of saved pictures as it stands when its last frame is done, and nothing empties this
list: neither the start of a run, nor the start of a frame, nor a failure. What a run adds to the list are the
paths that its instructions write, frame by frame and in the order of the program (`run_saved`). The report of
a run that follows others on the same state thus begins with what those have saved, the ones that failed
included (`saved_paths_accumulate`): it lists the pictures of its own run alone just in case there were none
before.

## Contents
- `KeepsSaved`: parts of a run that leave the list of saved pictures alone.
- `Action.reached`: what the state after a part gives, if the part succeeds.
- `written`, `writtenAt`, `savesOf`: the paths that instructions write, one by one and in a run.
- `runFrame_saved`, `runFrames_saved`, `run_saved`: what frames and runs add to the list.
- `stateBefore`, `saved_paths_accumulate`: runs one after the other.
-/

namespace Wireframe.Run

open Document

variable {α ω β γ δ : Type}

namespace Action

/-! ## Parts that leave the list alone -/

/-- A part after which the list of saved pictures is what it was, whether it fails or not. -/
def KeepsSaved (a : Action α ω β) : Prop := ∀ s, (a s).state.saved = s.saved

/-- What follows a part, if it leaves the list alone, makes no difference to it. -/
theorem bind_saved (a : Action α ω β) {f : β → Action α ω γ} (hf : ∀ b, KeepsSaved (f b))
    (s : State α ω) : ((a >>= f) s).state.saved = (a s).state.saved := by
  rw [bind_apply]
  cases hr : (a s).result with
  | error e => rw [Outcome.andThen_of_error hr]
  | ok b =>
    rw [Outcome.andThen_of_ok hr]
    exact hf b (a s).state

theorem KeepsSaved.bind {a : Action α ω β} {f : β → Action α ω γ} (ha : KeepsSaved a)
    (hf : ∀ b, KeepsSaved (f b)) : KeepsSaved (a >>= f) :=
  fun s => (bind_saved a hf s).trans (ha s)

theorem keepsSaved_pure (b : β) : KeepsSaved (pure b : Action α ω β) := fun _ => rfl

theorem keepsSaved_lift (r : Except Error β) : KeepsSaved (lift r : Action α ω β) := fun _ => rfl

theorem keepsSaved_look (f : State α ω → β) : KeepsSaved (look f) := fun _ => rfl

theorem keepsSaved_note (n : Note) : KeepsSaved (note n : Action α ω Unit) := fun _ => rfl

theorem keepsSaved_consult (ask : ω → Reply ω β) : KeepsSaved (consult ask : Action α ω β) := fun _ => rfl

theorem keepsSaved_call (request : Request) (ask : Screen → ω → Reply ω β) :
    KeepsSaved (call request ask : Action α ω β) := fun _ => rfl

theorem keepsSaved_change (f : Machine α → Except Error (Machine α)) :
    KeepsSaved (change f : Action α ω Unit) := by
  intro s
  unfold change
  split <;> rfl

/-! ## What a part leads to -/

/-- What the state after a part gives, if the part succeeds. -/
def reached (a : Action α ω β) (f : State α ω → Option γ) (s : State α ω) : Option γ :=
  match (a s).result with
  | .ok _ => f (a s).state
  | .error _ => none

theorem reached_of_ok {a : Action α ω β} {s : State α ω} {b : β} (h : (a s).result = .ok b)
    (f : State α ω → Option γ) : a.reached f s = f (a s).state := by
  simp only [reached, h]

theorem reached_of_error {a : Action α ω β} {s : State α ω} {e : Error} (h : (a s).result = .error e)
    (f : State α ω → Option γ) : a.reached f s = none := by
  simp only [reached, h]

/-- Behind a part that succeeds, the other one starts in the state that it leaves. -/
theorem reached_bind_of_ok {a : Action α ω β} {s : State α ω} {b : β} (h : (a s).result = .ok b)
    (g : β → Action α ω δ) (f : State α ω → Option γ) :
    (a >>= g).reached f s = (g b).reached f (a s).state := by
  simp only [reached, bind_apply, Outcome.andThen_of_ok h]

/-- Behind a part that fails there is nothing. -/
theorem reached_bind_of_error {a : Action α ω β} {s : State α ω} {e : Error}
    (h : (a s).result = .error e) (g : β → Action α ω δ) (f : State α ω → Option γ) :
    (a >>= g).reached f s = none := by
  apply reached_of_error
  rw [bind_apply, Outcome.andThen_of_error h]

/-- A list that is gathered behind a part that fails is empty. -/
theorem filterMap_reached_of_error {a : Action α ω β} {s : State α ω} {e : Error}
    (h : (a s).result = .error e) (g : Nat → β → Action α ω δ) (f : Nat → State α ω → Option γ)
    (positions : List Nat) :
    positions.filterMap (fun i => (a >>= g i).reached (f i) s) = [] := by
  rw [List.filterMap_eq_nil_iff]
  exact fun i _ => reached_bind_of_error h (g i) (f i)

/-- A list that is gathered behind a part that succeeds. -/
theorem filterMap_reached_of_ok {a : Action α ω β} {s : State α ω} {b : β} (h : (a s).result = .ok b)
    (g : Nat → β → Action α ω δ) (f : Nat → State α ω → Option γ) (positions : List Nat) :
    positions.filterMap (fun i => (a >>= g i).reached (f i) s) =
      positions.filterMap fun i => (g i b).reached (f i) (a s).state :=
  List.filterMap_congr fun i _ => reached_bind_of_ok h (g i) (f i)

end Action

open Run.Action

theorem keepsSaved_setKnobs (entries : List (Label × α)) :
    KeepsSaved (setKnobs entries : Action α ω Unit) := by
  induction entries with
  | nil => exact keepsSaved_pure ()
  | cons entry rest ih => exact (keepsSaved_change _).bind fun _ => ih

namespace Setup

variable (c : Setup α ω)

theorem keepsSaved_openDirectory : KeepsSaved c.openDirectory := by
  refine (keepsSaved_lift _).bind fun _ => (keepsSaved_consult _).bind fun _ => ?_
  exact (keepsSaved_lift _).bind fun _ => keepsSaved_pure _

/-- The file of a frame is no picture of an instruction. -/
theorem keepsSaved_saveFrame (directory : Path) (frame : Nat) :
    KeepsSaved (c.saveFrame directory frame) := by
  rw [saveFrame_eq]
  split
  · exact keepsSaved_lift _
  · split
    · exact keepsSaved_lift _
    · exact (keepsSaved_call _ _).bind fun _ => (keepsSaved_note _).bind fun _ => keepsSaved_pure _

theorem keepsSaved_applyKnobs [Shown α] (frame : Nat) : KeepsSaved (c.applyKnobs frame) := by
  have hshow : KeepsSaved (c.showKnobs frame) := by
    unfold showKnobs
    split
    · exact (keepsSaved_look _).bind fun _ => (keepsSaved_lift _).bind fun _ => keepsSaved_note _
    · exact keepsSaved_pure ()
  unfold applyKnobs
  split
  · exact keepsSaved_pure ()
  · exact (keepsSaved_lift _).bind fun _ => (keepsSaved_setKnobs _).bind fun _ => hshow

/-! ## The paths that instructions write -/

/-- The path that an instruction writes in a state: where a picture is saved, the one that is answered or
else the one that was asked for. -/
def written (op : Opcode α) (s : State α ω) : Option Path :=
  op.request?.bind fun request => c.outside.answered s.world (s.machine.called request)

/-- Only a picture that is saved is written. -/
theorem written_of_ne {op : Opcode α} (h : op.form ≠ .save) (s : State α ω) : c.written op s = none := by
  cases op with
  | save filename => exact absurd rfl h
  | _ => rfl

theorem written_of_path_error {filename : Name} {e : Error} (h : Path.ofValue filename = .error e)
    (s : State α ω) : c.written (.save filename) s = none := by
  simp only [written, Opcode.request?, h, Except.toOption, Option.map_none, Option.bind_none]

theorem written_of_path_ok {filename : Name} {path : Path} (h : Path.ofValue filename = .ok path)
    (s : State α ω) : c.written (.save filename) s =
      (c.outside.save s.machine.screen path s.world).result.toOption.map fun answer =>
        answer.getD path := by
  simp only [written, Opcode.request?, h, Except.toOption, Option.map_some, Option.bind_some]
  rfl

variable [Scalar α] [Angle α] [Shown α]

omit [Scalar α] [Angle α] [Shown α] in
/-- The name of a file is a text. -/
theorem exists_of_ofValue {v : Value} {path : Path} (h : Path.ofValue v = .ok path) : ∃ t, v = .str t := by
  unfold Path.ofValue at h
  split at h
  · exact ⟨_, rfl⟩
  · cases h

omit [Scalar α] [Angle α] in
/-- An instruction that cannot be written writes no picture, since its file has no name. -/
theorem written_of_unwritten {op : Opcode α} {e : Error} (h : op.describe = .error e) (s : State α ω) :
    c.written op s = none := by
  by_cases hop : op.form = .save
  · cases op with
    | save filename =>
      cases hpath : Path.ofValue filename with
      | error e' => exact c.written_of_path_error hpath s
      | ok path =>
        obtain ⟨t, rfl⟩ := exists_of_ofValue hpath
        cases h
    | _ => cases hop
  · exact c.written_of_ne hop s

/-- **What an instruction adds to the list**, whether it fails or not: the path that it writes. -/
theorem exec_written (op : Opcode α) (s : State α ω) :
    (c.exec op s).state.saved = s.saved ++ (c.written op s).toList := by
  by_cases hop : op.form = .save
  · cases op with
    | save filename =>
      show (c.saveAs filename s).state.saved = _
      cases hpath : Path.ofValue filename with
      | error e => rw [c.saveAs_of_path_error hpath, c.written_of_path_error hpath, Option.toList_none,
          List.append_nil]
      | ok path =>
        rw [c.saveAs_apply hpath, c.written_of_path_ok hpath]
        cases hr : (c.outside.save s.machine.screen path s.world).result with
        | error e => simp [hr, Except.toOption]
        | ok answer => simp [hr, Except.toOption]
    | _ => cases hop
  · rw [c.exec_saved hop, c.written_of_ne hop, Option.toList_none, List.append_nil]

/-- A path is written just in case a picture is to be saved and the instruction succeeds. -/
theorem written_isSome_iff (op : Opcode α) (s : State α ω) :
    (c.written op s).isSome ↔ (∃ filename, op = .save filename) ∧ (c.exec op s).result = .ok () := by
  by_cases hop : op.form = .save
  · cases op with
    | save filename =>
      show _ ↔ _ ∧ (c.saveAs filename s).result = .ok ()
      cases hpath : Path.ofValue filename with
      | error e => simp [c.saveAs_of_path_error hpath, c.written_of_path_error hpath]
      | ok path =>
        rw [c.saveAs_apply hpath, c.written_of_path_ok hpath]
        cases hr : (c.outside.save s.machine.screen path s.world).result with
        | error e => simp [hr, Except.toOption]
        | ok answer => simp [hr, Except.toOption]
    | _ => cases hop
  · rw [c.written_of_ne hop]
    constructor
    · exact fun h => absurd h Bool.false_ne_true
    · rintro ⟨⟨filename, rfl⟩, -⟩
      exact absurd rfl hop

/-- As a frame runs it, an instruction adds the same. -/
theorem perform_written (frame index : Nat) (op : Opcode α) (s : State α ω) :
    (c.perform frame index op s).state.saved = s.saved ++ (c.written op s).toList := by
  rcases c.admits_or_barred op with hadmits | ⟨e, ht, hline⟩
  · rw [c.perform_apply hadmits]
    exact c.exec_written op s
  · rw [c.perform_of_barred ht hline, c.written_of_unwritten hline, Option.toList_none, List.append_nil]

/-- A path is written just in case a picture is to be saved and the frame gets beyond the instruction. -/
theorem written_isSome_iff_perform (frame index : Nat) (op : Opcode α) (s : State α ω) :
    (c.written op s).isSome ↔
      (∃ filename, op = .save filename) ∧ (c.perform frame index op s).result = .ok () := by
  rcases c.admits_or_barred op with hadmits | ⟨e, ht, hline⟩
  · rw [c.written_isSome_iff, c.perform_apply hadmits]
    cases (c.exec op s).result <;> simp [Except.mapError]
  · rw [c.written_of_unwritten hline, c.perform_of_barred ht hline]
    simp

/-- The path that the instruction at a position of the program writes in a state. -/
def writtenBy (i : Nat) (s : State α ω) : Option Path := c.ops[i]?.bind fun op => c.written op s

/-- The path that the instruction at a position of a frame writes in a run, if the run gets there. -/
def writtenAt (s : State α ω) (k i : Nat) : Option Path := (c.upTo k i).reached (c.writtenBy i) s

/-- The paths that instructions write in a run, frame by frame and in the order of the program. -/
def savesOf (s : State α ω) : List Path :=
  (List.range c.passes).flatMap fun k => (List.range c.ops.length).filterMap (c.writtenAt s k)

/-- **One path for each picture that is saved.** An instruction of a frame writes a path just in case it
    saves a picture and the run gets beyond it. -/
theorem writtenAt_isSome_iff (s : State α ω) (k i : Nat) :
    (c.writtenAt s k i).isSome ↔
      (∃ filename, c.ops[i]? = some (.save filename)) ∧ (c.upTo k (i + 1) s).result = .ok () := by
  have hnext : ∀ op, c.ops[i]? = some op →
      c.upTo k (i + 1) s = (c.upTo k i s).andThen fun _ => c.perform k i op := by
    intro op hop
    have hsucc : (fun _ : Unit => c.before k (i + 1)) =
        fun _ => c.before k i >>= fun _ => c.perform k i op :=
      funext fun _ => funext fun t => c.before_succ hop k t
    rw [upTo, hsucc, ← bind_assoc]
    rfl
  cases hop : c.ops[i]? with
  | none => simp [writtenAt, reached, writtenBy, hop]; split <;> simp
  | some op =>
    rw [hnext op hop, writtenAt]
    cases hr : (c.upTo k i s).result with
    | error e =>
      rw [reached_of_error hr, Outcome.andThen_of_error hr]
      simp
    | ok u =>
      rw [reached_of_ok hr, Outcome.andThen_of_ok hr, writtenBy, hop, Option.bind_some,
        c.written_isSome_iff_perform k i]
      simp

/-! ## What frames add to the list -/

/-- The instructions before a position of a frame add the paths that they write. -/
theorem before_saved (k : Nat) (s : State α ω) {n : Nat} (hn : n ≤ c.ops.length) :
    (c.before k n s).state.saved =
      s.saved ++ (List.range n).filterMap fun i => (c.before k i).reached (c.writtenBy i) s := by
  induction n with
  | zero => exact (List.append_nil _).symm
  | succ n ih =>
    have hop : c.ops[n]? = some c.ops[n] := List.getElem?_eq_getElem hn
    rw [List.range_succ, List.filterMap_append, ← List.append_assoc, ← ih (by omega),
      c.before_succ hop]
    cases hr : (c.before k n s).result with
    | error e =>
      rw [Outcome.andThen_of_error hr, List.filterMap_cons, reached_of_error hr]
      exact (List.append_nil _).symm
    | ok u =>
      rw [Outcome.andThen_of_ok hr]
      show (c.perform k n c.ops[n] (c.before k n s).state).state.saved = _
      rw [c.perform_written, List.filterMap_cons, reached_of_ok hr, writtenBy, hop, Option.bind_some]
      cases c.written c.ops[n] (c.before k n s).state <;> rfl

/-- The instructions of a frame add the paths that they write. -/
theorem runFrame_saved (k : Nat) (s : State α ω) :
    (c.runFrame k s).state.saved =
      s.saved ++ (List.range c.ops.length).filterMap fun i => (c.before k i).reached (c.writtenBy i) s := by
  rw [← before_length, c.before_saved k s (Nat.le_refl _)]

/-- A frame of an animation adds what its instructions write, once its knobs are set. -/
theorem animateFrame_saved (directory : Path) (k : Nat) (s : State α ω) :
    (c.animateFrame directory k s).state.saved =
      s.saved ++ (List.range c.ops.length).filterMap fun i =>
        (c.applyKnobs k >>= fun _ => c.before k i).reached (c.writtenBy i) s := by
  have hkept := c.keepsSaved_applyKnobs k s
  unfold animateFrame
  rw [bind_apply]
  cases hr : (c.applyKnobs k s).result with
  | error e =>
    rw [Outcome.andThen_of_error hr, filterMap_reached_of_error hr, List.append_nil]
    exact hkept
  | ok u =>
    rw [Outcome.andThen_of_ok hr, filterMap_reached_of_ok hr]
    show ((c.runFrame k >>= fun _ => c.saveFrame directory k) (c.applyKnobs k s).state).state.saved = _
    rw [bind_saved _ fun _ => c.keepsSaved_saveFrame directory k, c.runFrame_saved, hkept]

/-- **Frames one after the other** add the paths that their instructions write, up to the first
    failure. -/
theorem runFrames_saved (directory : Path) (n : Nat) (s : State α ω) :
    (c.runFrames directory (List.range n) s).state.saved =
      s.saved ++ (List.range n).flatMap fun k => (List.range c.ops.length).filterMap fun i =>
        (c.runFrames directory (List.range k) >>= fun _ => c.applyKnobs k >>= fun _ =>
          c.before k i).reached (c.writtenBy i) s := by
  -- behind the instructions of a frame only lists of paths are put together
  have hone : ∀ k, KeepsSaved (c.runFrames directory [] >>= fun paths => pure (k :: paths)) :=
    fun _ => (keepsSaved_pure _).bind fun _ => keepsSaved_pure _
  induction n with
  | zero => exact (List.append_nil _).symm
  | succ n ih =>
    rw [List.range_succ, List.flatMap_append, ← List.append_assoc, ← ih, runFrames_append, bind_apply,
      List.flatMap_singleton]
    cases hr : (c.runFrames directory (List.range n) s).result with
    | error e =>
      rw [Outcome.andThen_of_error hr, filterMap_reached_of_error hr, List.append_nil]
    | ok paths =>
      rw [Outcome.andThen_of_ok hr, filterMap_reached_of_ok hr]
      show ((c.runFrames directory [n] >>= fun qs => pure (paths ++ qs)) _).state.saved = _
      rw [bind_saved _ fun _ => keepsSaved_pure _]
      exact (bind_saved _ hone _).trans (c.animateFrame_saved directory n _)

/-! ## What a run adds to the list -/

theorem still_saved (h : c.plan.settings.animated = false) (s : State α ω) :
    (c.still s).state.saved = s.saved ++ c.savesOf s := by
  have hpasses : c.passes = 1 := by rw [passes, h]; rfl
  have hposition : c.writtenAt s 0 = fun i => (c.before 0 i).reached (c.writtenBy i) s := by
    funext i
    simp only [writtenAt, upTo, lead, h, Bool.false_eq_true, if_false, pure_bind]
  have hsaves : c.savesOf s =
      (List.range c.ops.length).filterMap fun i => (c.before 0 i).reached (c.writtenBy i) s := by
    rw [savesOf, hpasses, List.range_one, List.flatMap_singleton, hposition]
  have hrest : KeepsSaved (look (State.saved : State α ω → List Path) >>= fun saved =>
      pure (c.report [] saved none)) := (keepsSaved_look _).bind fun _ => keepsSaved_pure _
  rw [hsaves, ← c.runFrame_saved 0 s]
  exact bind_saved (c.runFrame 0) (fun _ => hrest) s

theorem animate_saved (h : c.plan.settings.animated = true) (s : State α ω) :
    (c.animate s).state.saved = s.saved ++ c.savesOf s := by
  have hpasses : c.passes = c.frameCount.toNat := by rw [passes, h]; rfl
  have hposition : ∀ k, c.writtenAt s k = fun i =>
      (c.openDirectory >>= fun directory => c.runFrames directory (List.range k) >>= fun _ =>
        c.applyKnobs k >>= fun _ => c.before k i).reached (c.writtenBy i) s := by
    intro k
    funext i
    simp only [writtenAt, upTo, lead, h, if_true, bind_assoc]
  have hrest : ∀ directory frames, KeepsSaved (look State.saved >>= fun saved =>
      c.assemble directory frames >>= fun animation => pure (c.report frames saved animation)) :=
    fun _ _ => (keepsSaved_look _).bind fun _ => (keepsSaved_call _ _).bind fun _ => keepsSaved_pure _
  have hkept := c.keepsSaved_openDirectory s
  unfold animate
  simp only [savesOf, hpasses, hposition, bind_apply]
  cases hr : (c.openDirectory s).result with
  | error e =>
    have hnothing : ∀ ks : List Nat, ks.flatMap (fun _ => ([] : List Path)) = [] := fun ks =>
      List.flatMap_eq_nil_iff.mpr fun _ _ => rfl
    simp only [Outcome.andThen_of_error hr, filterMap_reached_of_error hr, hnothing, List.append_nil,
      hkept]
  | ok directory =>
    simp only [Outcome.andThen_of_ok hr, filterMap_reached_of_ok hr]
    rw [← hkept, ← c.runFrames_saved]
    exact bind_saved _ (hrest directory) _

/-- **A run adds the paths that its instructions write**, and no others, whether it fails or not. -/
theorem run_saved (s : State α ω) : (c.run s).state.saved = s.saved ++ c.savesOf s := by
  unfold run
  cases h : c.plan.settings.animated with
  | true => exact c.animate_saved h s
  | false => exact c.still_saved h s

theorem animate_reports {s : State α ω} {report : Report} (h : (c.animate s).result = .ok report) :
    report.savedPaths = (c.animate s).state.saved := by
  unfold animate at h ⊢
  obtain ⟨directory, -, h, hopened, -⟩ := Action.bind_ok h
  obtain ⟨frames, -, h, hframes, -⟩ := Action.bind_ok h
  obtain ⟨saved, hlooked, h, hstate, -⟩ := Action.bind_ok h
  obtain ⟨animation, -, hreport, hassembled, -⟩ := Action.bind_ok h
  cases hlooked
  cases hreport
  rw [hopened, hframes, hstate, hassembled]
  rfl

/-- A run reports the whole list. -/
theorem run_reports {s : State α ω} {report : Report} (h : (c.run s).result = .ok report) :
    report.savedPaths = (c.run s).state.saved := by
  unfold run at h ⊢
  by_cases hanimated : c.plan.settings.animated = true
  · rw [if_pos hanimated] at h ⊢
    exact c.animate_reports h
  · rw [if_neg hanimated] at h ⊢
    rw [(c.still_ok h).1]
    rfl

/-! ## Runs one after the other -/

/-- The state before a run that follows others, whether those fail or not. -/
def stateBefore (s : State α ω) (j : Nat) : State α ω := (fun t => (c.run t).state)^[j] s

theorem stateBefore_succ (s : State α ω) (j : Nat) :
    c.stateBefore s (j + 1) = (c.run (c.stateBefore s j)).state :=
  Function.iterate_succ_apply' _ j s

/-- Every one of the runs is a run from the state that those before it have left. -/
theorem runs_getElem? (n : Nat) (s : State α ω) {j : Nat} (hj : j < n) :
    (c.runs n s)[j]? = some (c.run (c.stateBefore s j)) := by
  induction n generalizing s j with
  | zero => omega
  | succ n ih =>
    cases j with
    | zero => rfl
    | succ j =>
      rw [runs, List.getElem?_cons_succ, ih (c.run s).state (by omega)]
      rfl

theorem length_runs (n : Nat) (s : State α ω) : (c.runs n s).length = n := by
  induction n generalizing s with
  | zero => rfl
  | succ n ih => rw [runs, List.length_cons, ih]

/-- Runs add what their instructions write, one after the other. -/
theorem stateBefore_saved (s : State α ω) (j : Nat) :
    (c.stateBefore s j).saved =
      s.saved ++ (List.range j).flatMap fun i => c.savesOf (c.stateBefore s i) := by
  induction j with
  | zero => exact (List.append_nil _).symm
  | succ j ih =>
    rw [stateBefore_succ, c.run_saved, ih, List.range_succ, List.flatMap_append, List.flatMap_singleton,
      List.append_assoc]

/-- **Reports of saved pictures accumulate.** However many runs there are on one state, and whichever of
them fail: a run that succeeds reports what was saved before the first of them, then what each run before it
has saved, and then its own pictures, one for each instruction that saves one, frame by frame in the order of
the program. These are the pictures of its own alone just in case nothing was saved before. -/
theorem saved_paths_accumulate {n j : Nat} {s : State α ω} {r : Outcome α ω Report} {report : Report}
    (hrun : (c.runs n s)[j]? = some r) (hresult : r.result = .ok report) :
    report.savedPaths = s.saved ++ (List.range (j + 1)).flatMap (fun i => c.savesOf (c.stateBefore s i)) ∧
    (report.savedPaths = c.savesOf (c.stateBefore s j) ↔
      s.saved = [] ∧ ∀ i < j, c.savesOf (c.stateBefore s i) = []) ∧
    ∀ i k m, (c.writtenAt (c.stateBefore s i) k m).isSome ↔
      (∃ filename, c.ops[m]? = some (.save filename)) ∧
        (c.upTo k (m + 1) (c.stateBefore s i)).result = .ok () := by
  have hj : j < n := by
    rw [← c.length_runs n s]
    exact (List.getElem?_eq_some_iff.mp hrun).1
  obtain rfl : r = c.run (c.stateBefore s j) := by
    rw [c.runs_getElem? n s hj] at hrun
    exact (Option.some.inj hrun).symm
  have hsaved : report.savedPaths = (c.stateBefore s j).saved ++ c.savesOf (c.stateBefore s j) := by
    rw [c.run_reports hresult, c.run_saved]
  refine ⟨?_, ?_, fun i k m => c.writtenAt_isSome_iff (c.stateBefore s i) k m⟩
  · rw [c.run_reports hresult, ← stateBefore_succ, c.stateBefore_saved]
  · rw [hsaved, List.append_left_eq_self, c.stateBefore_saved, List.append_eq_nil_iff,
      List.flatMap_eq_nil_iff]
    simp only [List.mem_range]

end Setup

/-- Those who cannot save the second picture that they are asked for. -/
def Outside.unsteady : Outside Nat where
  openDirectory path w := ⟨.ok path, w, []⟩
  save _ _ w := ⟨if w = 1 then .error (.outside .system) else .ok none, w + 1, []⟩
  view _ w := ⟨.ok (), w, []⟩
  assemble _ w := ⟨.ok none, w, []⟩

/-- A still picture that is saved twice. -/
def Setup.twice : Setup Float Nat where
  ops := [.save (.str "a.png"), .save (.str "b.png")]
  options := ⟨1, 1, .white, .black, 20, .str "anim", .str "default", 3, "png", .gif, 50⟩
  plan := ⟨⟨1, .str "default"⟩, none⟩
  traced := false
  knobsShown := false
  outside := .unsteady

/-- The state before the first run of it. -/
def State.twice : State Float Nat :=
  .initial ⟨⟨[]⟩, ⟨[]⟩, .empty⟩ (.blank 1 1 .white) 0

theorem saved_paths_accumulate_twice : ∃ r report, (Setup.twice.runs 2 .twice)[1]? = some r ∧
    r.result = .ok report ∧
    report.savedPaths =
      (List.range 2).flatMap fun i => Setup.twice.savesOf (Setup.twice.stateBefore .twice i) := by
  have hrun : (Setup.twice.runs 2 .twice)[1]? =
      some (Setup.twice.run (Setup.twice.run .twice).state) := rfl
  have hresult : (Setup.twice.run (Setup.twice.run .twice).state).result = .ok ⟨1, .str "default", [],
      [.ofString "a.png", .ofString "a.png", .ofString "b.png"], none⟩ := rfl
  obtain ⟨hreported, -⟩ := Setup.twice.saved_paths_accumulate hrun hresult
  exact ⟨_, _, hrun, hresult, hreported⟩

/-- **The pictures of a failed run are reported by the next one.** The first run saves one picture and fails
at the second; the run after it saves both, and reports three. -/
theorem report_of_failed_run : ∃ e report, State.twice.saved = [] ∧
    (Setup.twice.runs 2 .twice).map Outcome.result = [.error e, .ok report] ∧
    report.savedPaths = [.ofString "a.png", .ofString "a.png", .ofString "b.png"] ∧
    Setup.twice.savesOf (Setup.twice.stateBefore .twice 1) = [.ofString "a.png", .ofString "b.png"] ∧
    report.savedPaths ≠ Setup.twice.savesOf (Setup.twice.stateBefore .twice 1) :=
  ⟨.outside .system,
    ⟨1, .str "default", [], [.ofString "a.png", .ofString "a.png", .ofString "b.png"], none⟩,
    rfl, rfl, rfl, rfl, fun h => absurd (congrArg List.length h : 3 = 2) (by decide)⟩

end Wireframe.Run
