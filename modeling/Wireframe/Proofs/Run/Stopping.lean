import Wireframe.Proofs.Run.Position

/-!
# `Wireframe.Proofs.Run.Stopping` — the history of a run that fails

A run that stops at an instruction has made the calls of the frames before it and of the instructions
before it, and, if the instruction had asked those outside for something, the call that failed. If the
instruction can be written on one line, the run has reported one failure of its own, with the frame and the
instruction, and hands on the failure of the instruction; otherwise the report fails, and that failure is
handed on. However a run ends, its frames are put together only when the files of all of them are there.

## Contents
- `Note.isMilestone`, `Note.isError`: what a run reports of its own progress, and of its failures.
- `Unmarked`, `NoAssembly`: parts of a run that report no milestone, and that order no assembly.
- `perform_milestones`, `runOps_milestones`, `runFrames_milestones`: milestones of parts of a run.
- `Stops`, `Bars`: where a run stops; `exec_failed_calls`, `Stops.outcome`, `Bars.outcome`: what it has
  done by then.
- `frames_of_assembly`, `assembly_last`: what precedes an assembly.
- `stopped_run_history` assembles the results; `unwritten_failure_lost`: a failure without a report.
-/

namespace Wireframe

open Document

variable {α ω β γ : Type}

/-- The call that an instruction makes in vain. -/
def Machine.failedCallOf (m : Machine α) (op : Opcode α) : List (Run.Call α) :=
  (op.request?.map fun request => ⟨request, m.stack, m.screen, false⟩).toList

namespace Run

/-! ## What is reported of progress and of failures -/

/-- A call for the frames to be put together. -/
def Request.isAssembly : Request → Bool
  | .assemble _ => true
  | _ => false

namespace Note

/-- A report of how far a run has come: the file of a frame is written, or an instruction failed. -/
def isMilestone : Note → Bool
  | .failed .. | .frameWritten .. => true
  | _ => false

/-- A report of a failure by the run itself, not by those outside. -/
def isError : Note → Bool
  | .outside _ => false
  | n => n.level = .error

/-- Failures are milestones. -/
theorem isMilestone_of_isError {n : Note} (h : n.isError = true) : n.isMilestone = true := by
  cases n with
  | failed frame index line => rfl
  | frameWritten number count path => rfl
  | outside record => cases h
  | _ => simp [isError, level] at h

end Note

/-- The milestones among the notes. -/
def Outcome.milestones (r : Outcome α ω β) : List Note := r.notes.filter Note.isMilestone

theorem Action.bind_milestones {a : Action α ω β} {s : State α ω} {b : β}
    (h : (a s).result = .ok b) (f : β → Action α ω γ) :
    ((a >>= f) s).milestones = (a s).milestones ++ (f b (a s).state).milestones := by
  rw [Outcome.milestones, Action.bind_notes h, List.filter_append]
  rfl

/-! ## What parts of a run call and note -/

/-- A part that orders no assembly and reports no milestone. -/
abbrev Unmarked (a : Action α ω β) : Prop :=
  Action.Only (fun call => call.request.isAssembly = false) (fun n => n.isMilestone = false) a

/-- A part that orders no assembly, whatever it notes. -/
abbrev NoAssembly (a : Action α ω β) : Prop :=
  Action.Only (fun call => call.request.isAssembly = false) (fun _ => True) a

theorem Unmarked.noAssembly {a : Action α ω β} (h : Unmarked a) : NoAssembly a :=
  fun s => ⟨(h s).1, fun _ _ => trivial⟩

theorem Unmarked.milestones {a : Action α ω β} (h : Unmarked a) (s : State α ω) :
    (a s).milestones = [] := by
  apply List.filter_eq_nil_iff.mpr
  intro n hn
  simp [(h s).2 n hn]

namespace Setup

variable (c : Setup α ω)

omit c in
theorem setKnobs_unmarked (entries : List (Label × α)) : Unmarked (setKnobs entries : Action α ω Unit) := by
  induction entries with
  | nil => exact Action.only_pure ()
  | cons entry rest ih => exact (Action.only_change _).bind fun _ => ih

theorem openDirectory_unmarked : Unmarked c.openDirectory := by
  refine (Action.only_lift _).bind fun _ => (Action.only_consult fun _ => rfl).bind fun _ => ?_
  exact (Action.only_lift _).bind fun _ => Action.only_pure _

/-- Knobs are set without a call; their table is no milestone. -/
theorem applyKnobs_unmarked [Shown α] (frame : Nat) : Unmarked (c.applyKnobs frame) := by
  unfold applyKnobs
  split
  · exact Action.only_pure ()
  · refine (Action.only_lift _).bind fun knobs => (setKnobs_unmarked _).bind fun _ => ?_
    unfold showKnobs
    split
    · refine (Action.only_look _).bind fun table => (Action.only_lift _).bind fun text => ?_
      exact Action.only_note rfl
    · exact Action.only_pure ()

theorem save_unmarked (path : Path) : Unmarked (c.save path) :=
  Action.only_call (fun _ _ _ => rfl) fun _ => rfl

theorem saveFrame_noAssembly (directory : Path) (frame : Nat) :
    NoAssembly (c.saveFrame directory frame) := by
  rw [saveFrame_eq]
  split
  · exact Action.only_lift _
  · split
    · exact Action.only_lift _
    · refine (c.save_unmarked _).noAssembly.bind fun _ => ?_
      exact (Action.only_note trivial).bind fun _ => Action.only_pure _

/-- What is reported of the file of a frame. -/
def fileNote (directory : Path) (k : Nat) : Note :=
  .frameWritten (k + 1) c.frameCount (c.framePath directory k)

theorem saveFrame_milestones {directory path : Path} {k : Nat} {s : State α ω}
    (h : (c.saveFrame directory k s).result = .ok path) :
    (c.saveFrame directory k s).milestones = [c.fileNote directory k] := by
  rw [saveFrame_eq] at h ⊢
  split at h
  · cases h
  · split at h
    · cases h
    · next hwritable hwidth =>
      obtain ⟨answer, hsave, h, -⟩ := Action.bind_ok h
      rw [if_neg hwritable, if_neg hwidth, Action.bind_milestones hsave,
        (c.save_unmarked _).milestones]
      rfl

variable [Scalar α] [Angle α] [Shown α]

/-- Instructions order no assembly, and report no milestone by themselves. -/
theorem exec_unmarked (op : Opcode α) : Unmarked (c.exec op) := by
  rcases c.exec_cases op with ⟨filename, rfl⟩ | rfl | ⟨-, -, he⟩
  · refine (Action.only_lift _).bind fun path => (c.save_unmarked _).bind fun answer => ?_
    have hsaved : ∀ p : Path, (Note.saved p : Note).isMilestone = false := fun _ => rfl
    exact (Action.only_note (hsaved _)).bind fun _ => Action.only_keep _
  · exact Action.only_call (fun _ _ _ => rfl) fun _ => rfl
  · rw [he]
    exact Action.only_advance fun _ => rfl

theorem perform_noAssembly (frame index : Nat) (op : Opcode α) :
    NoAssembly (c.perform frame index op) := by
  intro s
  refine ⟨?_, fun _ _ => trivial⟩
  rcases c.perform_parts frame index op s with ⟨-, hcalls⟩ | ⟨-, hcalls⟩
  · rw [hcalls]
    exact (c.exec_unmarked op s).1
  · rw [hcalls]
    nofun

theorem runOps_noAssembly (frame index : Nat) (ops : List (Opcode α)) :
    NoAssembly (c.runOps frame index ops) := by
  induction ops generalizing index with
  | nil => exact Action.only_pure ()
  | cons op rest ih => exact (c.perform_noAssembly frame index op).bind fun _ => ih (index + 1)

theorem runFrame_noAssembly (frame : Nat) : NoAssembly (c.runFrame frame) :=
  (Action.only_change _).bind fun _ => c.runOps_noAssembly frame 0 c.ops

/-- Frames order no assembly. -/
theorem runFrames_noAssembly (directory : Path) (frames : List Nat) :
    NoAssembly (c.runFrames directory frames) := by
  induction frames with
  | nil => exact Action.only_pure []
  | cons frame rest ih =>
    have hframe : NoAssembly (c.animateFrame directory frame) :=
      (c.applyKnobs_unmarked frame).noAssembly.bind fun _ =>
        (c.runFrame_noAssembly frame).bind fun _ => c.saveFrame_noAssembly directory frame
    exact hframe.bind fun path => ih.bind fun paths => Action.only_pure _

theorem lead_noAssembly (k : Nat) : NoAssembly (c.lead k) := by
  unfold lead
  split
  · refine c.openDirectory_unmarked.noAssembly.bind fun directory => ?_
    exact (c.runFrames_noAssembly directory _).bind fun _ => (c.applyKnobs_unmarked k).noAssembly
  · exact Action.only_pure ()

/-! ## Milestones of parts of a run -/

omit [Scalar α] [Angle α] in
/-- A trace is no milestone. -/
theorem tracing_milestones (index : Nat) (op : Opcode α) :
    (c.tracing index op).filter Note.isMilestone = [] := by
  unfold tracing lineNotes
  split
  · split <;> rfl
  · rfl

/-- An instruction that a frame gets beyond reports no milestone. -/
theorem perform_milestones {frame index : Nat} {op : Opcode α} {s : State α ω}
    (h : (c.perform frame index op s).result = .ok ()) : (c.perform frame index op s).milestones = [] := by
  have hexec : (c.exec op s).notes.filter Note.isMilestone = [] := (c.exec_unmarked op).milestones s
  rw [Outcome.milestones, (c.perform_ok h).2.2, List.filter_append, tracing_milestones, hexec]
  rfl

theorem runOps_milestones {frame index : Nat} {ops : List (Opcode α)} {s : State α ω}
    (h : (c.runOps frame index ops s).result = .ok ()) :
    (c.runOps frame index ops s).milestones = [] := by
  induction ops generalizing index s with
  | nil => rfl
  | cons op rest ih =>
    obtain ⟨u, hop, hrest, -⟩ := Action.bind_ok h
    have hmilestones := Action.bind_milestones hop fun _ => c.runOps frame (index + 1) rest
    rw [ih hrest, c.perform_milestones hop] at hmilestones
    exact hmilestones

/-- A frame that succeeds reports its file. -/
theorem animateFrame_milestones {directory path : Path} {k : Nat} {s : State α ω}
    (h : (c.animateFrame directory k s).result = .ok path) :
    (c.animateFrame directory k s).milestones = [c.fileNote directory k] := by
  unfold animateFrame at h ⊢
  obtain ⟨u, hknobs, h, -⟩ := Action.bind_ok h
  obtain ⟨v, hrun, hsave, -⟩ := Action.bind_ok h
  have hnone : (c.runFrame k (c.applyKnobs k s).state).milestones = [] := c.runOps_milestones hrun
  rw [Action.bind_milestones hknobs, Action.bind_milestones hrun, (c.applyKnobs_unmarked k).milestones,
    hnone, c.saveFrame_milestones hsave]
  rfl

theorem runFrames_milestones {directory : Path} {frames : List Nat} {s : State α ω} {paths : List Path}
    (h : (c.runFrames directory frames s).result = .ok paths) :
    (c.runFrames directory frames s).milestones = frames.map (c.fileNote directory) := by
  induction frames generalizing s paths with
  | nil => rfl
  | cons k rest ih =>
    unfold runFrames at h ⊢
    obtain ⟨path, hframe, h, -⟩ := Action.bind_ok h
    obtain ⟨others, hrest, -⟩ := Action.bind_ok h
    rw [Action.bind_milestones hframe, Action.bind_milestones hrest, c.animateFrame_milestones hframe,
      ih hrest]
    exact congrArg (c.fileNote directory k :: ·) (List.append_nil _)

/-- A run that gets to the instructions of a frame has reported the files of the frames before it. -/
theorem lead_milestones {directory : Path} {k : Nat} {s : State α ω} (hk : k < c.passes)
    (hopen : c.plan.settings.animated = true → (c.openDirectory s).result = .ok directory)
    (h : (c.lead k s).result = .ok ()) :
    (c.lead k s).milestones = (List.range k).map (c.fileNote directory) := by
  unfold lead at h ⊢
  unfold passes at hk
  by_cases hanimated : c.plan.settings.animated = true
  · simp only [hanimated, if_true] at h ⊢
    obtain ⟨d, hd, h, -⟩ := Action.bind_ok h
    obtain ⟨paths, hframes, -⟩ := Action.bind_ok h
    obtain rfl : d = directory := by
      have hopened := hopen hanimated
      rw [hd] at hopened
      exact Except.ok.inj hopened
    rw [Action.bind_milestones hd, Action.bind_milestones hframes, c.openDirectory_unmarked.milestones,
      (c.applyKnobs_unmarked k).milestones, c.runFrames_milestones hframes]
    exact List.append_nil _
  · simp only [hanimated, if_false, Bool.false_eq_true] at hk h ⊢
    obtain rfl : k = 0 := by omega
    rfl

/-! ## Where a run stops -/

/-- A run gets to an instruction of a frame, which runs and fails. -/
structure Stops (s : State α ω) (k i : Nat) (op : Opcode α) (e : Error) : Prop where
  frame : k < c.passes
  led : (c.lead k s).result = .ok ()
  stopped : c.StopsAt k i op (c.lead k s).state e

/-- A run gets to an instruction of a frame that is to be traced and cannot be written. -/
structure Bars (s : State α ω) (k i : Nat) (op : Opcode α) (e : Error) : Prop where
  frame : k < c.passes
  led : (c.lead k s).result = .ok ()
  barred : c.BarsAt k i op (c.lead k s).state e

omit c [Scalar α] [Angle α] in
/-- The report of a failure is a milestone. -/
theorem lineNotes_failed (op : Opcode α) (frame i : Nat) :
    (lineNotes op (.failed frame i)).filter Note.isMilestone = lineNotes op (.failed frame i) := by
  unfold lineNotes
  split <;> rfl

omit c in
/-- A frame that stops reports the failure, if it can, and no other milestone. -/
theorem StopsAt.milestones {c : Setup α ω} {frame i : Nat} {op : Opcode α} {s : State α ω} {e : Error}
    (h : c.StopsAt frame i op s e) :
    (c.runFrame frame s).milestones = lineNotes op (.failed frame i) := by
  have hbefore : (c.before frame i s).notes.filter Note.isMilestone = [] := c.runOps_milestones h.before
  have hexec : (c.exec op (c.before frame i s).state).notes.filter Note.isMilestone = [] :=
    (c.exec_unmarked op).milestones _
  rw [Outcome.milestones, h.runFrame]
  simp only [List.filter_append, hbefore, hexec, c.tracing_milestones i op, lineNotes_failed,
    List.nil_append]

omit c in
/-- A frame that does not get to run an instruction reports no milestone. -/
theorem BarsAt.milestones {c : Setup α ω} {frame i : Nat} {op : Opcode α} {s : State α ω} {e : Error}
    (h : c.BarsAt frame i op s e) : (c.runFrame frame s).milestones = [] := by
  rw [Outcome.milestones, h.runFrame]
  exact c.runOps_milestones h.before

end Setup

/-! ## The call of an instruction that fails -/

/-- What those outside answer to a request, up to the path they may give. -/
def Outside.answer (out : Outside ω) (request : Request) (screen : Screen) (w : ω) : Except Error Unit :=
  match request with
  | .save path => (out.save screen path w).result.map fun _ => ()
  | .view => (out.view screen w).result
  | .assemble order => (out.assemble order w).result.map fun _ => ()

namespace Setup

variable (c : Setup α ω) [Scalar α] [Angle α] [Shown α]

omit [Scalar α] [Angle α] [Shown α] in
/-- A picture that is not saved has no file name, or the one call for it has failed. -/
theorem saveAs_failed_calls {filename : Name} {s : State α ω} {e : Error}
    (h : (c.saveAs filename s).result = .error e) :
    (c.saveAs filename s).calls = s.machine.failedCallOf (.save filename) ∧
      ∀ request, (Opcode.save filename : Opcode α).request? = some request →
        c.outside.answer request s.machine.screen s.world = .error e := by
  cases hp : Path.ofValue filename with
  | error e' =>
    have hnone : (Opcode.save filename : Opcode α).request? = none := by
      simp only [Opcode.request?, hp, Except.toOption, Option.map_none]
    rw [c.saveAs_of_path_error hp, Machine.failedCallOf, hnone]
    refine ⟨rfl, ?_⟩
    intro request hrequest
    cases hrequest
  | ok path =>
    have hsome : (Opcode.save filename : Opcode α).request? = some (.save path) := by
      simp only [Opcode.request?, hp, Except.toOption, Option.map_some]
    rw [c.saveAs_apply hp] at h ⊢
    rw [Machine.failedCallOf, hsome]
    cases hr : (c.outside.save s.machine.screen path s.world).result with
    | ok answer =>
      simp only [hr] at h
      cases h
    | error e' =>
      simp only [hr] at h ⊢
      refine ⟨rfl, ?_⟩
      rintro request ⟨⟩
      simp only [Outside.answer, hr]
      cases h
      rfl

/-- **The call of an instruction that fails.** If it has asked those outside for something, that call is
    the one that failed, and the failure is their answer. -/
theorem exec_failed_calls {op : Opcode α} {s : State α ω} {e : Error}
    (h : (c.exec op s).result = .error e) :
    (c.exec op s).calls = s.machine.failedCallOf op ∧
      ∀ request, op.request? = some request →
        c.outside.answer request s.machine.screen s.world = .error e := by
  rcases c.exec_cases op with ⟨filename, rfl⟩ | rfl | ⟨hsave, hdisplay, he⟩
  · exact c.saveAs_failed_calls h
  · change (c.outside.view s.machine.screen s.world).result = .error e at h
    constructor
    · simp only [exec, Action.call, h, Action.succeeded]
      rfl
    · rintro request ⟨⟩
      exact h
  · -- all others ask for nothing
    have hnone : op.request? = none := by
      cases op with
      | save filename => exact absurd rfl hsave
      | display => exact absurd rfl hdisplay
      | _ => rfl
    rw [Machine.failedCallOf, hnone, he]
    constructor
    · simp only [Action.advance]
      split <;> rfl
    · intro request hrequest
      cases hrequest

/-! ## The history of a run that stops -/

/-- **What a run has done when a frame of it fails.** It ends with the failure of the frame; its calls and
    milestones are those of what precedes the frame, and of the frame. -/
theorem run_of_runFrame_error {k : Nat} {s : State α ω} {e : Error} (hk : k < c.passes)
    (hled : (c.lead k s).result = .ok ())
    (h : (c.runFrame k (c.lead k s).state).result = .error e) :
    (c.run s).result = .error e ∧
      (c.run s).calls = (c.lead k s).calls ++ (c.runFrame k (c.lead k s).state).calls ∧
      (c.run s).milestones =
        (c.lead k s).milestones ++ (c.runFrame k (c.lead k s).state).milestones := by
  have hstart : (c.lead k >>= fun _ => c.runFrame k) s =
      (c.lead k s).andThen fun _ => c.runFrame k := rfl
  rw [Outcome.andThen_of_ok hled] at hstart
  have hrun := (c.run_startsWith hk).error ((congrArg Outcome.result hstart).trans h)
  rw [hstart] at hrun
  rw [hrun]
  refine ⟨rfl, rfl, ?_⟩
  rw [Outcome.milestones, List.filter_append]
  rfl

omit c in
/-- A run that stops ends with the failure that the instruction hands on. -/
theorem Stops.outcome {c : Setup α ω} {k i : Nat} {op : Opcode α} {s : State α ω} {e : Error}
    (h : c.Stops s k i op e) :
    (c.run s).result = .error (op.handedOn e) ∧
      (c.run s).calls = (c.lead k s).calls ++ (c.runFrame k (c.lead k s).state).calls ∧
      (c.run s).milestones = (c.lead k s).milestones ++ lineNotes op (.failed k i) := by
  have houtcome := c.run_of_runFrame_error h.frame h.led (congrArg Outcome.result h.stopped.runFrame)
  rwa [h.stopped.milestones] at houtcome

omit c in
/-- A run that does not get to run an instruction ends with the failure of writing it. -/
theorem Bars.outcome {c : Setup α ω} {k i : Nat} {op : Opcode α} {s : State α ω} {e : Error}
    (h : c.Bars s k i op e) :
    (c.run s).result = .error e ∧
      (c.run s).calls = (c.lead k s).calls ++ (c.runFrame k (c.lead k s).state).calls ∧
      (c.run s).milestones = (c.lead k s).milestones := by
  have houtcome := c.run_of_runFrame_error h.frame h.led (congrArg Outcome.result h.barred.runFrame)
  rwa [h.barred.milestones, List.append_nil] at houtcome

omit c [Scalar α] [Angle α] [Shown α] in
/-- A list in which only one call is an assembly ends with it, if it ends with an assembly. -/
theorem eq_of_only_assembly {xs before after : List (Call α)} {x call : Call α}
    (hxs : ∀ y ∈ xs, y.request.isAssembly = false) (hcall : call.request.isAssembly = true)
    (h : xs ++ [x] = before ++ call :: after) : before = xs ∧ call = x ∧ after = [] := by
  rcases List.eq_nil_or_concat after with rfl | ⟨front, last, rfl⟩
  · obtain ⟨hbefore, hlast⟩ := List.append_inj' h rfl
    exact ⟨hbefore.symm, (List.singleton_inj.mp hlast).symm, rfl⟩
  · -- an assembly that is not the last call would be one of the others
    have hsplit : xs ++ [x] = (before ++ call :: front) ++ [last] := by simpa using h
    obtain ⟨hothers, -⟩ := List.append_inj' hsplit rfl
    have hmem : call ∈ xs := by
      rw [hothers]
      simp
    rw [hxs call hmem] at hcall
    cases hcall

/-- A run whose frames do not all succeed orders no assembly. -/
theorem animate_of_runFrames_error {directory : Path} {s : State α ω} {e : Error}
    (hopen : (c.openDirectory s).result = .ok directory)
    (h : (c.runFrames directory (List.range c.frameCount.toNat) (c.openDirectory s).state).result =
      .error e) :
    ∀ call ∈ (c.animate s).calls, call.request.isAssembly = false := by
  have hcalls : (c.animate s).calls = (c.openDirectory s).calls ++
      (c.runFrames directory (List.range c.frameCount.toNat) (c.openDirectory s).state).calls := by
    unfold animate
    rw [Action.bind_apply, Outcome.andThen_of_ok hopen, Action.bind_apply, Outcome.andThen_of_error h]
  intro call hmem
  rw [hcalls] at hmem
  rcases List.mem_append.mp hmem with hmem | hmem
  · exact (c.openDirectory_unmarked s).1 call hmem
  · exact (c.runFrames_noAssembly directory _ _).1 call hmem

/-- A run whose frames succeed has the calls of the frames behind it, and orders the assembly of their
    files. -/
theorem animate_of_runFrames_ok {directory : Path} {s : State α ω} {paths : List Path}
    (hopen : (c.openDirectory s).result = .ok directory)
    (h : (c.runFrames directory (List.range c.frameCount.toNat) (c.openDirectory s).state).result =
      .ok paths) :
    ∃ call : Call α,
      (c.animate s).calls =
        (List.range c.frameCount.toNat).flatMap (c.frameCalls directory s.machine) ++ [call] ∧
      (∀ earlier ∈ (List.range c.frameCount.toNat).flatMap (c.frameCalls directory s.machine),
        earlier.request.isAssembly = false) ∧
      call.request = .assemble
        (c.order directory ((List.range c.frameCount.toNat).map (c.framePath directory))) := by
  have hothers := (c.runFrames_noAssembly directory (List.range c.frameCount.toNat)
    (c.openDirectory s).state).1
  obtain ⟨path, w, records, -, -, hopenCalls, hopenState⟩ := c.openDirectory_ok hopen
  have hmachine : (c.openDirectory s).state.machine = c.reach s.machine 0 := by rw [hopenState]; rfl
  have hworld : (c.openDirectory s).state.world = c.worldAt directory s.machine w 0 := by
    rw [hopenState]
    rfl
  rw [List.range_eq_range'] at h
  obtain ⟨rfl, hframesCalls, -⟩ := c.runFrames_ok hmachine hworld h
  rw [← List.range_eq_range'] at h hframesCalls
  have hcalls : (c.animate s).calls = (c.openDirectory s).calls ++
      ((c.runFrames directory (List.range c.frameCount.toNat) (c.openDirectory s).state).calls ++
        (c.assemble directory ((List.range c.frameCount.toNat).map (c.framePath directory))
          (c.runFrames directory (List.range c.frameCount.toNat)
            (c.openDirectory s).state).state).calls) := by
    unfold animate
    rw [Action.bind_apply, Outcome.andThen_of_ok hopen, Action.bind_apply, Outcome.andThen_of_ok h]
    -- looking at the paths that are kept calls no one
    exact congrArg (fun calls => _ ++ (_ ++ calls)) (Action.bind_pure_calls _ _ _)
  rw [hframesCalls] at hothers
  rw [hcalls, hopenCalls, hframesCalls]
  exact ⟨_, rfl, hothers, rfl⟩

/-- Only an animation whose frames succeed orders an assembly. -/
theorem frames_of_assembly {s : State α ω} {call : Call α} (hmem : call ∈ (c.run s).calls)
    (hcall : call.request.isAssembly = true) :
    c.plan.settings.animated = true ∧
      ∃ directory paths, (c.openDirectory s).result = .ok directory ∧
        (c.runFrames directory (List.range c.frameCount.toNat) (c.openDirectory s).state).result =
          .ok paths := by
  unfold run at hmem
  by_cases hanimated : c.plan.settings.animated = true
  · rw [if_pos hanimated] at hmem
    cases hopen : (c.openDirectory s).result with
    | error e =>
      have hcalls : (c.animate s).calls = (c.openDirectory s).calls := by
        unfold animate
        rw [Action.bind_apply, Outcome.andThen_of_error hopen]
      rw [hcalls] at hmem
      rw [(c.openDirectory_unmarked s).1 call hmem] at hcall
      cases hcall
    | ok directory =>
      cases hframes : (c.runFrames directory (List.range c.frameCount.toNat)
        (c.openDirectory s).state).result with
      | error e =>
        rw [c.animate_of_runFrames_error hopen hframes call hmem] at hcall
        cases hcall
      | ok paths => exact ⟨hanimated, directory, paths, rfl, hframes⟩
  · -- a still picture has no frames to put together
    rw [if_neg hanimated] at hmem
    have hstill : NoAssembly c.still :=
      (c.runFrame_noAssembly 0).bind fun _ => (Action.only_look _).bind fun _ => Action.only_pure _
    rw [(hstill s).1 call hmem] at hcall
    cases hcall

/-- **An assembly comes last.** Before frames are put together all of them have been drawn and written,
    and nothing follows. -/
theorem assembly_last {s : State α ω} {before after : List (Call α)} {call : Call α}
    (h : (c.run s).calls = before ++ call :: after) (hcall : call.request.isAssembly = true) :
    after = [] ∧ c.plan.settings.animated = true ∧
      ∃ directory, (c.openDirectory s).result = .ok directory ∧
        before = (List.range c.frameCount.toNat).flatMap (c.frameCalls directory s.machine) ∧
        call.request = .assemble
          (c.order directory ((List.range c.frameCount.toNat).map (c.framePath directory))) := by
  have hmem : call ∈ (c.run s).calls := by
    rw [h]
    simp
  obtain ⟨hanimated, directory, paths, hopen, hframes⟩ := c.frames_of_assembly hmem hcall
  obtain ⟨last, hcalls, hothers, hrequest⟩ := c.animate_of_runFrames_ok hopen hframes
  rw [run, if_pos hanimated, hcalls] at h
  obtain ⟨hbefore, rfl, hafter⟩ := eq_of_only_assembly hothers hcall h
  exact ⟨hafter, hanimated, directory, hopen, hbefore, hrequest⟩

/-- The calls up to an instruction that a run gets to, told from the program. -/
theorem reached_calls {k i : Nat} {s : State α ω} {directory : Path} (hk : k < c.passes)
    (hopen : c.plan.settings.animated = true → (c.openDirectory s).result = .ok directory)
    (hled : (c.lead k s).result = .ok ())
    (hbefore : (c.before k i (c.lead k s).state).result = .ok ()) :
    (c.lead k s).calls ++ (c.before k i (c.lead k s).state).calls =
      (List.range k).flatMap (c.frameCalls directory s.machine) ++
        (c.start s.machine k).calls c.options (c.ops.take i) := by
  obtain ⟨hleadCalls, hstart⟩ := c.lead_ok hk hopen hled
  rw [before_apply] at hbefore
  have hbeforeCalls : (c.before k i (c.lead k s).state).calls =
      (c.start s.machine k).calls c.options (c.ops.take i) := by
    rw [before_apply, (c.runOps_ok hbefore).1, ← hstart]
    rfl
  rw [hleadCalls, hbeforeCalls]

omit c in
/-- The calls up to the instruction that fails, with the one of the instruction. -/
theorem Stops.calls {c : Setup α ω} {k i : Nat} {op : Opcode α} {s : State α ω} {e : Error}
    {directory : Path} (h : c.Stops s k i op e)
    (hopen : c.plan.settings.animated = true → (c.openDirectory s).result = .ok directory) :
    (c.run s).calls =
        (List.range k).flatMap (c.frameCalls directory s.machine) ++
          (c.start s.machine k).calls c.options (c.ops.take i) ++
          (c.machineAt s.machine k i).failedCallOf op ∧
      ∀ request, op.request? = some request →
        c.outside.answer request (c.machineAt s.machine k i).screen (c.upTo k i s).state.world =
          .error e := by
  obtain ⟨-, hrunCalls, -⟩ := h.outcome
  -- the instruction fails in the state that the run has reached
  have hreached : c.upTo k i s = (c.lead k s).andThen fun _ => c.before k i := rfl
  rw [Outcome.andThen_of_ok h.led] at hreached
  have hstate : (c.upTo k i s).state = (c.before k i (c.lead k s).state).state := by rw [hreached]
  have hmachine : (c.upTo k i s).state.machine = c.machineAt s.machine k i := by
    apply c.upTo_ok h.frame
    rw [hreached]
    exact h.stopped.before
  rw [hstate] at hmachine ⊢
  obtain ⟨hexec, hanswer⟩ := c.exec_failed_calls h.stopped.failed
  rw [hmachine] at hexec hanswer
  refine ⟨?_, hanswer⟩
  rw [hrunCalls, h.stopped.runFrame_calls, hexec, ← List.append_assoc]
  exact congrArg (· ++ _) (c.reached_calls h.frame hopen h.led h.stopped.before)

omit c in
/-- The calls up to the instruction that does not get to run. -/
theorem Bars.calls {c : Setup α ω} {k i : Nat} {op : Opcode α} {s : State α ω} {e : Error}
    {directory : Path} (h : c.Bars s k i op e)
    (hopen : c.plan.settings.animated = true → (c.openDirectory s).result = .ok directory) :
    (c.run s).calls = (List.range k).flatMap (c.frameCalls directory s.machine) ++
      (c.start s.machine k).calls c.options (c.ops.take i) := by
  obtain ⟨-, hrunCalls, -⟩ := h.outcome
  rw [hrunCalls, congrArg Outcome.calls h.barred.runFrame]
  exact c.reached_calls h.frame hopen h.led h.barred.before

omit [Scalar α] [Angle α] [Shown α] in
/-- The failures that are reported are found behind the reports of the files. -/
theorem errors_of_milestones {β : Type} {r : Outcome α ω β} {directory : Path} {k : Nat} {ns : List Note}
    (h : r.milestones = (List.range k).map (c.fileNote directory) ++ ns) :
    r.notes.filter Note.isError = ns.filter Note.isError := by
  have hfilter : r.notes.filter Note.isError = r.milestones.filter Note.isError := by
    rw [Outcome.milestones, List.filter_filter]
    congr 1
    funext n
    cases hn : n.isError with
    | false => rfl
    | true => rw [Note.isMilestone_of_isError hn]; rfl
  have hfiles : ((List.range k).map (c.fileNote directory)).filter Note.isError = [] := by
    apply List.filter_eq_nil_iff.mpr
    intro n hn
    obtain ⟨j, -, rfl⟩ := List.mem_map.mp hn
    simp [fileNote, Note.isError, Note.level]
  rw [hfilter, h, List.filter_append, hfiles, List.nil_append]

/-- What a run reports of its own failures, as records. -/
def errorRecords {β : Type} (r : Outcome α ω β) : List Record :=
  (r.notes.filter Note.isError).map Note.record

/-- **The history of a run that stops.** A run that stops at an instruction has made the calls of the frames
    before, of the instructions before, and the one of the instruction, which those outside have answered
    with the failure; none of them is for an assembly. If the instruction can be written, the run ends with
    its failure, which is the one failure that it has reported; if not, it ends with the failure of writing
    it and has reported none. The same is true of a run that stops before an instruction because that is to
    be traced. An assembly is ordered only after the calls of all frames, and nothing follows. -/
theorem stopped_run_history (s : State α ω) :
    (∀ k i op e, c.Stops s k i op e →
      (∃ directory,
        (c.plan.settings.animated = true → (c.openDirectory s).result = .ok directory) ∧
        (c.run s).calls =
          (List.range k).flatMap (c.frameCalls directory s.machine) ++
            (c.start s.machine k).calls c.options (c.ops.take i) ++
            (c.machineAt s.machine k i).failedCallOf op ∧
        (c.run s).milestones =
          (List.range k).map (c.fileNote directory) ++ lineNotes op (.failed k i)) ∧
      (∀ request, op.request? = some request →
        c.outside.answer request (c.machineAt s.machine k i).screen (c.upTo k i s).state.world =
          .error e) ∧
      (∀ call ∈ (c.run s).calls, call.request.isAssembly = false) ∧
      (∀ line, op.describe = .ok line → (c.run s).result = .error e ∧
        errorRecords (c.run s) =
          [⟨.error, "mdl.executor", s!"frame {k}: opcode {i} ({line}) の実行に失敗しました"⟩]) ∧
      ∀ e', op.describe = .error e' → (c.run s).result = .error e' ∧ errorRecords (c.run s) = []) ∧
    (∀ k i op e, c.Bars s k i op e →
      (c.run s).result = .error e ∧ errorRecords (c.run s) = [] ∧
      (∃ directory,
        (c.plan.settings.animated = true → (c.openDirectory s).result = .ok directory) ∧
        (c.run s).calls =
          (List.range k).flatMap (c.frameCalls directory s.machine) ++
            (c.start s.machine k).calls c.options (c.ops.take i) ∧
        (c.run s).milestones = (List.range k).map (c.fileNote directory)) ∧
      ∀ call ∈ (c.run s).calls, call.request.isAssembly = false) ∧
    ∀ before call after, (c.run s).calls = before ++ call :: after →
      call.request.isAssembly = true →
      after = [] ∧ c.plan.settings.animated = true ∧
        ∃ directory, (c.openDirectory s).result = .ok directory ∧
          before = (List.range c.frameCount.toNat).flatMap (c.frameCalls directory s.machine) ∧
          call.request = .assemble
            (c.order directory ((List.range c.frameCount.toNat).map (c.framePath directory))) := by
  have hnoAssembly : ∀ k, (c.run s).calls =
      (c.lead k s).calls ++ (c.runFrame k (c.lead k s).state).calls →
      ∀ call ∈ (c.run s).calls, call.request.isAssembly = false := by
    intro k hrunCalls call hcall
    rw [hrunCalls] at hcall
    rcases List.mem_append.mp hcall with hcall | hcall
    · exact (c.lead_noAssembly k s).1 call hcall
    · exact (c.runFrame_noAssembly k _).1 call hcall
  refine ⟨?_, ?_, fun before call after => c.assembly_last⟩
  · intro k i op e h
    obtain ⟨directory, hopen⟩ := c.lead_directory h.led
    obtain ⟨hresult, hrunCalls, hmilestones⟩ := h.outcome
    obtain ⟨hcalls, hanswer⟩ := h.calls hopen
    rw [c.lead_milestones h.frame hopen h.led] at hmilestones
    have herrors := c.errors_of_milestones hmilestones
    refine ⟨⟨directory, hopen, hcalls, hmilestones⟩, hanswer, hnoAssembly k hrunCalls, ?_, ?_⟩
    · intro line hline
      rw [Opcode.handedOn_of_ok hline] at hresult
      refine ⟨hresult, ?_⟩
      rw [errorRecords, herrors, lineNotes, hline]
      rfl
    · intro e' hline
      rw [Opcode.handedOn_of_error hline] at hresult
      refine ⟨hresult, ?_⟩
      rw [errorRecords, herrors, lineNotes, hline]
      rfl
  · intro k i op e h
    obtain ⟨directory, hopen⟩ := c.lead_directory h.led
    obtain ⟨hresult, hrunCalls, hmilestones⟩ := h.outcome
    rw [c.lead_milestones h.frame hopen h.led] at hmilestones
    have herrors := c.errors_of_milestones (hmilestones.trans (List.append_nil _).symm)
    refine ⟨hresult, ?_, ⟨directory, hopen, h.calls hopen, hmilestones⟩, hnoAssembly k hrunCalls⟩
    rw [errorRecords, herrors]
    rfl

end Setup

/-- Those who save two pictures and no more. -/
def Outside.full : Outside Nat where
  openDirectory path w := ⟨.ok path, w, []⟩
  save _ _ w := if w < 2 then ⟨.ok none, w + 1, []⟩ else ⟨.error (.outside .system), w, []⟩
  view _ w := ⟨.ok (), w, []⟩
  assemble _ w := ⟨.ok none, w, []⟩

/-- The animation of two frames, with no room for the pictures of the second one. -/
def Setup.cramped : Setup Float Nat := { Setup.spin with outside := .full }

/-- The state before it. -/
def State.cramped : State Float Nat := ⟨State.spin.machine, [], 0⟩

theorem stopped_run_history_cramped :
    Setup.cramped.Stops .cramped 1 1 (.save (.str "a.png")) (.outside .system) ∧
      (Setup.cramped.run .cramped).result = .error (.outside .system) ∧
      Setup.errorRecords (Setup.cramped.run .cramped) =
        [⟨.error, "mdl.executor",
          "frame 1: opcode 1 (save filename=a.png) の実行に失敗しました"⟩] := by
  have hstops : Setup.cramped.Stops .cramped 1 1 (.save (.str "a.png")) (.outside .system) :=
    ⟨by decide, rfl, rfl, rfl, nofun, rfl⟩
  obtain ⟨hstopped, -⟩ := Setup.cramped.stopped_run_history .cramped
  obtain ⟨-, -, -, hwritten, -⟩ := hstopped 1 1 _ _ hstops
  obtain ⟨hresult, hrecord⟩ := hwritten "save filename=a.png" rfl
  exact ⟨hstops, hresult, hrecord.trans (by decide)⟩

/-- A picture that is to be saved under two values. -/
def Setup.paired : Setup Float Unit :=
  { Setup.spin with ops := [.save (.tuple [.str "a", .int 1])], plan := ⟨⟨1, .str "default"⟩, none⟩ }

/-- An instruction that cannot be written and fails is not reported, and the run ends with another failure
    than the one of the instruction. -/
theorem unwritten_failure_lost :
    Setup.paired.Stops .spin 0 0 (.save (.tuple [.str "a", .int 1])) .notPath ∧
      (Setup.paired.run .spin).result = .error .notNumber ∧ Setup.errorRecords (Setup.paired.run .spin) = [] :=
  ⟨⟨by decide, rfl, rfl, rfl, nofun, rfl⟩, rfl, rfl⟩

end Run

end Wireframe
