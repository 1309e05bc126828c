import Wireframe.Proofs.Run.Frame
import Wireframe.Run.Preparation

/-!
# `Wireframe.Proofs.Run.History` — the calls of a successful run

What a run asks of those outside can be told from the program alone: the instructions that save or show a
picture ask for it in their order, each with the machine that the instructions before it have left, and
in an animation every frame asks for its file at its end. This module tells it without running anything,
and proves that a run that succeeds has told the same.

## Contents
- `Outside.answered`, `kept`, `hearAll`: those outside, call by call.
- `Machine.after`, `play`, `calls`: instructions without those outside.
- `enter`, `reach`, `frameCalls`: the frames of an animation.
- `State.hear`: the state after calls; `exec_ok`, `runOps_ok`, `runFrame_ok`, `animateFrame_ok`,
  `runFrames_ok`: parts of a run that succeed.
- `run_history`: whole runs.
-/

namespace Wireframe

open Document

variable {α ω : Type}

namespace Run

/-! ## Those outside, call by call -/

namespace Outside

variable (out : Outside ω)

/-- The world after a call. -/
def hear (w : ω) (call : Call α) : ω :=
  match call.request with
  | .save path => (out.save call.screen path w).world
  | .view => (out.view call.screen w).world
  | .assemble order => (out.assemble order w).world

/-- The path under which a picture is saved: the one that is answered, if one is. -/
def answered (w : ω) (call : Call α) : Option Path :=
  match call.request with
  | .save path => (out.save call.screen path w).result.toOption.map fun answer => answer.getD path
  | _ => none

/-- The world after calls. -/
def hearAll (w : ω) (calls : List (Call α)) : ω := calls.foldl out.hear w

/-- The paths under which pictures are saved by calls. -/
def kept : ω → List (Call α) → List Path
  | _, [] => []
  | w, call :: rest => (out.answered w call).toList ++ kept (out.hear w call) rest

theorem hearAll_append (w : ω) (xs ys : List (Call α)) :
    out.hearAll w (xs ++ ys) = out.hearAll (out.hearAll w xs) ys := List.foldl_append

theorem kept_append (w : ω) (xs ys : List (Call α)) :
    out.kept w (xs ++ ys) = out.kept w xs ++ out.kept (out.hearAll w xs) ys := by
  induction xs generalizing w with
  | nil => rfl
  | cons x xs ih =>
    rw [List.cons_append, kept, kept, ih, List.append_assoc]
    rfl

end Outside

/-- The state after calls that instructions made, with another machine. -/
def State.hear (s : State α ω) (out : Outside ω) (m : Machine α) (calls : List (Call α)) : State α ω :=
  ⟨m, s.saved ++ out.kept s.world calls, out.hearAll s.world calls⟩

theorem State.hear_nil (s : State α ω) (out : Outside ω) (m : Machine α) :
    s.hear out m [] = { s with machine := m } := by
  simp only [State.hear, Outside.kept, Outside.hearAll, List.append_nil, List.foldl_nil]

theorem State.hear_hear (s : State α ω) (out : Outside ω) (m m' : Machine α)
    (xs ys : List (Call α)) :
    (s.hear out m xs).hear out m' ys = s.hear out m' (xs ++ ys) := by
  simp only [State.hear, Outside.kept_append, Outside.hearAll_append, List.append_assoc]

end Run

/-! ## Instructions without those outside -/

/-- What an instruction asks for. -/
def Opcode.request? : Opcode α → Option Run.Request
  | .save filename => (Path.ofValue filename).toOption.map .save
  | .display => some .view
  | _ => none

namespace Machine

/-- A call that succeeds. -/
def called (m : Machine α) (r : Run.Request) : Run.Call α := ⟨r, m.stack, m.screen, true⟩

/-- The call that an instruction makes. -/
def callOf (m : Machine α) (op : Opcode α) : List (Run.Call α) := (op.request?.map m.called).toList

/-- Another value for a knob, if there is the knob. -/
def write (m : Machine α) (entry : Label × α) : Machine α :=
  match m.set entry.1.value entry.2 with
  | .ok m' => m'
  | .error _ => m

variable [Scalar α] [Angle α] [Shown α]

/-- The machine after an instruction. -/
def after (o : Options) (m : Machine α) (op : Opcode α) : Machine α :=
  match (m.step o op).result with
  | .ok m' => m'
  | .error _ => m

/-- The machine after instructions. -/
def play (o : Options) (m : Machine α) (ops : List (Opcode α)) : Machine α := ops.foldl (after o) m

/-- The calls that instructions make, each with the machine that those before it have left. -/
def calls (o : Options) (m : Machine α) : List (Opcode α) → List (Run.Call α)
  | [] => []
  | op :: rest => m.callOf op ++ calls o (m.after o op) rest

end Machine

namespace Run

/-- A call that succeeds stands in the history as one. -/
theorem Action.call_ok {β : Type} {r : Request} {ask : Screen → ω → Reply ω β} {s : State α ω} {b : β}
    (h : (call r ask s).result = .ok b) : (call r ask s).calls = [s.machine.called r] := by
  have hreply : (ask s.machine.screen s.world).result = .ok b := h
  simp only [call, hreply, Action.succeeded, Machine.called]

namespace Setup

variable (c : Setup α ω)

/-! ## Frames -/

/-- The knobs that are set at the start of a frame. -/
def knobsOf (k : Nat) : List (Label × α) :=
  match c.plan.timeline with
  | none => []
  | some timeline => (timeline.frames[k]?.getD .empty).entries

variable [Scalar α]

/-- The machine in which the instructions of a frame start. -/
def enter (k : Nat) (m : Machine α) : Machine α := ((c.knobsOf k).foldl Machine.write m).fresh

variable [Angle α] [Shown α]

/-- The machine that an animation has reached after a number of frames. -/
def reach (m : Machine α) : Nat → Machine α
  | 0 => m
  | k + 1 => (c.enter k (reach m k)).play c.options c.ops

/-- The calls that the instructions of a frame make. -/
def opCalls (m : Machine α) (k : Nat) : List (Call α) :=
  (c.enter k (c.reach m k)).calls c.options c.ops

/-- The calls of a frame: those of its instructions, and one for its file. -/
def frameCalls (directory : Path) (m : Machine α) (k : Nat) : List (Call α) :=
  c.opCalls m k ++ [(c.reach m (k + 1)).called (.save (c.framePath directory k))]

/-- The world that an animation has reached after a number of frames. -/
def worldAt (directory : Path) (m : Machine α) (w : ω) (k : Nat) : ω :=
  c.outside.hearAll w ((List.range k).flatMap (c.frameCalls directory m))

theorem worldAt_succ (directory : Path) (m : Machine α) (w : ω) (k : Nat) :
    c.worldAt directory m w (k + 1) =
      c.outside.hearAll (c.worldAt directory m w k) (c.frameCalls directory m k) := by
  rw [worldAt, List.range_succ, List.flatMap_append, Outside.hearAll_append, List.flatMap_singleton]
  rfl

/-- The paths that the instructions of a frame save. -/
def keptIn (directory : Path) (m : Machine α) (w : ω) (k : Nat) : List Path :=
  c.outside.kept (c.worldAt directory m w k) (c.opCalls m k)

/-! ## Parts of a run that succeed -/

omit [Scalar α] [Angle α] [Shown α] in
/-- Saving a picture takes one call, and the path that is answered is kept in mind. -/
theorem saveAs_ok {filename : Name} {s : State α ω} (h : (c.saveAs filename s).result = .ok ()) :
    (c.saveAs filename s).calls = s.machine.callOf (.save filename) ∧
      (c.saveAs filename s).state =
        s.hear c.outside s.machine (s.machine.callOf (.save filename)) := by
  cases hp : Path.ofValue filename with
  | error e =>
    rw [c.saveAs_of_path_error hp] at h
    cases h
  | ok path =>
    have hcall : s.machine.callOf (.save filename) = [s.machine.called (.save path)] := by
      simp only [Machine.callOf, Opcode.request?, hp, Except.toOption, Option.map_some,
        Option.toList_some]
    rw [c.saveAs_apply hp] at h ⊢
    rw [hcall]
    cases hr : (c.outside.save s.machine.screen path s.world).result with
    | error e =>
      simp only [hr] at h
      cases h
    | ok answer =>
      have hkept : c.outside.kept s.world [s.machine.called (.save path)] = [answer.getD path] := by
        simp only [Outside.kept, Outside.answered, Machine.called, hr, Except.toOption,
          Option.map_some, Option.toList_some, List.append_nil]
      refine ⟨by simp only [hr, Machine.called], ?_⟩
      simp only [hr, State.hear, hkept]
      rfl

omit [Scalar α] [Angle α] [Shown α] in
/-- Showing a picture takes one call, and no path is kept in mind. -/
theorem view_ok {s : State α ω} (h : (Action.call .view c.outside.view s).result = .ok ()) :
    (Action.call .view c.outside.view s).calls = s.machine.callOf .display ∧
      (Action.call .view c.outside.view s).state =
        s.hear c.outside s.machine (s.machine.callOf .display) := by
  refine ⟨Action.call_ok h, ?_⟩
  show State.mk s.machine s.saved (c.outside.view s.machine.screen s.world).world =
    State.mk s.machine (s.saved ++ []) (c.outside.view s.machine.screen s.world).world
  rw [List.append_nil]

/-- An instruction that succeeds makes its call and hears the answer. -/
theorem exec_ok {op : Opcode α} {s : State α ω} (h : (c.exec op s).result = .ok ()) :
    (c.exec op s).calls = s.machine.callOf op ∧
      (c.exec op s).state =
        s.hear c.outside (s.machine.after c.options op) (s.machine.callOf op) := by
  rcases c.exec_cases op with ⟨filename, rfl⟩ | rfl | ⟨hsave, hdisplay, he⟩
  · exact c.saveAs_ok h
  · exact c.view_ok h
  · -- all others make no call, and the machine is the one of their step
    have hcall : s.machine.callOf op = [] := by
      cases op with
      | save filename => exact absurd rfl hsave
      | display => exact absurd rfl hdisplay
      | _ => rfl
    rw [he] at h ⊢
    rw [hcall, State.hear_nil]
    simp only [Action.advance] at h ⊢
    cases hr : (s.machine.step c.options op).result with
    | error e =>
      rw [hr] at h
      cases h
    | ok m => exact ⟨rfl, by simp only [Machine.after, hr]⟩

/-- Instructions that succeed make their calls in order. -/
theorem runOps_ok {frame index : Nat} {ops : List (Opcode α)} {s : State α ω}
    (h : (c.runOps frame index ops s).result = .ok ()) :
    (c.runOps frame index ops s).calls = s.machine.calls c.options ops ∧
      (c.runOps frame index ops s).state =
        s.hear c.outside (s.machine.play c.options ops) (s.machine.calls c.options ops) := by
  induction ops generalizing index s with
  | nil =>
    refine ⟨rfl, ?_⟩
    rw [Machine.calls, State.hear_nil]
    rfl
  | cons op rest ih =>
    obtain ⟨u, hop, hrest, hstate, hcalls⟩ := Action.bind_ok h
    obtain ⟨-, hexec, hperform⟩ := c.perform_ok hop
    obtain ⟨hopCalls, hopState⟩ := c.exec_ok hexec
    rw [hperform] at hrest hstate hcalls
    obtain ⟨hrestCalls, hrestState⟩ := ih hrest
    have hmachine : (c.exec op s).state.machine = s.machine.after c.options op := by rw [hopState]; rfl
    rw [hmachine] at hrestCalls hrestState
    refine ⟨?_, ?_⟩
    · calc (c.runOps frame index (op :: rest) s).calls
          = (c.exec op s).calls ++ (c.runOps frame (index + 1) rest (c.exec op s).state).calls := hcalls
        _ = s.machine.calls c.options (op :: rest) := by rw [hopCalls, hrestCalls]; rfl
    · calc (c.runOps frame index (op :: rest) s).state
          = (c.runOps frame (index + 1) rest (c.exec op s).state).state := hstate
        _ = s.hear c.outside (s.machine.play c.options (op :: rest))
              (s.machine.calls c.options (op :: rest)) := by
            rw [hrestState, hopState, State.hear_hear]
            rfl

/-- The program runs from the world alone and an empty picture. -/
theorem runFrame_ok {frame : Nat} {s : State α ω} (h : (c.runFrame frame s).result = .ok ()) :
    (c.runFrame frame s).calls = s.machine.fresh.calls c.options c.ops ∧
      (c.runFrame frame s).state =
        s.hear c.outside (s.machine.fresh.play c.options c.ops)
          (s.machine.fresh.calls c.options c.ops) :=
  c.runOps_ok h

omit [Scalar α] [Angle α] [Shown α] in
/-- Knobs that can all be set are set one after the other. -/
theorem setKnobs_ok {entries : List (Label × α)} {s : State α ω}
    (h : (setKnobs entries s).result = .ok ()) :
    setKnobs entries s = ⟨.ok (), { s with machine := entries.foldl Machine.write s.machine }, [], []⟩ := by
  induction entries generalizing s with
  | nil => rfl
  | cons entry rest ih =>
    obtain ⟨name, value⟩ := entry
    cases hr : s.machine.set name.value value with
    | error e =>
      rw [setKnobs_cons_of_error hr] at h
      cases h
    | ok m =>
      rw [setKnobs_cons_of_ok hr] at h ⊢
      rw [ih h, List.foldl_cons, Machine.write]
      simp only [hr]

omit [Scalar α] [Angle α] in
/-- Knobs are reported without a call. -/
theorem showKnobs_ok {frame : Nat} {s : State α ω} (h : (c.showKnobs frame s).result = .ok ()) :
    (c.showKnobs frame s).calls = [] ∧ (c.showKnobs frame s).state = s := by
  unfold showKnobs at h ⊢
  split
  · next hshown =>
    rw [if_pos hshown] at h
    obtain ⟨table, -, h, hstate, hcalls⟩ := Action.bind_ok h
    obtain ⟨text, -, -, hstate', hcalls'⟩ := Action.bind_ok h
    rw [hstate, hcalls, hstate', hcalls']
    exact ⟨rfl, rfl⟩
  · exact ⟨rfl, rfl⟩

omit [Scalar α] [Angle α] in
/-- The knobs of a frame are set and reported, unless there is no timeline, or none for the frame. -/
theorem applyKnobs_cases (k : Nat) :
    (c.knobsOf k = [] ∧ c.applyKnobs k = pure ()) ∨
      (∃ timeline, c.plan.timeline = some timeline ∧ timeline.frames.length ≤ k ∧
        c.applyKnobs k = Action.lift (.error .arrayIndex)) ∨
      c.applyKnobs k = (setKnobs (c.knobsOf k) >>= fun _ => c.showKnobs k) := by
  unfold knobsOf applyKnobs
  cases c.plan.timeline with
  | none => exact .inl ⟨rfl, rfl⟩
  | some timeline =>
    dsimp only
    cases hframe : timeline.frames[k]? with
    | none =>
      refine .inr (.inl ⟨timeline, rfl, List.getElem?_eq_none_iff.mp hframe, ?_⟩)
      simp only [knobsAt, hframe]
      rfl
    | some knobs =>
      refine .inr (.inr ?_)
      simp only [knobsAt, hframe]
      rfl

omit [Scalar α] [Angle α] in
/-- The knobs of a frame are set without a call. -/
theorem applyKnobs_ok {frame : Nat} {s : State α ω} (h : (c.applyKnobs frame s).result = .ok ()) :
    (c.applyKnobs frame s).calls = [] ∧ (c.applyKnobs frame s).state =
      { s with machine := (c.knobsOf frame).foldl Machine.write s.machine } := by
  rcases c.applyKnobs_cases frame with ⟨hnone, hnothing⟩ | ⟨-, -, -, hmissing⟩ | hset
  · rw [hnone, hnothing]
    exact ⟨rfl, rfl⟩
  · rw [hmissing] at h
    cases h
  · rw [hset] at h ⊢
    obtain ⟨u, hknobs, hshow, hstate, hcalls⟩ := Action.bind_ok h
    obtain ⟨hshowCalls, hshowState⟩ := c.showKnobs_ok hshow
    rw [hstate, hcalls, hshowCalls, hshowState, setKnobs_ok hknobs]
    exact ⟨rfl, rfl⟩

omit [Scalar α] [Angle α] [Shown α] in
/-- The file of a frame takes one call, whose answer is not kept in mind. -/
theorem saveFrame_ok {directory : Path} {frame : Nat} {s : State α ω} {path : Path}
    (h : (c.saveFrame directory frame s).result = .ok path) :
    path = c.framePath directory frame ∧
      (c.saveFrame directory frame s).calls =
        [s.machine.called (.save (c.framePath directory frame))] ∧
      (c.saveFrame directory frame s).state = { s with
        world := c.outside.hear s.world (s.machine.called (.save (c.framePath directory frame))) } := by
  cases hwritable : c.basename.isWritable with
  | false =>
    simp only [saveFrame, hwritable] at h
    cases h
  | true =>
    cases hwidth : Animation.isWidth c.digits with
    | false =>
      simp only [saveFrame, hwritable, hwidth] at h
      cases h
    | true =>
      -- both checks are passed, and the rest is one call and one note
      have hcall : c.saveFrame directory frame s =
          (c.save (c.framePath directory frame) s).andThen fun _ =>
            (Action.note (.frameWritten (frame + 1) c.frameCount (c.framePath directory frame))) >>=
              fun _ => pure (c.framePath directory frame) := by
        simp only [saveFrame, hwritable, hwidth]
        rfl
      rw [hcall] at h ⊢
      cases hr : (c.outside.save s.machine.screen (c.framePath directory frame) s.world).result with
      | error e =>
        simp only [Setup.save, Action.call, hr, Outcome.andThen] at h
        cases h
      | ok answer =>
        simp only [Setup.save, Action.call, hr, Outcome.andThen] at h ⊢
        cases h
        exact ⟨rfl, rfl, rfl⟩

/-- A frame that succeeds makes the calls of its instructions and the one for its file. -/
theorem animateFrame_ok {directory path : Path} {k : Nat} {m : Machine α} {s : State α ω}
    (hm : s.machine = c.reach m k) (h : (c.animateFrame directory k s).result = .ok path) :
    path = c.framePath directory k ∧
      (c.animateFrame directory k s).calls = c.frameCalls directory m k ∧
      (c.animateFrame directory k s).state =
        ⟨c.reach m (k + 1), s.saved ++ c.outside.kept s.world (c.opCalls m k),
          c.outside.hearAll s.world (c.frameCalls directory m k)⟩ := by
  unfold animateFrame at h ⊢
  obtain ⟨u, hknobs, h, hstate, hcalls⟩ := Action.bind_ok h
  obtain ⟨v, hrun, hsave, hstate', hcalls'⟩ := Action.bind_ok h
  obtain ⟨hknobsCalls, hknobsState⟩ := c.applyKnobs_ok hknobs
  obtain ⟨hrunCalls, hrunState⟩ := c.runFrame_ok hrun
  obtain ⟨hpath, hsaveCalls, hsaveState⟩ := c.saveFrame_ok hsave
  have hentered : (c.applyKnobs k s).state.machine.fresh = c.enter k (c.reach m k) := by
    rw [hknobsState, ← hm]
    rfl
  rw [hentered] at hrunCalls hrunState
  rw [hrunState] at hsaveCalls hsaveState
  rw [hstate, hcalls, hstate', hcalls', hknobsCalls, hrunCalls, hrunState, hsaveCalls, hsaveState,
    hknobsState]
  refine ⟨hpath, rfl, ?_⟩
  simp only [State.hear, frameCalls, Outside.hearAll_append]
  rfl

/-- Frames that succeed make their calls one after the other. -/
theorem runFrames_ok {directory : Path} {m : Machine α} {w : ω} {first count : Nat} {s : State α ω}
    {paths : List Path} (hm : s.machine = c.reach m first)
    (hw : s.world = c.worldAt directory m w first)
    (h : (c.runFrames directory (List.range' first count) s).result = .ok paths) :
    paths = (List.range' first count).map (c.framePath directory) ∧
      (c.runFrames directory (List.range' first count) s).calls =
        (List.range' first count).flatMap (c.frameCalls directory m) ∧
      (c.runFrames directory (List.range' first count) s).state =
        ⟨c.reach m (first + count),
          s.saved ++ (List.range' first count).flatMap (c.keptIn directory m w),
          c.worldAt directory m w (first + count)⟩ := by
  induction count generalizing first s paths with
  | zero =>
    cases h
    refine ⟨rfl, rfl, ?_⟩
    rw [Nat.add_zero, ← hm, ← hw]
    show s = State.mk s.machine (s.saved ++ []) s.world
    rw [List.append_nil]
  | succ count ih =>
    rw [List.range'_succ] at h ⊢
    obtain ⟨path, hframe, h, hstate, hcalls⟩ := Action.bind_ok h
    obtain ⟨rest, hrest, h, hstate', hcalls'⟩ := Action.bind_ok h
    cases h
    obtain ⟨rfl, hframeCalls, hframeState⟩ := c.animateFrame_ok hm hframe
    have hreached : (c.animateFrame directory first s).state.machine = c.reach m (first + 1) := by
      rw [hframeState]
    have hworld : (c.animateFrame directory first s).state.world =
        c.worldAt directory m w (first + 1) := by
      rw [hframeState, worldAt_succ, hw]
    -- the rest starts with the machine and the world that this frame has reached
    obtain ⟨rfl, hrestCalls, hrestState⟩ := ih hreached hworld hrest
    refine ⟨rfl, ?_, ?_⟩
    · rw [List.flatMap_cons, ← hframeCalls, ← hrestCalls]
      refine hcalls.trans ?_
      rw [hcalls']
      exact congrArg _ (List.append_nil _)
    · refine hstate.trans ?_
      rw [hstate']
      show (c.runFrames directory (List.range' (first + 1) count)
        (c.animateFrame directory first s).state).state = _
      rw [hrestState, hframeState, List.flatMap_cons, keptIn, hw, List.append_assoc,
        show first + 1 + count = first + (count + 1) by omega]

/-! ## Whole runs -/

/-- A still picture makes the calls of its instructions. -/
theorem still_ok {s : State α ω} {report : Report} (h : (c.still s).result = .ok report) :
    report = c.report [] (c.still s).state.saved none ∧
      (c.still s).calls = s.machine.fresh.calls c.options c.ops ∧
      (c.still s).state = s.hear c.outside (s.machine.fresh.play c.options c.ops)
        (s.machine.fresh.calls c.options c.ops) := by
  unfold still at h ⊢
  obtain ⟨u, hrun, h, hstate, hcalls⟩ := Action.bind_ok h
  obtain ⟨hrunCalls, hrunState⟩ := c.runFrame_ok hrun
  cases h
  rw [hstate, hcalls, hrunCalls]
  exact ⟨rfl, List.append_nil _, hrunState⟩

omit [Scalar α] [Angle α] [Shown α] in
/-- The directory of an animation is made without a call. -/
theorem openDirectory_ok {s : State α ω} {directory : Path}
    (h : (c.openDirectory s).result = .ok directory) :
    ∃ path w records, Path.ofValue c.options.outputDir = .ok path ∧
      c.outside.openDirectory path s.world = ⟨.ok directory, w, records⟩ ∧
      (c.openDirectory s).calls = [] ∧ (c.openDirectory s).state = { s with world := w } := by
  unfold openDirectory at h ⊢
  obtain ⟨path, hpath, h, hstate, hcalls⟩ := Action.bind_ok h
  obtain ⟨made, hopen, h, hopenState, hopenCalls⟩ := Action.bind_ok h
  obtain ⟨digits, -, h, hdigitsState, hdigitsCalls⟩ := Action.bind_ok h
  cases h
  change (c.outside.openDirectory path s.world).result = .ok directory at hopen
  have hreply : c.outside.openDirectory path s.world =
      ⟨.ok directory, (c.outside.openDirectory path s.world).world,
        (c.outside.openDirectory path s.world).records⟩ := by rw [← hopen]
  refine ⟨path, _, _, hpath, hreply, ?_, ?_⟩
  · rw [hcalls, hopenCalls, hdigitsCalls]
    rfl
  · rw [hstate, hopenState, hdigitsState]
    rfl

/-- An animation makes the calls of its frames, and then one for the animation. -/
theorem animate_ok {s : State α ω} {report : Report} (h : (c.animate s).result = .ok report) :
    ∃ path directory w records,
      Path.ofValue c.options.outputDir = .ok path ∧
      c.outside.openDirectory path s.world = ⟨.ok directory, w, records⟩ ∧
      let n := c.frameCount.toNat
      let files := (List.range n).map (c.framePath directory)
      (c.animate s).calls =
          (List.range n).flatMap (c.frameCalls directory s.machine) ++
            [(c.reach s.machine n).called (.assemble (c.order directory files))] ∧
        (c.animate s).state.machine = c.reach s.machine n ∧
        report.framePaths = files ∧
        report.savedPaths = s.saved ++ (List.range n).flatMap (c.keptIn directory s.machine w) ∧
        (c.outside.assemble (c.order directory files) (c.worldAt directory s.machine w n)).result =
          .ok report.animation ∧
        report.frameCount = c.frameCount ∧ report.basename = c.basename := by
  unfold animate at h ⊢
  obtain ⟨directory, hopen, h, hstate, hcalls⟩ := Action.bind_ok h
  obtain ⟨path, w, records, hpath, hreply, hopenCalls, hopenState⟩ := c.openDirectory_ok hopen
  obtain ⟨files, hframes, h, hstate', hcalls'⟩ := Action.bind_ok h
  rw [List.range_eq_range'] at hframes
  -- the frames start with the machine of the run, in the world that has the directory
  have hmachine : (c.openDirectory s).state.machine = c.reach s.machine 0 := by rw [hopenState]; rfl
  have hworld : (c.openDirectory s).state.world = c.worldAt directory s.machine w 0 := by
    rw [hopenState]
    rfl
  obtain ⟨rfl, hframesCalls, hframesState⟩ := c.runFrames_ok hmachine hworld hframes
  rw [← List.range_eq_range', Nat.zero_add] at hframesState
  rw [← List.range_eq_range'] at hframesCalls h hstate' hcalls'
  obtain ⟨saved, hsaved, h, hstate'', hcalls''⟩ := Action.bind_ok h
  obtain ⟨animation, hassemble, h, hstate''', hcalls'''⟩ := Action.bind_ok h
  cases hsaved
  cases h
  refine ⟨path, directory, w, records, hpath, hreply, ?_, ?_, rfl, ?_, ?_, rfl, rfl⟩
  · rw [hcalls, hcalls', hcalls'', hcalls''', hopenCalls, hframesCalls]
    show [] ++ (_ ++ ([] ++ (_ ++ []))) = _
    rw [List.append_nil, List.nil_append, List.nil_append]
    refine congrArg _ ((Action.call_ok hassemble).trans ?_)
    rw [hframesState]
    rfl
  · rw [hstate, hstate', hstate'', hstate''', hframesState]
    rfl
  · show (c.runFrames directory (List.range c.frameCount.toNat) (c.openDirectory s).state).state.saved = _
    rw [hframesState, hopenState]
  · rw [hframesState] at hassemble
    exact hassemble

/-- **The history of a successful run.** In an animation every frame in turn makes the calls of its
    instructions and one for its file, and after the last frame the files, and nothing else, are ordered
    to be put together; the report lists the files and the pictures that the instructions saved. A still
    picture makes the calls of its instructions, without knobs, files or an assembly. -/
theorem run_history {symbols : Symbols α} {screen : Screen} {w : ω} {report : Report}
    (h : (c.run (.initial symbols screen w)).result = .ok report) :
    report.frameCount = c.frameCount ∧ report.basename = c.basename ∧
      (1 < c.frameCount →
        ∃ path directory w₀ records,
          Path.ofValue c.options.outputDir = .ok path ∧
          c.outside.openDirectory path w = ⟨.ok directory, w₀, records⟩ ∧
          let m : Machine α := ⟨.world, symbols, screen⟩
          let n := c.frameCount.toNat
          let files := (List.range n).map (c.framePath directory)
          (c.run (.initial symbols screen w)).calls =
              (List.range n).flatMap (c.frameCalls directory m) ++
                [(c.reach m n).called (.assemble (c.order directory files))] ∧
            (c.run (.initial symbols screen w)).state.machine = c.reach m n ∧
            report.framePaths = files ∧
            report.savedPaths = (List.range n).flatMap (c.keptIn directory m w₀) ∧
            (c.outside.assemble (c.order directory files) (c.worldAt directory m w₀ n)).result =
              .ok report.animation) ∧
      (c.frameCount ≤ 1 →
        let m : Machine α := Machine.fresh ⟨.world, symbols, screen⟩
        (c.run (.initial symbols screen w)).calls = m.calls c.options c.ops ∧
          (c.run (.initial symbols screen w)).state.machine = m.play c.options c.ops ∧
          report.framePaths = [] ∧
          report.savedPaths = c.outside.kept w (m.calls c.options c.ops) ∧
          report.animation = none) := by
  by_cases hcount : 1 < c.frameCount
  · have hrun : c.run = c.animate := by
      unfold run
      exact if_pos (decide_eq_true hcount)
    rw [hrun] at h ⊢
    obtain ⟨path, directory, w₀, records, hpath, hopen, hcalls, hmachine, hframes, hsaved, hanimation,
      hnumber, hname⟩ := c.animate_ok h
    refine ⟨hnumber, hname, fun _ => ?_, fun hle => absurd hle (Int.not_le.mpr hcount)⟩
    exact ⟨path, directory, w₀, records, hpath, hopen, hcalls, hmachine, hframes, hsaved, hanimation⟩
  · have hrun : c.run = c.still := by
      unfold run
      exact if_neg fun hanimated => hcount (of_decide_eq_true hanimated)
    rw [hrun] at h ⊢
    obtain ⟨rfl, hcalls, hstate⟩ := c.still_ok h
    refine ⟨rfl, rfl, fun hlt => absurd hlt hcount, fun _ => ⟨hcalls, ?_, rfl, ?_, rfl⟩⟩
    · rw [hstate]
      rfl
    · show (c.still _).state.saved = _
      rw [hstate]
      rfl

end Setup

/-- Those who do what they are asked for and answer nothing. -/
def Outside.quiet : Outside Unit where
  openDirectory path w := ⟨.ok path, w, []⟩
  save _ _ w := ⟨.ok none, w, []⟩
  view _ w := ⟨.ok (), w, []⟩
  assemble _ w := ⟨.ok none, w, []⟩

/-- An animation of two frames and one knob. -/
def Setup.spin : Setup Float Unit where
  ops := [.push, .save (.str "a.png"), .display]
  options := ⟨1, 1, .white, .black, 20, .str "anim", .str "default", 3, "png", .gif, 50⟩
  plan := ⟨⟨2, .str "spin"⟩, some ⟨[⟨[(.text "k", 0.0)]⟩, ⟨[(.text "k", 1.0)]⟩]⟩⟩
  traced := false
  knobsShown := false
  outside := .quiet

/-- The state before the animation of two frames. -/
def State.spin : State Float Unit :=
  .initial ⟨⟨[(.text "k", .value)]⟩, ⟨[(.text "k", 0.0)]⟩, .empty⟩ (.blank 1 1 .white) ()

theorem run_history_spin : ∃ report, (Setup.spin.run .spin).result = .ok report ∧
    report.frameCount = 2 ∧ ∃ directory w, report.savedPaths =
      (List.range 2).flatMap (Setup.spin.keptIn directory State.spin.machine w) := by
  have hrun : (Setup.spin.run .spin).result = .ok ⟨2, .str "spin",
      [Setup.spin.framePath (.ofString "anim") 0, Setup.spin.framePath (.ofString "anim") 1],
      [.ofString "a.png", .ofString "a.png"], none⟩ := rfl
  obtain ⟨-, -, hanimation, -⟩ := Setup.spin.run_history hrun
  obtain ⟨-, directory, w, -, -, -, -, -, -, hsaved, -⟩ := hanimation (by decide)
  exact ⟨_, hrun, rfl, directory, w, hsaved⟩

end Run

end Wireframe
