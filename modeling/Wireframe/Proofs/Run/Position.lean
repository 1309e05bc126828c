import Wireframe.Proofs.Run.History
import Wireframe.Proofs.Timeline

/-!
# `Wireframe.Proofs.Run.Position` — a run by frame and instruction

A run gets to the instructions of one frame after the other: `lead` is what precedes the instructions of
a frame, and `upTo` a run up to an instruction of a frame. Both are beginnings of the run
(`run_startsWith`), and where they succeed the calls and the machine there can be told from the program
(`lead_ok`, `upTo_ok`).

## Contents
- `knobsOf_planned`: the knobs of a frame, from the plan.
- `passes`, `lead`, `upTo`, `run_startsWith`, `upTo_earlier`: positions of a run.
- `start`, `machineAt`: the machine at a position, told from the program; from one position to the next.
- `position_induction`: what holds at the beginning and from each position to the next.
- `lead_ok`, `upTo_ok`: the run at a position that it gets to.
-/

namespace Wireframe.Run

open Document

variable {α ω : Type}

namespace Setup

variable (c : Setup α ω)

/-- How often the program runs: once for every frame of an animation, and once for a still picture. -/
def passes : Nat := if c.plan.settings.animated then c.frameCount.toNat else 1

/-- Only an animation has a second frame. -/
theorem animated_of_passes {k : Nat} (hk : k + 1 < c.passes) : c.plan.settings.animated = true := by
  unfold passes at hk
  cases hanimated : c.plan.settings.animated with
  | true => rfl
  | false =>
    rw [hanimated] at hk
    simp at hk

/-- The timeline of a plan has a frame for each of the animation. -/
theorem timeline_planned [Scalar α] {default : Name} (hplan : (Wireframe.plan default c.ops).2 = .ok c.plan)
    {timeline : Timeline α} (h : c.plan.timeline = some timeline) :
    timeline.frames.length = c.frameCount.toNat ∧ Timeline.Covered (varies c.ops) timeline.frames := by
  have htimeline := plan_timeline hplan
  unfold timelineFor at htimeline
  rw [h] at htimeline
  split at htimeline
  · obtain ⟨t, ht, heq⟩ := map_ok htimeline
    cases heq
    exact Timeline.build_ok ht
  · cases htimeline

/-- The knobs of a frame are those that the program sets in motion there. -/
theorem knobsOf_planned [Scalar α] {default : Name} (hplan : (Wireframe.plan default c.ops).2 = .ok c.plan)
    {k : Nat} {entry : Label × α} (h : entry ∈ c.knobsOf k) :
    ∃ v ∈ varies c.ops, v.target.label? = some entry.1 ∧ v.first ≤ k ∧ k ≤ v.last := by
  unfold knobsOf at h
  split at h
  · cases h
  · next timeline htimeline =>
    cases hframe : timeline.frames[k]? with
    | none =>
      rw [hframe] at h
      cases h
    | some f =>
      rw [hframe, Option.getD_some] at h
      exact (c.timeline_planned hplan htimeline).2 k f hframe entry.1 (List.mem_map_of_mem h)

variable [Scalar α] [Angle α] [Shown α]

/-! ## Positions of a run -/

/-- What precedes the instructions of a frame: in an animation the directory is made, the frames before it
run, and its knobs are set. -/
def lead (k : Nat) : Action α ω Unit :=
  if c.plan.settings.animated then do
    let directory ← c.openDirectory
    let _ ← c.runFrames directory (List.range k)
    c.applyKnobs k
  else pure ()

/-- A run up to an instruction of a frame. -/
def upTo (k i : Nat) : Action α ω Unit := do
  c.lead k
  c.before k i

theorem runFrames_append (directory : Path) (xs ys : List Nat) :
    c.runFrames directory (xs ++ ys) = (do
      let ps ← c.runFrames directory xs
      let qs ← c.runFrames directory ys
      return ps ++ qs) := by
  induction xs with
  | nil => simp only [List.nil_append, runFrames, pure_bind, bind_pure]
  | cons x xs ih => simp only [List.cons_append, runFrames, ih, bind_assoc, pure_bind]

omit c [Scalar α] [Angle α] [Shown α] in
theorem range_split {k n : Nat} (h : k < n) :
    List.range n = List.range k ++ k :: List.range' (k + 1) (n - k - 1) := by
  have hn : n = k + (n - k - 1 + 1) := by omega
  have happend := @List.range'_append_1 0 k (n - k - 1 + 1)
  rw [Nat.zero_add, ← hn, List.range'_succ] at happend
  rw [List.range_eq_range', List.range_eq_range', happend]

/-- **A run goes through every frame.** It begins with what precedes the instructions of the frame, and
    with the instructions. -/
theorem run_startsWith {k : Nat} (hk : k < c.passes) :
    c.run.StartsWith (c.lead k >>= fun _ => c.runFrame k) := by
  unfold run lead
  unfold passes at hk
  by_cases hanimated : c.plan.settings.animated = true
  · simp only [hanimated, if_true] at hk ⊢
    simp only [animate, range_split hk, runFrames_append, runFrames, animateFrame, bind_assoc]
    exact .bind _ fun _ => .bind _ fun _ => .bind _ fun _ => Action.startsWith_left _ _
  · simp only [hanimated, if_false, Bool.false_eq_true] at hk ⊢
    obtain rfl : k = 0 := by omega
    simp only [pure_bind]
    exact Action.startsWith_left _ _

/-- What precedes a frame begins with every frame before it. -/
theorem lead_startsWith {j k : Nat} (hjk : j < k) (hk : k < c.passes) :
    (c.lead k).StartsWith (c.lead j >>= fun _ => c.runFrame j) := by
  unfold lead
  unfold passes at hk
  by_cases hanimated : c.plan.settings.animated = true
  · simp only [hanimated, if_true]
    simp only [range_split hjk, runFrames_append, runFrames, animateFrame, bind_assoc]
    exact .bind _ fun _ => .bind _ fun _ => .bind _ fun _ => Action.startsWith_left _ _
  · rw [if_neg hanimated] at hk
    omega

/-- A position that a run gets to is a position of its frame. -/
theorem upTo_reached {k i : Nat} {s : State α ω} (h : (c.upTo k i s).result = .ok ()) :
    (c.lead k s).result = .ok () ∧ (c.before k i (c.lead k s).state).result = .ok () ∧
      (c.upTo k i s).state = (c.before k i (c.lead k s).state).state := by
  obtain ⟨u, hlead, hbefore, hstate, -⟩ := Action.bind_ok h
  exact ⟨hlead, hbefore, hstate⟩

/-- A run that gets to a position has got to every position before it. -/
theorem upTo_earlier {j k i i' : Nat} {s : State α ω} (hk : k < c.passes)
    (h : (c.upTo k i s).result = .ok ())
    (hearlier : (j < k ∧ i' ≤ c.ops.length) ∨ (j = k ∧ i' ≤ i)) :
    (c.upTo j i' s).result = .ok () := by
  obtain ⟨hlead, hbefore, -⟩ := c.upTo_reached h
  rcases hearlier with ⟨hjk, hi⟩ | ⟨rfl, hi⟩
  · obtain ⟨u, hframe⟩ := (c.lead_startsWith hjk hk).ok hlead
    obtain ⟨v, hled, hrun, -⟩ := Action.bind_ok hframe
    rw [← before_length] at hrun
    have hreached : (c.before j i' (c.lead j s).state).result = .ok () := c.before_ok_of_le hrun hi
    rw [upTo, Action.bind_apply, Outcome.andThen_of_ok hled]
    exact hreached
  · have hreached := c.before_ok_of_le hbefore hi
    rw [upTo, Action.bind_apply, Outcome.andThen_of_ok hlead]
    exact hreached

/-! ## The machine at a position -/

/-- The machine in which the instructions of a frame start. -/
def start (m : Machine α) (k : Nat) : Machine α :=
  if c.plan.settings.animated then c.enter k (c.reach m k) else m.fresh

/-- The machine before an instruction of a frame. -/
def machineAt (m : Machine α) (k i : Nat) : Machine α := (c.start m k).play c.options (c.ops.take i)

theorem machineAt_succ {i : Nat} {op : Opcode α} (hop : c.ops[i]? = some op) (m : Machine α) (k : Nat) :
    c.machineAt m k (i + 1) = (c.machineAt m k i).after c.options op := by
  rw [machineAt, machineAt, List.take_add_one, hop, Option.toList_some, Machine.play, List.foldl_append]
  rfl

/-- A frame starts with the knobs set in the machine that the frame before it has left. -/
theorem start_succ (hanimated : c.plan.settings.animated = true) (m : Machine α) (k : Nat) :
    c.start m (k + 1) = c.enter (k + 1) (c.machineAt m k c.ops.length) := by
  simp only [start, machineAt, hanimated, if_true, List.take_length]
  rfl

/-- **Induction on positions.** What holds where the first frame starts, is kept by every instruction, and
    carries over from the end of a frame to the start of the next one, holds at every position. -/
theorem position_induction {P : Nat → Nat → Machine α → Prop} (m : Machine α)
    (hfirst : P 0 0 (c.start m 0))
    (hstep : ∀ k i op, k < c.passes → c.ops[i]? = some op → P k i (c.machineAt m k i) →
      P k (i + 1) ((c.machineAt m k i).after c.options op))
    (hnext : ∀ k, k + 1 < c.passes → P k c.ops.length (c.machineAt m k c.ops.length) →
      P (k + 1) 0 (c.enter (k + 1) (c.machineAt m k c.ops.length)))
    {k i : Nat} (hk : k < c.passes) (hi : i ≤ c.ops.length) : P k i (c.machineAt m k i) := by
  have hframe : ∀ k, k < c.passes → P k 0 (c.start m k) →
      ∀ i, i ≤ c.ops.length → P k i (c.machineAt m k i) := by
    intro k hk hstart i hi
    induction i with
    | zero => exact hstart
    | succ i ih =>
      have hop : c.ops[i]? = some c.ops[i] := List.getElem?_eq_getElem hi
      rw [c.machineAt_succ hop]
      exact hstep k i _ hk hop (ih (Nat.le_of_lt hi))
  induction k generalizing i with
  | zero => exact hframe 0 hk hfirst i hi
  | succ k ih =>
    apply hframe (k + 1) hk _ i hi
    rw [c.start_succ (c.animated_of_passes hk)]
    exact hnext k hk (ih (by omega) (Nat.le_refl _))

/-! ## The run at a position that it gets to -/

/-- Frames that are behind a run have made their calls, and the knobs of the next one are set. -/
theorem lead_ok {directory : Path} {k : Nat} {s : State α ω} (hk : k < c.passes)
    (hopen : c.plan.settings.animated = true → (c.openDirectory s).result = .ok directory)
    (h : (c.lead k s).result = .ok ()) :
    (c.lead k s).calls = (List.range k).flatMap (c.frameCalls directory s.machine) ∧
      (c.lead k s).state.machine.fresh = c.start s.machine k := by
  unfold lead at h ⊢
  unfold passes at hk
  unfold start
  by_cases hanimated : c.plan.settings.animated = true
  · simp only [hanimated, if_true] at h ⊢
    obtain ⟨d, hd, h, hstate, hcalls⟩ := Action.bind_ok h
    obtain ⟨paths, hframes, hknobs, hstate', hcalls'⟩ := Action.bind_ok h
    obtain rfl : d = directory := by
      have hopened := hopen hanimated
      rw [hd] at hopened
      exact Except.ok.inj hopened
    obtain ⟨-, w, -, -, -, hopenCalls, hopenState⟩ := c.openDirectory_ok hd
    have hmachine : (c.openDirectory s).state.machine = c.reach s.machine 0 := by rw [hopenState]; rfl
    have hworld : (c.openDirectory s).state.world = c.worldAt d s.machine w 0 := by
      rw [hopenState]
      rfl
    rw [List.range_eq_range'] at hframes
    obtain ⟨-, hframesCalls, hframesState⟩ := c.runFrames_ok hmachine hworld hframes
    rw [← List.range_eq_range', Nat.zero_add] at hframesState
    rw [← List.range_eq_range'] at hframesCalls
    obtain ⟨hknobsCalls, hknobsState⟩ := c.applyKnobs_ok hknobs
    rw [hcalls, hcalls', hstate, hstate', hopenCalls, hframesCalls, hknobsCalls, hknobsState,
      hframesState]
    exact ⟨List.append_nil _, rfl⟩
  · simp only [hanimated, if_false, Bool.false_eq_true] at hk h ⊢
    obtain rfl : k = 0 := by omega
    exact ⟨rfl, rfl⟩

/-- The directory of an animation that gets to a frame is made. -/
theorem lead_directory {k : Nat} {s : State α ω} (h : (c.lead k s).result = .ok ()) :
    ∃ directory, c.plan.settings.animated = true → (c.openDirectory s).result = .ok directory := by
  unfold lead at h
  by_cases hanimated : c.plan.settings.animated = true
  · rw [if_pos hanimated] at h
    obtain ⟨directory, hopen, -⟩ := Action.bind_ok h
    exact ⟨directory, fun _ => hopen⟩
  · exact ⟨.here, fun h => absurd h hanimated⟩

/-- **A run at a position.** The machine there is the one that is told from the program. -/
theorem upTo_ok {k i : Nat} {s : State α ω} (hk : k < c.passes)
    (h : (c.upTo k i s).result = .ok ()) : (c.upTo k i s).state.machine = c.machineAt s.machine k i := by
  obtain ⟨hlead, hbefore, hstate⟩ := c.upTo_reached h
  obtain ⟨directory, hopen⟩ := c.lead_directory hlead
  obtain ⟨-, hstart⟩ := c.lead_ok hk hopen hlead
  rw [before_apply] at hbefore hstate
  rw [hstate, (c.runOps_ok hbefore).2, machineAt, ← hstart]
  rfl

end Setup

end Wireframe.Run
