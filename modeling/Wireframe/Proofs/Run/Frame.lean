import Wireframe.Proofs.Run.Parts

/-!
# `Wireframe.Proofs.Run.Frame` — the instructions of a frame by position

A frame empties the picture and runs its instructions in order. `before` is the part of a frame up to a
position; each position adds one instruction to it (`before_succ`), and the whole frame is the part up
to the end (`before_length`). A frame that fails comes to an end at one position: either the instruction
there fails (`StopsAt`), or it cannot be written and does not get to run (`BarsAt`).

## Contents
- `before`, `before_succ`, `before_ok_of_le`: a frame up to a position.
- `StopsAt.runFrame`, `BarsAt.runFrame`: the two ends of a frame that fails.
-/

namespace Wireframe.Run

open Document

variable {α ω : Type} [Scalar α]

/-- The state in which a frame starts. -/
def State.fresh (s : State α ω) : State α ω := { s with machine := s.machine.fresh }

namespace Setup

variable [Angle α] [Shown α] (c : Setup α ω)

/-! ## A frame up to a position -/

/-- The part of a frame before an instruction. -/
def before (frame i : Nat) : Action α ω Unit := do
  Action.change fun m => .ok m.fresh
  c.runOps frame 0 (c.ops.take i)

theorem before_apply (frame i : Nat) (s : State α ω) :
    c.before frame i s = c.runOps frame 0 (c.ops.take i) s.fresh := rfl

theorem before_zero (frame : Nat) (s : State α ω) :
    c.before frame 0 s = ⟨.ok (), s.fresh, [], []⟩ := rfl

theorem before_length (frame : Nat) (s : State α ω) :
    c.before frame c.ops.length s = c.runFrame frame s := by
  rw [before_apply, List.take_length]
  rfl

/-- One instruction alone. -/
theorem runOps_singleton (frame index : Nat) (op : Opcode α) (s : State α ω) :
    c.runOps frame index [op] s = c.perform frame index op s := by
  rw [runOps_cons]
  cases hr : c.perform frame index op s with
  | mk result state calls notes =>
    cases result with
    | error e => rfl
    | ok u =>
      show Outcome.mk (.ok ()) state (calls ++ []) (notes ++ []) = _
      rw [List.append_nil, List.append_nil]

/-- **One more instruction.** The part of a frame before position `i + 1` is the part before `i`,
    followed by the instruction there. -/
theorem before_succ {i : Nat} {op : Opcode α} (hop : c.ops[i]? = some op) (frame : Nat)
    (s : State α ω) :
    c.before frame (i + 1) s = (c.before frame i s).andThen fun _ => c.perform frame i op := by
  have hi : i < c.ops.length := (List.getElem?_eq_some_iff.mp hop).1
  have htake : c.ops.take (i + 1) = c.ops.take i ++ [op] := by
    rw [List.take_add_one, hop]
    rfl
  have hindex : 0 + (c.ops.take i).length = i := by
    rw [List.length_take]
    omega
  have hone : (fun _ : Unit => c.runOps frame i [op]) = fun _ => c.perform frame i op := by
    funext _ t
    exact c.runOps_singleton frame i op t
  rw [before_apply, before_apply, htake, runOps_append, hindex, hone]

/-- A position at or behind the last instruction is the end of the frame. -/
theorem before_of_length_le {i : Nat} (hi : c.ops.length ≤ i) (frame : Nat) (s : State α ω) :
    c.before frame i s = c.runFrame frame s := by
  rw [← before_length, before_apply, before_apply, List.take_of_length_le hi, List.take_length]

/-- What follows a position of a frame. -/
theorem runFrame_eq (frame i : Nat) (s : State α ω) :
    c.runFrame frame s =
      (c.before frame i s).andThen fun _ =>
        c.runOps frame (0 + (c.ops.take i).length) (c.ops.drop i) := by
  rw [before_apply, ← runOps_append, List.take_append_drop]
  rfl

/-- A frame that gets to a position got to all positions before it. -/
theorem before_ok_of_succ {frame i : Nat} {s : State α ω}
    (h : (c.before frame (i + 1) s).result = .ok ()) : (c.before frame i s).result = .ok () := by
  cases hop : c.ops[i]? with
  | none =>
    have hi : c.ops.length ≤ i := List.getElem?_eq_none_iff.mp hop
    rw [before_of_length_le c (by omega)] at h
    rwa [before_of_length_le c hi]
  | some op =>
    rw [before_succ c hop] at h
    cases hr : (c.before frame i s).result with
    | ok u => rfl
    | error e =>
      rw [Outcome.andThen_of_error hr] at h
      cases h

theorem before_ok_of_le {frame i j : Nat} {s : State α ω}
    (h : (c.before frame i s).result = .ok ()) (hij : j ≤ i) :
    (c.before frame j s).result = .ok () := by
  induction i with
  | zero =>
    rw [Nat.le_zero.mp hij]
    exact h
  | succ i ih =>
    rcases Nat.lt_or_eq_of_le hij with hlt | rfl
    · exact ih (c.before_ok_of_succ h) (by omega)
    · exact h

/-- The instruction at a position that a frame gets beyond succeeds. -/
theorem before_succ_ok {frame i : Nat} {op : Opcode α} {s : State α ω} (hop : c.ops[i]? = some op)
    (h : (c.before frame (i + 1) s).result = .ok ()) :
    (c.exec op (c.before frame i s).state).result = .ok () ∧
      (c.before frame (i + 1) s).state = (c.exec op (c.before frame i s).state).state := by
  have hi := c.before_ok_of_succ h
  rw [before_succ c hop, Outcome.andThen_of_ok hi] at h ⊢
  obtain ⟨-, hexec, hperform⟩ := c.perform_ok h
  refine ⟨hexec, ?_⟩
  show (c.perform frame i op (c.before frame i s).state).state = _
  rw [hperform]

/-! ## The end of a frame that fails -/

/-- A frame gets to an instruction, which runs and fails. -/
structure StopsAt (frame i : Nat) (op : Opcode α) (s : State α ω) (e : Error) : Prop where
  instruction : c.ops[i]? = some op
  before : (c.before frame i s).result = .ok ()
  admitted : c.Admits op
  failed : (c.exec op (c.before frame i s).state).result = .error e

/-- A frame gets to an instruction that is to be traced and cannot be written. -/
structure BarsAt (frame i : Nat) (op : Opcode α) (s : State α ω) (e : Error) : Prop where
  instruction : c.ops[i]? = some op
  before : (c.before frame i s).result = .ok ()
  traced : c.traced = true
  unwritten : op.describe = .error e

variable {c}

/-- Nothing runs behind an instruction with which a frame ends. -/
theorem runFrame_of_perform_error {frame i : Nat} {op : Opcode α} {s : State α ω} {e : Error}
    (hop : c.ops[i]? = some op) (hbefore : (c.before frame i s).result = .ok ())
    (h : (c.perform frame i op (c.before frame i s).state).result = .error e) :
    c.runFrame frame s =
      let r := c.perform frame i op (c.before frame i s).state
      ⟨.error e, r.state, (c.before frame i s).calls ++ r.calls, (c.before frame i s).notes ++ r.notes⟩ := by
  have hsucc := c.before_succ hop frame s
  rw [Outcome.andThen_of_ok hbefore, h] at hsucc
  have hresult : (c.before frame (i + 1) s).result = .error e := by rw [hsucc]
  rw [c.runFrame_eq frame (i + 1) s, Outcome.andThen_of_error hresult, hsucc]

/-- **A failing instruction ends the frame.** State and calls of the frame are those of the part before
    the instruction with the instruction itself; the failure is the one that is handed on. -/
theorem StopsAt.runFrame {frame i : Nat} {op : Opcode α} {s : State α ω} {e : Error}
    (h : c.StopsAt frame i op s e) :
    c.runFrame frame s =
      let r := c.exec op (c.before frame i s).state
      ⟨.error (op.handedOn e), r.state, (c.before frame i s).calls ++ r.calls,
        (c.before frame i s).notes ++
          (c.tracing i op ++ r.notes ++ lineNotes op (.failed frame i))⟩ := by
  have hperform := c.perform_apply h.admitted frame i (c.before frame i s).state
  rw [h.failed] at hperform
  rw [runFrame_of_perform_error h.instruction h.before (congrArg Outcome.result hperform), hperform]

theorem StopsAt.runFrame_calls {frame i : Nat} {op : Opcode α} {s : State α ω} {e : Error}
    (h : c.StopsAt frame i op s e) :
    (c.runFrame frame s).calls =
      (c.before frame i s).calls ++ (c.exec op (c.before frame i s).state).calls :=
  congrArg Outcome.calls h.runFrame

/-- An instruction that cannot be written ends the frame before it runs. -/
theorem BarsAt.runFrame {frame i : Nat} {op : Opcode α} {s : State α ω} {e : Error}
    (h : c.BarsAt frame i op s e) :
    c.runFrame frame s =
      ⟨.error e, (c.before frame i s).state, (c.before frame i s).calls, (c.before frame i s).notes⟩ := by
  have hperform := c.perform_of_barred h.traced h.unwritten frame i (c.before frame i s).state
  rw [runFrame_of_perform_error h.instruction h.before (congrArg Outcome.result hperform), hperform]
  simp only [List.append_nil]

end Setup

end Wireframe.Run
