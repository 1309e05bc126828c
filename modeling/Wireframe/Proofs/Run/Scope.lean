import Wireframe.Proofs.Failure
import Wireframe.Proofs.Run.Frame
import Wireframe.Proofs.Scope

/-!
# `Wireframe.Proofs.Run.Scope` — coordinate systems follow the nesting of the program

Each instruction that a frame runs does to the stack what `Scope.grow` says, or is a pop, which closes
the last scope. So the stack at every position of a frame is that of the instructions that are not
cancelled there, and only a pop too many can leave the world.

## Contents
- `executed`: the instructions of a frame before a position.
- `before_stack`, `before_depth`: the stack of a frame at a position.
- `before_block`: well-nested blocks.
- `stopsAt_emptyStack_iff`: pops too many.
- `frame_stack_scoped` assembles the results.
-/

namespace Wireframe

open Document

variable {α ω : Type}

/-! ## The stack of a frame -/

namespace Run.Setup

variable [Scalar α] [Angle α] [Shown α] (c : Setup α ω)

/-- The instructions of a frame before a position, each with the state in which it runs. -/
def executed (frame i : Nat) (s : State α ω) : List (Executed α) :=
  (c.ops.take i).mapIdx fun j op => ⟨op, (c.before frame j s).state.machine⟩

theorem executed_succ {i : Nat} {op : Opcode α} (hop : c.ops[i]? = some op) (frame : Nat)
    (s : State α ω) :
    c.executed frame (i + 1) s =
      c.executed frame i s ++ [⟨op, (c.before frame i s).state.machine⟩] := by
  have hi : i < c.ops.length := (List.getElem?_eq_some_iff.mp hop).1
  have hlength : (c.ops.take i).length = i := List.length_take_of_le (by omega)
  simp only [executed, List.take_add_one, hop, Option.toList_some, List.mapIdx_append,
    List.mapIdx_cons, List.mapIdx_nil, Nat.zero_add, hlength]

theorem executed_ops (frame i : Nat) (s : State α ω) :
    (c.executed frame i s).map Executed.op = c.ops.take i := by
  refine List.ext_getElem? fun j => ?_
  rw [executed, List.getElem?_map, List.getElem?_mapIdx, Option.map_map]
  cases (c.ops.take i)[j]? <;> rfl

theorem executed_take {frame i j : Nat} (h : i ≤ j) (s : State α ω) :
    (c.executed frame j s).take i = c.executed frame i s := by
  refine List.ext_getElem? fun k => ?_
  by_cases hk : k < i
  · rw [List.getElem?_take_of_lt hk, executed, executed, List.getElem?_mapIdx, List.getElem?_mapIdx,
      List.getElem?_take_of_lt hk, List.getElem?_take_of_lt (by omega)]
  · rw [List.getElem?_eq_none (by rw [List.length_take]; omega),
      List.getElem?_eq_none (by rw [executed, List.length_mapIdx, List.length_take]; omega)]

/-- The position after the last one adds nothing. -/
theorem before_succ_of_none {i : Nat} (hop : c.ops[i]? = none) (frame : Nat) (s : State α ω) :
    c.before frame (i + 1) s = c.before frame i s ∧
      c.executed frame (i + 1) s = c.executed frame i s := by
  have hi : c.ops.length ≤ i := List.getElem?_eq_none_iff.mp hop
  have htake : c.ops.take (i + 1) = c.ops.take i := by
    rw [List.take_of_length_le hi, List.take_of_length_le (by omega)]
  exact ⟨by rw [before_apply, before_apply, htake], by rw [executed, executed, htake]⟩

/-- **The stack of a frame.** It is the one that the instructions leave that are not cancelled. -/
theorem before_stack {frame i : Nat} {s : State α ω} (h : (c.before frame i s).result = .ok ()) :
    (c.before frame i s).state.machine.stack =
      Scope.stackOf (Scope.uncancelled (c.executed frame i s)) := by
  induction i with
  | zero => rfl
  | succ i ih =>
    cases hop : c.ops[i]? with
    | none =>
      obtain ⟨hbefore, hexecuted⟩ := c.before_succ_of_none hop frame s
      rw [hbefore] at h ⊢
      rw [hexecuted]
      exact ih h
    | some op =>
      obtain ⟨hexec, hstate⟩ := c.before_succ_ok hop h
      have hstep := c.exec_machine hexec
      have hstack := ih (c.before_ok_of_succ h)
      rw [hstate, executed_succ c hop]
      -- a pop closes the last scope; anything else is not cancelled yet
      cases hpop : op.isPop with
      | false =>
        rw [Scope.uncancelled_concat hpop, Scope.stackOf_concat, ← hstack]
        exact Machine.step_stack hpop hstep
      | true =>
        obtain rfl := Opcode.eq_pop hpop
        have hbelow := Machine.stack_of_pop hstep
        rw [hstack, ← List.reverse_reverse (Scope.uncancelled _)] at hbelow
        rw [Scope.uncancelled_concat_pop rfl, Scope.stackOf_closeLast _ hbelow]

/-- Pushes and pops are counted by the depth. -/
theorem before_depth {frame i : Nat} {s : State α ω} (h : (c.before frame i s).result = .ok ()) :
    (c.before frame i s).state.machine.stack.depth + (c.ops.take i).countP Opcode.isPop =
      1 + (c.ops.take i).countP Opcode.isPush := by
  induction i with
  | zero => rfl
  | succ i ih =>
    cases hop : c.ops[i]? with
    | none =>
      have hi : c.ops.length ≤ i := List.getElem?_eq_none_iff.mp hop
      rw [(c.before_succ_of_none hop frame s).1] at h ⊢
      rw [List.take_of_length_le (by omega : c.ops.length ≤ i + 1), ← List.take_of_length_le hi]
      exact ih h
    | some op =>
      obtain ⟨hexec, hstate⟩ := c.before_succ_ok hop h
      have hstep := c.exec_machine hexec
      have hcount := ih (c.before_ok_of_succ h)
      rw [hstate, List.take_add_one, hop]
      simp only [Option.toList_some, List.countP_append, List.countP_singleton]
      cases hpop : op.isPop with
      | true =>
        obtain rfl := Opcode.eq_pop hpop
        have hbelow := congrArg List.length (Machine.stack_of_pop hstep)
        simp only [Stack.depth, List.length_cons, Opcode.isPush, Bool.false_eq_true, if_false,
          if_true] at hbelow hcount ⊢
        omega
      | false =>
        rw [Machine.step_stack hpop hstep]
        cases hpush : op.isPush with
        | true =>
          rw [Scope.grow_push hpush]
          simp only [Stack.depth, Stack.push, List.length_cons, Bool.false_eq_true, if_false,
            if_true] at hcount ⊢
          omega
        | false =>
          have hbelow := Scope.grow_below (x := ⟨op, (c.before frame i s).state.machine⟩) hpush
          simp only [Stack.depth, hbelow, Bool.false_eq_true, if_false] at hcount ⊢
          omega

/-- The transforms of a frame have all built their matrices. -/
theorem executed_matrix {frame i : Nat} {s : State α ω} (h : (c.before frame i s).result = .ok ()) :
    ∀ x ∈ c.executed frame i s, x.matrix?.isSome = x.op.isTransform := by
  induction i with
  | zero => simp [executed]
  | succ i ih =>
    cases hop : c.ops[i]? with
    | none =>
      obtain ⟨hbefore, hexecuted⟩ := c.before_succ_of_none hop frame s
      rw [hbefore] at h
      rw [hexecuted]
      exact ih h
    | some op =>
      obtain ⟨hexec, -⟩ := c.before_succ_ok hop h
      intro x hx
      rw [executed_succ c hop, List.mem_append, List.mem_singleton] at hx
      rcases hx with hx | rfl
      · exact ih (c.before_ok_of_succ h) x hx
      · exact Machine.step_matrix (c.exec_machine hexec)

/-- **A well-nested block leaves the stack as it found it.** -/
theorem before_block {before inner rest : List (Opcode α)}
    (hops : c.ops = before ++ .push :: (inner ++ .pop :: rest)) (hinner : Scope.WellNested inner)
    {frame : Nat} {s : State α ω}
    (h : (c.before frame (before.length + inner.length + 2) s).result = .ok ()) :
    (c.before frame (before.length + inner.length + 2) s).state.machine.stack =
      (c.before frame before.length s).state.machine.stack := by
  have hsplit : c.executed frame (before.length + inner.length + 2) s =
      c.executed frame before.length s ++
        (c.executed frame (before.length + inner.length + 2) s).drop before.length := by
    rw [← c.executed_take (by omega : before.length ≤ before.length + inner.length + 2) s,
      List.take_append_drop]
  -- behind the instructions before it the block stands as a whole
  have hblock : ((c.executed frame (before.length + inner.length + 2) s).drop before.length).map
      Executed.op = .push :: (inner ++ [.pop]) := by
    have htake : c.ops.take (before.length + inner.length + 2) =
        before ++ .push :: (inner ++ [.pop]) := by
      have hassoc : c.ops = (before ++ .push :: (inner ++ [.pop])) ++ rest := by
        rw [hops]
        simp
      rw [hassoc]
      exact List.take_left' (by simp; omega)
    rw [List.map_drop, executed_ops, htake, List.drop_left]
  rw [c.before_stack h, c.before_stack (c.before_ok_of_le h (by omega)), hsplit,
    Scope.uncancelled_block hinner _ _ hblock]

/-- Whoever was called before a position that a frame gets to has succeeded. -/
theorem before_calls_succeeded {frame i : Nat} {s : State α ω}
    (h : (c.before frame i s).result = .ok ()) :
    ∀ call ∈ (c.before frame i s).calls, call.succeeded = true := by
  induction i with
  | zero => simp [before_zero]
  | succ i ih =>
    cases hop : c.ops[i]? with
    | none =>
      rw [(c.before_succ_of_none hop frame s).1] at h ⊢
      exact ih h
    | some op =>
      have hi := c.before_ok_of_succ h
      obtain ⟨hexec, -⟩ := c.before_succ_ok hop h
      intro call hcall
      rw [before_succ c hop, Outcome.andThen_of_ok hi] at hcall
      rcases List.mem_append.mp hcall with hcall | hcall
      · exact ih hi call hcall
      · rcases c.perform_parts frame i op (c.before frame i s).state with ⟨-, hcalls⟩ | ⟨-, hcalls⟩
        · rw [hcalls] at hcall
          exact c.exec_calls_succeeded hexec call hcall
        · rw [hcalls] at hcall
          cases hcall

/-- A pop in the world fails and changes nothing. -/
theorem exec_pop_of_below_nil {s : State α ω} (h : s.machine.stack.below = []) :
    c.exec .pop s = ⟨.error .worldPop, s, [], []⟩ := by
  have hstep : s.machine.step c.options .pop = ⟨[], .error .worldPop⟩ := by
    show Step.of _ = _
    rw [Machine.pop_of_below_nil h]
    rfl
  simp only [exec, Action.advance, hstep, List.map_nil]

/-- **The world is left by a pop too many.** A frame in which every call succeeds stops for want of a
    coordinate system exactly at a pop before which there are as many pops as pushes. -/
theorem stopsAt_emptyStack_iff (frame i : Nat) (s : State α ω) :
    (∃ op e, c.StopsAt frame i op s e ∧ (op.handedOn e).kind = .emptyStack ∧
        ∀ call ∈ (c.runFrame frame s).calls, call.succeeded = true) ↔
      (c.before frame i s).result = .ok () ∧ c.ops[i]? = some .pop ∧
        (c.ops.take i).countP Opcode.isPop = (c.ops.take i).countP Opcode.isPush := by
  constructor
  · -- no call failed, so the failure is that of the machine, and only a pop fails in this way
    rintro ⟨op, e, hstop, hkind, hcalls⟩
    rw [Opcode.handedOn_emptyStack hkind] at hkind
    have hdepth := c.before_depth hstop.before
    rw [hstop.runFrame] at hcalls
    have hstep : ((c.before frame i s).state.machine.step c.options op).result = .error e := by
      rcases c.exec_failed hstop.failed with ⟨call, hcall, hfailed⟩ | hstep | rfl
      · have hsucceeded := hcalls call (List.mem_append_right _ hcall)
        rw [hfailed] at hsucceeded
        cases hsucceeded
      · exact hstep
      · cases hkind
    obtain rfl := Machine.eq_pop_of_emptyStack _ hstep hkind
    obtain ⟨hbelow, -⟩ := Machine.pop_failed hstep
    refine ⟨hstop.before, hstop.instruction, ?_⟩
    simp only [Stack.depth, hbelow, List.length_nil] at hdepth
    omega
  · -- as many pops as pushes leave the world alone on the stack
    rintro ⟨hbefore, hop, hcount⟩
    have hdepth := c.before_depth hbefore
    have hbelow : (c.before frame i s).state.machine.stack.below = [] := by
      rw [Stack.depth] at hdepth
      exact List.eq_nil_of_length_eq_zero (by omega)
    have hexec := c.exec_pop_of_below_nil hbelow
    have hstop : c.StopsAt frame i .pop s .worldPop :=
      ⟨hop, hbefore, fun _ => ⟨_, rfl⟩, by rw [hexec]⟩
    refine ⟨.pop, .worldPop, hstop, rfl, ?_⟩
    rw [hstop.runFrame, hexec]
    simpa only [List.append_nil] using c.before_calls_succeeded hbefore

/-- A frame that stops leaves the stack as the failing instruction found it. -/
theorem StopsAt.stack {c : Setup α ω} {frame i : Nat} {op : Opcode α} {s : State α ω} {e : Error}
    (h : c.StopsAt frame i op s e) :
    (c.runFrame frame s).state.machine.stack = (c.before frame i s).state.machine.stack := by
  rw [h.runFrame, c.exec_failed_machine h.failed]

/-- **Coordinate systems are scoped.** At every position that a frame gets to, the depth of the stack and
    its entries are those of the instructions that are left after cancelling, all transforms among which
    have built a matrix. A well-nested block leaves the stack as it found it. A frame stops for want of a
    coordinate system exactly at a pop too many. A frame that stops hands on the failure of the instruction,
    or the one of writing it where it cannot be reported, and leaves the stack alone. -/
theorem frame_stack_scoped (frame : Nat) (s : State α ω) :
    (∀ i, (c.before frame i s).result = .ok () →
      let kept := Scope.uncancelled (c.executed frame i s)
      let stack := (c.before frame i s).state.machine.stack
      stack.depth = 1 + Scope.pushes kept ∧
        (∀ j ≤ Scope.pushes kept,
          stack.entries[j]? = some (Scope.product (Scope.beforePush j kept))) ∧
        ∀ x ∈ c.executed frame i s, x.matrix?.isSome = x.op.isTransform) ∧
    (∀ before inner rest, c.ops = before ++ .push :: (inner ++ .pop :: rest) →
      Scope.WellNested inner →
      (c.before frame (before.length + inner.length + 2) s).result = .ok () →
      (c.before frame (before.length + inner.length + 2) s).state.machine.stack =
        (c.before frame before.length s).state.machine.stack) ∧
    (∀ i,
      (∃ op e, c.StopsAt frame i op s e ∧ (op.handedOn e).kind = .emptyStack ∧
          ∀ call ∈ (c.runFrame frame s).calls, call.succeeded = true) ↔
        (c.before frame i s).result = .ok () ∧ c.ops[i]? = some .pop ∧
          (c.ops.take i).countP Opcode.isPop = (c.ops.take i).countP Opcode.isPush) ∧
    ∀ i op e, c.StopsAt frame i op s e →
      (c.runFrame frame s).result = .error (op.handedOn e) ∧
        (c.runFrame frame s).state.machine.stack = (c.before frame i s).state.machine.stack := by
  refine ⟨fun i h => ⟨?_, fun j hj => ?_, c.executed_matrix h⟩, ?_, ?_, ?_⟩
  · rw [c.before_stack h, Scope.uncancelled, Scope.stackOf_depth]
  · rw [c.before_stack h, Scope.uncancelled, Scope.stackOf_entries _ hj]
  · intro before inner rest hops hinner h
    exact c.before_block hops hinner h
  · exact fun i => c.stopsAt_emptyStack_iff frame i s
  · exact fun i op e h => ⟨congrArg Outcome.result h.runFrame, h.stack⟩

end Run.Setup

end Wireframe
