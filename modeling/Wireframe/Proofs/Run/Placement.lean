import Wireframe.Proofs.Affine
import Wireframe.Proofs.Declaration
import Wireframe.Proofs.Run.LastWrite
import Wireframe.Proofs.Run.Scope

/-!
# `Wireframe.Proofs.Run.Placement` — where a run puts what it draws

In a run on a table of a program all coordinate systems are affine, those on the stack and those that have
names: each is the world, a coordinate system that was current before, or one of these times a basic
transform. In exact arithmetic nothing that is drawn is therefore divided, and the current coordinate
system puts a point where the moves, scalings and rotations of the enclosing blocks put it.

## Contents
- `Machine.Affine`: machines all of whose coordinate systems are affine; `after_affine`, `enter_affine`.
- `machineAt_affine`: every position of a run.
- `placement_composed` assembles the results.
-/

namespace Wireframe

open Document

variable {α ω : Type}

/-! ## Machines -/

/-- What is saved is the current coordinate system. -/
theorem Opcode.eq_top_of_matrixFor {op : Opcode α} {x : Label} {top t : Matrix α}
    (h : op.matrixFor x top = some t) : t = top := by
  cases op with
  | saveCoordSystem name =>
    simp only [matrixFor] at h
    split at h
    · exact (Option.some.inj h).symm
    · cases h
  | _ => cases h

namespace Machine

/-- All coordinate systems of a machine are affine: those on the stack, and those that have names. -/
structure Affine [Scalar α] (m : Machine α) : Prop where
  stack : ∀ t ∈ m.stack.entries, t.IsAffine
  names : ∀ x t, m.symbols.matrices.find? x = some t → t.IsAffine

theorem mem_entries {s : Stack α} {t : Matrix α} : t ∈ s.entries ↔ t = s.top ∨ t ∈ s.below := by
  rw [Stack.entries, List.mem_reverse, List.mem_cons]

variable [Scalar α] {m m' : Machine α}

theorem Affine.top (hm : m.Affine) : m.stack.top.IsAffine := hm.stack _ (mem_entries.mpr (.inl rfl))

/-- Where a frame starts, the stack is the world alone. -/
theorem Affine.fresh (hm : m.Affine) : m.fresh.Affine := by
  refine ⟨fun t ht => ?_, hm.names⟩
  rcases mem_entries.mp ht with rfl | ht
  · exact Matrix.identity_affine
  · cases ht

variable [Angle α] [Scalar.Exact α]

/-- An instruction other than a pop keeps the entries of the stack affine. -/
theorem grow_affine {x : Executed α} {s : Stack α} (hs : ∀ t ∈ s.entries, t.IsAffine) :
    ∀ t ∈ (Scope.grow s x).entries, t.IsAffine := by
  have htop : s.top.IsAffine := hs _ (mem_entries.mpr (.inl rfl))
  intro t ht
  unfold Scope.grow at ht
  split at ht
  · rcases mem_entries.mp ht with rfl | ht
    · exact htop
    · rcases List.mem_cons.mp ht with rfl | ht
      · exact htop
      · exact hs t (mem_entries.mpr (.inr ht))
  · split at ht
    · next t' ht' =>
      rcases mem_entries.mp ht with rfl | ht
      · exact Matrix.mul_affine htop (Executed.matrix_affine ht')
      · exact hs t (mem_entries.mpr (.inr ht))
    · exact hs t ht

variable [Shown α]

/-- **One instruction.** The coordinate systems stay affine. -/
theorem step_affine {o : Options} {op : Opcode α} (hm : m.Affine) (h : (m.step o op).result = .ok m') :
    m'.Affine := by
  constructor
  · cases hpop : op.isPop with
    | false =>
      rw [step_stack hpop h]
      exact grow_affine hm.stack
    | true =>
      -- a pop brings an entry back that was there before
      obtain rfl := Opcode.eq_pop hpop
      have hbelow : m.stack.below = m'.stack.top :: m'.stack.below := stack_of_pop h
      intro t ht
      apply hm.stack t
      rw [mem_entries, hbelow, List.mem_cons]
      exact .inr (mem_entries.mp ht)
  · intro x t ht
    rw [Opcode.writeTo_matrix (step_ok h).1] at ht
    rcases Option.or_eq_some_iff.mp ht with hsaved | ⟨-, hkept⟩
    · rw [Opcode.eq_top_of_matrixFor hsaved]
      exact hm.top
    · exact hm.names x t hkept

theorem after_affine {o : Options} {op : Opcode α} (hm : m.Affine) : (m.after o op).Affine := by
  unfold after
  split
  · next h => exact step_affine hm h
  · exact hm

end Machine

namespace Run.Setup

variable [Scalar α] [Angle α] [Shown α] [Scalar.Exact α] (c : Setup α ω)

omit [Angle α] [Shown α] [Scalar.Exact α] in
/-- Where a frame of an animation starts, nothing has happened to the names of coordinate systems. -/
theorem enter_affine {m : Machine α} (hm : m.Affine) (k : Nat) : (c.enter k m).Affine := by
  obtain ⟨values, h⟩ := c.enter_ok k m
  rw [h]
  exact Machine.Affine.fresh ⟨hm.stack, hm.names⟩

/-- **Every position of a run.** All coordinate systems are affine there. -/
theorem machineAt_affine {m : Machine α}
    (hm : ∀ x t, m.symbols.matrices.find? x = some t → t.IsAffine) {k i : Nat} (hk : k < c.passes)
    (hi : i ≤ c.ops.length) : (c.machineAt m k i).Affine := by
  apply c.position_induction (P := fun _ _ m => m.Affine) m _ _ _ hk hi
  · -- the stack before the run does not matter
    have hworld : ({ m with stack := .world } : Machine α).Affine := by
      refine ⟨fun t ht => ?_, hm⟩
      rcases Machine.mem_entries.mp ht with rfl | ht
      · exact Matrix.identity_affine
      · cases ht
    unfold start
    split
    · obtain ⟨values, h⟩ := c.enter_ok 0 m
      show (c.enter 0 m).Affine
      rw [h]
      exact ⟨hworld.stack, hm⟩
    · exact ⟨hworld.stack, hm⟩
  · exact fun _ _ _ _ _ h => Machine.after_affine h
  · exact fun k _ h => c.enter_affine h (k + 1)

end Run.Setup

/-! ## What is left of a frame -/

/-- What is left after cancelling was there before. -/
theorem Scope.mem_of_mem_uncancelled {xs : List (Executed α)} {x : Executed α}
    (h : x ∈ uncancelled xs) : x ∈ xs := by
  have hsublist : ∀ (xs : List (Executed α)) (pops : Nat), (survivors pops xs).Sublist xs := by
    intro xs
    induction xs with
    | nil => exact fun _ => .slnil
    | cons y earlier ih =>
      intro pops
      unfold survivors
      split
      · exact .cons y (ih (pops + 1))
      · split
        · exact .cons_cons y (ih 0)
        · split
          · exact .cons y (ih (pops - 1))
          · exact .cons y (ih pops)
  exact List.mem_reverse.mp ((hsublist xs.reverse 0).mem (List.mem_reverse.mp h))

namespace Run.Setup

variable [Scalar α] [Angle α] [Shown α] [Scalar.Exact α] (c : Setup α ω)

open Scalar (zero one) in
/-- **Placement is composition.** In a run on a table of a program, at every position that it gets to: the
    last row of every coordinate system is that of the identity, so that no image of a point is divided; all
    transforms that are left after cancelling have their effect; and the current coordinate system puts a
    point where these transforms put it, the last one first. Products of such transforms are compositions. -/
theorem placement_composed {ops : List (Opcode α)} {initial : List (String × α)} {record : Record}
    {s : State α ω}
    (htable : Symbols.ofProgram ops (valueDeclarations initial) = .ok (s.machine.symbols, record))
    {k i : Nat} (hk : k < c.passes) (hi : i ≤ c.ops.length) (h : (c.upTo k i s).result = .ok ()) :
    let machine := (c.upTo k i s).state.machine
    let kept := Scope.uncancelled (c.executed k i (c.lead k s).state)
    (∀ t, (t ∈ machine.stack.entries ∨ ∃ x, machine.symbols.matrices.find? x = some t) →
      t.r3 = ⟨zero, zero, zero, one⟩ ∧
        (∀ ps, t.apply ps = ps.map t.move) ∧
        ∀ g : Geometry α, g.transform t = ⟨(g.points.map t.move).map Geometry.store, g.offsets⟩) ∧
    (∀ x ∈ kept, x.map?.isSome = x.op.isTransform) ∧
    (∀ p, machine.stack.top.apply [p] = [Scope.placed kept p]) ∧
    ∀ a b : Matrix α, a.r3 = ⟨zero, zero, zero, one⟩ → b.r3 = ⟨zero, zero, zero, one⟩ →
      ∀ p, (a.mul b).apply [p] = a.apply (b.apply [p]) := by
  intro machine kept
  obtain ⟨-, hbefore, hstate⟩ := c.upTo_reached h
  have haffine : machine.Affine := by
    show (c.upTo k i s).state.machine.Affine
    rw [c.upTo_ok hk h]
    apply c.machineAt_affine _ hk hi
    intro x t ht
    rw [ofProgram_matrices htable ht]
    exact Matrix.identity_affine
  have hmatrix : ∀ x ∈ kept, x.matrix?.isSome = x.op.isTransform := fun x hx =>
    c.executed_matrix hbefore x (Scope.mem_of_mem_uncancelled hx)
  refine ⟨fun t ht => ?_, fun x hx => ?_, fun p => ?_, fun a b ha hb p => Matrix.mul_apply ha hb [p]⟩
  · have hrow : t.IsAffine := by
      rcases ht with ht | ⟨x, ht⟩
      · exact haffine.stack t ht
      · exact haffine.names x t ht
    exact ⟨hrow, Matrix.apply_of_affine hrow, Geometry.transform_of_affine hrow⟩
  · have hbuilt := hmatrix x hx
    cases ht : x.matrix? with
    | some t =>
      rw [ht] at hbuilt
      rw [Executed.map_of_matrix ht, ← hbuilt]
      rfl
    | none =>
      rw [ht] at hbuilt
      rw [Executed.map_of_not_transform hbuilt.symm, ← hbuilt]
      rfl
  · have htop : machine.stack.top = Scope.product kept := by
      show (c.upTo k i s).state.machine.stack.top = _
      rw [hstate, c.before_stack hbefore, ← List.reverse_reverse (Scope.uncancelled _),
        Scope.stackOf_top, List.reverse_reverse]
    rw [Matrix.apply_of_affine haffine.top, htop, List.map_singleton,
      (Scope.product_affine_move hmatrix).2]

end Run.Setup

namespace Run

/-- Angles of which every one is a quarter of a turn. -/
abbrev quarterTurns : Angle ℚ := ⟨2, fun _ => 0, fun _ => 1⟩

/-- Numbers that are not shown. -/
abbrev hiddenNumbers : Shown ℚ := ⟨fun _ => "", fun _ => "", fun _ => ""⟩

/-- An animation of two frames in which an arm is moved, turned and stretched. -/
def Setup.arm : Setup ℚ Unit where
  ops := [.move ⟨1, 0, 0⟩ none, .push, .rotate .z 90 none, .saveCoordSystem (.str "arm"),
    .scale ⟨1, 1, 1⟩ (some (.str "k")), .pop]
  options := Setup.spin.options
  plan := ⟨⟨2, .str "arm"⟩, some ⟨[⟨[(.text "k", 3)]⟩, ⟨[(.text "k", 2)]⟩]⟩⟩
  traced := false
  knobsShown := false
  outside := .quiet

/-- The state before the animation of the arm. -/
def State.arm : State ℚ Unit :=
  .initial ⟨⟨[(.text "arm", .matrix), (.text "k", .value)]⟩, ⟨[(.text "k", 0)]⟩,
    ⟨[(.text "arm", .identity)]⟩⟩ (.blank 1 1 .white) ()

/-- In the second frame the end of the arm is stretched by two, turned and moved. -/
theorem placement_composed_arm :
    let _ : Angle ℚ := quarterTurns
    let _ : Shown ℚ := hiddenNumbers
    (∃ record, Symbols.ofProgram Setup.arm.ops (valueDeclarations []) =
      .ok (State.arm.machine.symbols, record)) ∧
      1 < Setup.arm.passes ∧ 5 ≤ Setup.arm.ops.length ∧ (Setup.arm.upTo 1 5 .arm).result = .ok () ∧
      (Setup.arm.upTo 1 5 .arm).state.machine.stack.top.apply [⟨1, 0, 0⟩] = [⟨1, 2, 0⟩] := by
  intro _ _
  have htable : Symbols.ofProgram Setup.arm.ops (valueDeclarations []) =
    .ok (State.arm.machine.symbols, _) := rfl
  have hpasses : 1 < Setup.arm.passes := by decide
  have hreached : (Setup.arm.upTo 1 5 .arm).result = .ok () := ok_of_toOption (by decide)
  obtain ⟨-, -, hplaced, -⟩ := Setup.arm.placement_composed htable hpasses (by decide) hreached
  have hend : Scope.placed (Scope.uncancelled (Setup.arm.executed 1 5 (Setup.arm.lead 1 .arm).state))
      ⟨1, 0, 0⟩ = ⟨1, 2, 0⟩ := by decide +kernel
  exact ⟨⟨_, htable⟩, hpasses, by decide, hreached, (hplaced ⟨1, 0, 0⟩).trans (by rw [hend])⟩

end Run

end Wireframe
