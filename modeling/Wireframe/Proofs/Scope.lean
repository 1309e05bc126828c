import Wireframe.Machine
import Wireframe.Proofs.Raster.Draw

/-!
# `Wireframe.Proofs.Scope` — what is left of nested coordinate systems

A push opens a scope and the matching pop closes it. What is transformed inside a closed scope is gone
with it, so a stack can be read off the instructions that ran: cancel every push with its matching pop
and everything between them; each push that is left stands for an entry below the current one, and each
entry is the product of the transforms before the push that covers it.

## Contents
- `Executed`, `Executed.matrix?`: the instructions that ran, and the transforms they built.
- `uncancelled`: what is left after cancelling; `beforePush`, `product`: the entries it stands for.
- `WellNested`, `uncancelled_block`: programs in which every push has its pop.
- `stackOf`: the stack of a list without pops, `stackOf_depth`, `stackOf_entries`.
- `Machine.step_stack`, `Machine.stack_of_pop`: what an instruction does to the stack.
-/

namespace Wireframe

open Document

variable {α : Type}

/-- Whether an instruction enters a coordinate system. -/
def Opcode.isPush : Opcode α → Bool
  | .push => true
  | _ => false

/-- Whether an instruction leaves a coordinate system. -/
def Opcode.isPop : Opcode α → Bool
  | .pop => true
  | _ => false

/-- Whether an instruction moves, scales or turns the current coordinate system. -/
def Opcode.isTransform : Opcode α → Bool
  | .move .. | .scale .. | .rotate .. => true
  | _ => false

theorem Opcode.eq_push {op : Opcode α} (h : op.isPush = true) : op = .push := by
  cases op with
  | push => rfl
  | _ => cases h

theorem Opcode.eq_pop {op : Opcode α} (h : op.isPop = true) : op = .pop := by
  cases op with
  | pop => rfl
  | _ => cases h

/-- An instruction with the state in which it ran. -/
structure Executed (α : Type) where
  op : Opcode α
  machine : Machine α

/-- The transform that a move, a scaling or a rotation builds from the value its knob has at the time. -/
def Executed.matrix? [Scalar α] [Angle α] (x : Executed α) : Option (Matrix α) :=
  match x.op with
  | .move delta knob => (x.machine.factor knob).toOption.map fun k => .translation (delta.scale k)
  | .scale delta knob => (x.machine.factor knob).toOption.map fun k => .scaling (delta.scale k)
  | .rotate axis degrees knob =>
    (x.machine.factor knob).toOption.bind fun k =>
      (Matrix.rotation axis (Machine.radians (degrees * k))).toOption
  | _ => none

namespace Scope

/-! ## Cancelling -/

/-- What is left of instructions that are read from the last one on, while a number of pops wait for
    their push. A push without a pop stays, and so does everything outside of matched pairs. -/
def survivors : Nat → List (Executed α) → List (Executed α)
  | _, [] => []
  | pops, x :: earlier =>
    if x.op.isPop then survivors (pops + 1) earlier
    else if pops = 0 then x :: survivors 0 earlier
    else if x.op.isPush then survivors (pops - 1) earlier
    else survivors pops earlier

/-- The instructions without every push that has a matching pop, the pop, and all between them. -/
def uncancelled (xs : List (Executed α)) : List (Executed α) := (survivors 0 xs.reverse).reverse

/-- A list that is read from the last instruction on, without the last push and what follows it. -/
def closeLast (xs : List (Executed α)) : List (Executed α) :=
  (xs.dropWhile fun x => !x.op.isPush).drop 1

/-- One more pop closes one more scope. -/
theorem survivors_succ (xs : List (Executed α)) (pops : Nat) :
    survivors (pops + 1) xs = closeLast (survivors pops xs) := by
  -- from the last instruction back; only a push that no pop waits for is left to be closed
  induction xs generalizing pops with
  | nil => rfl
  | cons x earlier ih =>
    by_cases hpop : x.op.isPop = true
    · simp only [survivors, hpop, if_true]
      exact ih (pops + 1)
    · by_cases hpush : x.op.isPush = true
      · cases pops with
        | zero => simp [survivors, closeLast, hpop, hpush]
        | succ pops => simp only [survivors, hpop, hpush, if_true, if_false, Bool.false_eq_true,
            Nat.add_one_ne_zero, Nat.add_sub_cancel]; exact ih pops
      · cases pops with
        | zero =>
          have hskip : closeLast (x :: survivors 0 earlier) = closeLast (survivors 0 earlier) := by
            simp [closeLast, hpush]
          simp only [survivors, hpop, hpush, if_true, if_false, Bool.false_eq_true,
            Nat.add_one_ne_zero, hskip]
          exact ih 0
        | succ pops =>
          simp only [survivors, hpop, hpush, if_false, Bool.false_eq_true, Nat.add_one_ne_zero]
          exact ih (pops + 1)

theorem uncancelled_concat {x : Executed α} (hx : x.op.isPop = false) (xs : List (Executed α)) :
    uncancelled (xs ++ [x]) = uncancelled xs ++ [x] := by
  simp [uncancelled, survivors, hx]

theorem uncancelled_concat_pop {x : Executed α} (hx : x.op.isPop = true) (xs : List (Executed α)) :
    uncancelled (xs ++ [x]) = (closeLast (uncancelled xs).reverse).reverse := by
  simp [uncancelled, survivors, hx, survivors_succ]

/-! ## Programs in which every push has its pop -/

/-- Every push has its pop, and every pop its push. -/
inductive WellNested : List (Opcode α) → Prop
  | nil : WellNested []
  | plain {op : Opcode α} {rest : List (Opcode α)} (hpush : op.isPush = false)
      (hpop : op.isPop = false) : WellNested rest → WellNested (op :: rest)
  | block {inner rest : List (Opcode α)} :
      WellNested inner → WellNested rest → WellNested (.push :: (inner ++ .pop :: rest))

/-- Behind an open pop nothing is left of a well-nested list. -/
theorem survivors_wellNested {ops : List (Opcode α)} (h : WellNested ops) (pops : Nat)
    (xs : List (Executed α)) (hxs : xs.map Executed.op = ops) (earlier : List (Executed α)) :
    survivors (pops + 1) (xs.reverse ++ earlier) = survivors (pops + 1) earlier := by
  induction h generalizing pops xs earlier with
  | nil =>
    rw [List.map_eq_nil_iff.mp hxs]
    rfl
  | @plain op rest hpush hpop _ ih =>
    obtain ⟨x, xs, rfl, rfl, hrest⟩ := List.map_eq_cons_iff.mp hxs
    rw [List.reverse_cons, List.append_assoc, ih pops xs hrest]
    simp [survivors, hpush, hpop]
  | @block inner rest _ _ ihInner ihRest =>
    obtain ⟨x, xs, rfl, hx, hxs⟩ := List.map_eq_cons_iff.mp hxs
    obtain ⟨ys, zs, rfl, hys, hzs⟩ := List.map_eq_append_iff.mp hxs
    obtain ⟨z, zs, rfl, hz, hzs⟩ := List.map_eq_cons_iff.mp hzs
    -- from its end on the block is the rest, the pop, the inside and the push
    have hreverse : (x :: (ys ++ z :: zs)).reverse ++ earlier =
        zs.reverse ++ (z :: (ys.reverse ++ (x :: earlier))) := by simp
    rw [hreverse, ihRest pops zs hzs]
    have hpop : survivors (pops + 1) (z :: (ys.reverse ++ (x :: earlier))) =
        survivors (pops + 1 + 1) (ys.reverse ++ (x :: earlier)) := by
      simp [survivors, hz, Opcode.isPop]
    rw [hpop, ihInner (pops + 1) ys hys]
    simp [survivors, hx, Opcode.isPop, Opcode.isPush]

/-- A well-nested block between a push and its pop is cancelled as a whole. -/
theorem uncancelled_block {inner : List (Opcode α)} (h : WellNested inner)
    (xs block : List (Executed α)) (hblock : block.map Executed.op = .push :: (inner ++ [.pop])) :
    uncancelled (xs ++ block) = uncancelled xs := by
  obtain ⟨x, tail, rfl, hx, htail⟩ := List.map_eq_cons_iff.mp hblock
  obtain ⟨ys, zs, rfl, hys, hzs⟩ := List.map_eq_append_iff.mp htail
  obtain ⟨z, _, rfl, hz, hnil⟩ := List.map_eq_cons_iff.mp hzs
  rw [List.map_eq_nil_iff.mp hnil]
  have hreverse : (xs ++ x :: (ys ++ [z])).reverse = z :: (ys.reverse ++ (x :: xs.reverse)) := by
    simp
  have hpop : survivors 0 (z :: (ys.reverse ++ (x :: xs.reverse))) =
      survivors (0 + 1) (ys.reverse ++ (x :: xs.reverse)) := by
    simp [survivors, hz, Opcode.isPop]
  rw [uncancelled, hreverse, hpop, survivors_wellNested h 0 ys hys]
  simp [uncancelled, survivors, hx, Opcode.isPop, Opcode.isPush]

example (m : Machine α) : uncancelled [⟨.push, m⟩, ⟨.push, m⟩, ⟨.display, m⟩, ⟨.pop, m⟩] =
    [⟨.push, m⟩] := rfl

/-! ## The instructions before a push -/

/-- The instructions before the push with number `j`, counted from zero; all of them if there are not so
    many. -/
def beforePush : Nat → List (Executed α) → List (Executed α)
  | _, [] => []
  | j, x :: rest =>
    if x.op.isPush then
      match j with
      | 0 => []
      | j + 1 => x :: beforePush j rest
    else x :: beforePush j rest

/-- The number of pushes in a list. -/
def pushes (xs : List (Executed α)) : Nat := xs.countP fun x => x.op.isPush

theorem pushes_concat (xs : List (Executed α)) (x : Executed α) :
    pushes (xs ++ [x]) = pushes xs + if x.op.isPush then 1 else 0 := by
  simp only [pushes, List.countP_append, List.countP_singleton]

/-- What comes behind a push does not change what is before it. -/
theorem beforePush_concat {j : Nat} {x : Executed α} (xs : List (Executed α))
    (h : j < pushes (xs ++ [x])) : beforePush j (xs ++ [x]) = beforePush j xs := by
  induction xs generalizing j with
  | nil =>
    cases hx : x.op.isPush with
    | false => simp [pushes, hx] at h
    | true =>
      have hj : j = 0 := by simpa [pushes, hx] using h
      simp [beforePush, hx, hj]
  | cons y xs ih =>
    cases hy : y.op.isPush with
    | true =>
      cases j with
      | zero => simp [beforePush, hy]
      | succ j =>
        have hj : j < pushes (xs ++ [x]) := by
          simp only [pushes, List.cons_append, List.countP_cons, hy, if_true] at h ⊢
          omega
        simp only [List.cons_append, beforePush, hy, if_true, ih hj]
    | false =>
      have hj : j < pushes (xs ++ [x]) := by simpa [pushes, hy] using h
      simp only [List.cons_append, beforePush, hy, if_false, Bool.false_eq_true, ih hj]

/-- A list is before a push that it does not have. -/
theorem beforePush_of_pushes_le {j : Nat} (xs : List (Executed α)) (h : pushes xs ≤ j) :
    beforePush j xs = xs := by
  induction xs generalizing j with
  | nil => cases j <;> rfl
  | cons y xs ih =>
    cases hy : y.op.isPush with
    | true =>
      cases j with
      | zero => simp [pushes, hy] at h
      | succ j =>
        have hj : pushes xs ≤ j := by simpa [pushes, hy] using h
        simp only [beforePush, hy, if_true, ih hj]
    | false =>
      have hj : pushes xs ≤ j := by simpa [pushes, hy] using h
      simp only [beforePush, hy, if_false, Bool.false_eq_true, ih hj]

/-! ## The stack of a list without pops -/

theorem entries_getElem_top (s : Stack α) : s.entries[s.below.length]? = some s.top := by
  simp [Stack.entries]

theorem entries_getElem_below (s : Stack α) {j : Nat} (h : j < s.below.length) :
    s.entries[j]? = s.below.reverse[j]? := by
  simp [Stack.entries, List.getElem?_append_left, h]

theorem entries_push (s : Stack α) : s.push.entries = s.entries ++ [s.top] := by
  simp [Stack.entries, Stack.push]

variable [Scalar α] [Angle α]

/-- The product of the transforms of a list, from the first to the last. -/
def product (xs : List (Executed α)) : Matrix α :=
  (xs.filterMap Executed.matrix?).foldl Matrix.mul Matrix.identity

theorem product_concat (xs : List (Executed α)) (x : Executed α) :
    product (xs ++ [x]) = match x.matrix? with
      | some t => (product xs).mul t
      | none => product xs := by
  simp only [product, List.filterMap_append, List.foldl_append]
  cases hx : x.matrix? with
  | none => simp [hx]
  | some t => simp [hx]

/-- What an instruction other than a pop does to the stack. -/
def grow (s : Stack α) (x : Executed α) : Stack α :=
  if x.op.isPush then s.push
  else
    match x.matrix? with
    | some t => s.transform t
    | none => s

theorem grow_push {x : Executed α} (hx : x.op.isPush = true) (s : Stack α) : grow s x = s.push := by
  simp only [grow, hx, if_true]

theorem grow_below {x : Executed α} (hx : x.op.isPush = false) (s : Stack α) :
    (grow s x).below = s.below := by
  simp only [grow, hx, if_false, Bool.false_eq_true]
  split <;> rfl

/-- The stack that a list without pops leaves. -/
def stackOf (xs : List (Executed α)) : Stack α := xs.foldl grow .world

theorem stackOf_concat (xs : List (Executed α)) (x : Executed α) :
    stackOf (xs ++ [x]) = grow (stackOf xs) x := by
  simp only [stackOf, List.foldl_append, List.foldl_cons, List.foldl_nil]

/-- The top is the product of all transforms. -/
theorem stackOf_top (xs : List (Executed α)) : (stackOf xs.reverse).top = product xs.reverse := by
  induction xs with
  | nil => rfl
  | cons x xs ih =>
    rw [List.reverse_cons, stackOf_concat, product_concat, ← ih, grow]
    cases hx : x.op.isPush with
    | true =>
      have hop := Opcode.eq_push hx
      simp [Executed.matrix?, hop, Stack.push]
    | false =>
      simp only [Bool.false_eq_true, if_false]
      split <;> rfl

/-- Every push adds an entry. -/
theorem stackOf_depth (xs : List (Executed α)) :
    (stackOf xs.reverse).depth = 1 + pushes xs.reverse := by
  induction xs with
  | nil => rfl
  | cons x xs ih =>
    rw [List.reverse_cons, stackOf_concat, pushes_concat]
    cases hx : x.op.isPush with
    | true =>
      rw [grow_push hx]
      simp only [Stack.depth, Stack.push, List.length_cons, if_true] at ih ⊢
      omega
    | false =>
      simp only [Stack.depth, grow_below hx, Bool.false_eq_true, if_false] at ih ⊢
      omega

theorem stackOf_below_length (xs : List (Executed α)) :
    (stackOf xs.reverse).below.length = pushes xs.reverse := by
  have hdepth := stackOf_depth xs
  rw [Stack.depth] at hdepth
  omega

/-- **The entries of the stack.** Each is the product of the transforms before the push that covers it;
    the top is not covered. -/
theorem stackOf_entries (xs : List (Executed α)) {j : Nat} (hj : j ≤ pushes xs.reverse) :
    (stackOf xs.reverse).entries[j]? = some (product (beforePush j xs.reverse)) := by
  -- the last entry is the top, which no push covers
  have htop : ∀ ys : List (Executed α), (stackOf ys.reverse).entries[pushes ys.reverse]? =
      some (product (beforePush (pushes ys.reverse) ys.reverse)) := by
    intro ys
    rw [beforePush_of_pushes_le _ (Nat.le_refl _), ← stackOf_below_length, entries_getElem_top,
      stackOf_top]
  induction xs generalizing j with
  | nil =>
    rw [Nat.le_zero.mp hj]
    exact htop []
  | cons x xs ih =>
    rcases Nat.lt_or_eq_of_le hj with hlt | rfl
    · rw [List.reverse_cons] at hlt ⊢
      rw [beforePush_concat _ hlt, stackOf_concat]
      rw [pushes_concat] at hlt
      -- the entries below the top stay as they are, whatever the instruction is
      cases hx : x.op.isPush with
      | true =>
        have hle : j ≤ pushes xs.reverse := by
          rw [hx, if_pos rfl] at hlt
          omega
        have hlength : j < (stackOf xs.reverse).entries.length := by
          have hbelow := stackOf_below_length xs
          simp only [Stack.entries, List.length_reverse, List.length_cons]
          omega
        rw [grow_push hx, entries_push, List.getElem?_append_left hlength]
        exact ih hle
      | false =>
        have hlength : j < (stackOf xs.reverse).below.length := by
          rw [stackOf_below_length]
          simpa [hx] using hlt
        rw [entries_getElem_below _ (by rwa [grow_below hx]), grow_below hx,
          ← entries_getElem_below _ hlength]
        exact ih (by rw [← stackOf_below_length]; omega)
    · exact htop (x :: xs)

/-- Closing the last scope of a list removes the top. -/
theorem stackOf_closeLast (xs : List (Executed α)) {t : Matrix α} {rest : List (Matrix α)}
    (h : (stackOf xs.reverse).below = t :: rest) :
    stackOf (closeLast xs).reverse = ⟨t, rest⟩ := by
  induction xs with
  | nil => cases h
  | cons x xs ih =>
    rw [List.reverse_cons, stackOf_concat] at h
    cases hx : x.op.isPush with
    | true =>
      rw [grow_push hx] at h
      have hclose : closeLast (x :: xs) = xs := by simp [closeLast, hx]
      rw [hclose]
      simp only [Stack.push, List.cons.injEq] at h
      rw [← h.1, ← h.2]
    | false =>
      rw [grow_below hx] at h
      have hclose : closeLast (x :: xs) = closeLast xs := by simp [closeLast, hx]
      rw [hclose]
      exact ih h

end Scope

/-! ## What an instruction does to the stack -/

namespace Machine

variable {m m' : Machine α}

theorem stack_of_withSymbols {r : Except Error (Symbols α)} (h : m.withSymbols r = .ok m') :
    m'.stack = m.stack := by
  obtain ⟨symbols, -, rfl⟩ := map_ok h
  rfl

/-- A pop takes the top away; there is an entry below it. -/
theorem stack_of_pop (h : m.pop = .ok m') : m.stack.below = m'.stack.top :: m'.stack.below := by
  obtain ⟨r, hr, rfl⟩ := map_ok h
  unfold Stack.pop at hr
  split at hr
  · cases hr
  · next t rest hbelow =>
    cases hr
    exact hbelow

/-- A pop fails for the world alone. -/
theorem pop_failed {e : Error} (h : m.pop = .error e) :
    m.stack.below = [] ∧ e = .worldPop := by
  unfold pop Stack.pop at h
  split at h
  · next hbelow =>
    cases h
    exact ⟨hbelow, rfl⟩
  · cases h

theorem pop_of_below_nil (h : m.stack.below = []) : m.pop = .error .worldPop := by
  simp only [pop, Stack.pop, h]
  rfl

variable [Scalar α]

/-- Drawing changes the picture alone, in which it paints pixels. -/
theorem drawEdges_ok {o : Options} {g : Geometry α} {t : Matrix α}
    (h : m.drawEdges o g t = .ok m') :
    ∃ c ps, m' = { m with screen := (Raster.paintAll c (m.screen, 0) ps).1 } := by
  obtain ⟨r, hr, rfl⟩ := map_ok h
  obtain ⟨c, ps, rfl⟩ := Raster.drawSegments_ok hr
  exact ⟨c, ps, rfl⟩

theorem drawSolid_ok {o : Options} {solid : Except Error (Geometry α)}
    {material frame : Option Name} (h : (m.drawSolid o solid material frame).result = .ok m') :
    ∃ c ps, m' = { m with screen := (Raster.paintAll c (m.screen, 0) ps).1 } := by
  unfold drawSolid at h
  split at h
  · cases h
  · split at h
    · cases h
    · obtain ⟨t, -, hedges⟩ := bind_ok h
      exact drawEdges_ok hedges

theorem drawLine_ok {o : Options} {p0 p1 : Vec3 α} {frame0 frame1 : Option Name}
    (h : m.drawLine o p0 p1 frame0 frame1 = .ok m') :
    ∃ c ps, m' = { m with screen := (Raster.paintAll c (m.screen, 0) ps).1 } := by
  obtain ⟨m0, -, h⟩ := bind_ok h
  obtain ⟨m1, -, h⟩ := bind_ok h
  obtain ⟨r, hr, h⟩ := bind_ok h
  cases h
  obtain ⟨c, ps, rfl⟩ := Raster.drawSegments_ok hr
  exact ⟨c, ps, rfl⟩

variable [Angle α]

/-- A rotation reads its knob and builds a matrix. -/
theorem rotate_ok {axis : Axis} {degrees : α} {knob : Option Name}
    (h : m.rotate axis degrees knob = .ok m') :
    ∃ k t, m.factor knob = .ok k ∧ Matrix.rotation axis (radians (degrees * k)) = .ok t ∧
      m' = m.transform t := by
  obtain ⟨k, hk, h⟩ := bind_ok h
  obtain ⟨t, ht, h⟩ := bind_ok h
  cases h
  exact ⟨k, t, hk, ht, rfl⟩

variable [Shown α]

/-- An instruction other than a pop does to the stack what `grow` says. -/
theorem step_stack {o : Options} {op : Opcode α} (hop : op.isPop = false)
    (h : (m.step o op).result = .ok m') : m'.stack = Scope.grow m.stack ⟨op, m⟩ := by
  cases op with
  | pop => cases hop
  | push =>
    cases h
    rfl
  | move delta knob =>
    obtain ⟨k, hk, rfl⟩ := map_ok h
    simp only [Scope.grow, Executed.matrix?, hk]
    rfl
  | scale delta knob =>
    obtain ⟨k, hk, rfl⟩ := map_ok h
    simp only [Scope.grow, Executed.matrix?, hk]
    rfl
  | rotate axis degrees knob =>
    obtain ⟨k, t, hk, ht, rfl⟩ := rotate_ok h
    have hbuilt : Executed.matrix? ⟨.rotate axis degrees knob, m⟩ = some t := by
      simp only [Executed.matrix?, hk, ht, Except.toOption, Option.bind_some]
    simp only [Scope.grow, hbuilt]
    rfl
  | box c0 c1 material frame =>
    obtain ⟨c, ps, rfl⟩ := drawSolid_ok h
    rfl
  | sphere center radius material frame =>
    obtain ⟨c, ps, rfl⟩ := drawSolid_ok h
    rfl
  | torus center r0 r1 material frame =>
    obtain ⟨c, ps, rfl⟩ := drawSolid_ok h
    rfl
  | line p0 p1 material frame0 frame1 =>
    obtain ⟨c, ps, rfl⟩ := drawLine_ok h
    rfl
  | set target value => exact stack_of_withSymbols h
  | setKnobs value => exact stack_of_withSymbols h
  | saveCoordSystem name => exact stack_of_withSymbols h
  | _ =>
    cases h
    rfl

/-- A transform that succeeds has built a matrix; no other instruction builds one. -/
theorem step_matrix {o : Options} {op : Opcode α} (h : (m.step o op).result = .ok m') :
    (Executed.matrix? ⟨op, m⟩).isSome = op.isTransform := by
  cases op with
  | move delta knob =>
    obtain ⟨k, hk, -⟩ := map_ok h
    simp [Executed.matrix?, hk, Except.toOption, Opcode.isTransform]
  | scale delta knob =>
    obtain ⟨k, hk, -⟩ := map_ok h
    simp [Executed.matrix?, hk, Except.toOption, Opcode.isTransform]
  | rotate axis degrees knob =>
    obtain ⟨k, t, hk, ht, -⟩ := rotate_ok h
    simp [Executed.matrix?, hk, ht, Except.toOption, Opcode.isTransform]
  | _ => rfl

end Machine

end Wireframe
