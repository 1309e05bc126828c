import Wireframe.Stack
import Wireframe.Proofs.InPlace
import Wireframe.Proofs.Tensor

/-!
# `Wireframe.Proofs.Stack` — a stack under any calls

A program keeps its coordinate systems in a list of arrays, the world first, and works on the list write by
write. Nothing about such a list says that it has a last array, or that its arrays are 4×4. Whatever is
called, with arrays of any shape and failed calls among them, the list stays that of a stack: each call
checks its argument before it writes.

## Contents
- `exists_toTensor`, `product_toTensor`, `shape_of_product`: the arrays of shape (4, 4), and products of a
  matrix with an array of any shape.
- `Operation`, `Answer`, `perform`, `performAll`: what can be asked of a stack, and histories.
- `Operation.inPlace`, `arraysAfter`: the same on a list of arrays, write by write.
- `inPlace_arrays`, `arraysAfter_eq`: the list is that of the stack.
- `perform_failed`, `replaceTop_matrix`, `replaceTop_refused`, `apply_matrix`, `apply_refused`: what a call
  does.
- `Calls`, `any_calls`: the stack after any calls.
-/

namespace Wireframe

open InPlace

variable {α : Type}

/-! ## Arrays of shape (4, 4) -/

/-- A rectangular array of shape (4, 4) is a matrix. -/
theorem Tensor.Full.exists_toTensor {t : Tensor α} (ht : t.Full) (hshape : t.shape = [4, 4]) :
    ∃ m : Matrix α, t = m.toTensor := by
  obtain ⟨rows, hlength, hrows, rfl⟩ := ht.exists_rows hshape
  have hwidth : ∀ r ∈ rows, ∃ v : Vec4 α, r = v.toList := by
    intro r hr
    obtain ⟨x, y, z, w, rfl⟩ := List.length_eq_four.mp (hrows r hr)
    exact ⟨⟨x, y, z, w⟩, rfl⟩
  obtain ⟨r0, r1, r2, r3, rfl⟩ := List.length_eq_four.mp hlength
  obtain ⟨v0, rfl⟩ := hwidth r0 (by simp)
  obtain ⟨v1, rfl⟩ := hwidth r1 (by simp)
  obtain ⟨v2, rfl⟩ := hwidth r2 (by simp)
  obtain ⟨v3, rfl⟩ := hwidth r3 (by simp)
  exact ⟨⟨v0, v1, v2, v3⟩, rfl⟩

namespace Matrix

theorem ofTensor_of_shape {t : Tensor α} (h : t.shape ≠ [4, 4]) :
    ofTensor? t = .error (.notTransform t.shape) := by
  unfold ofTensor?
  split
  · next hshape _ => exact absurd hshape h
  · rfl

variable [Scalar α]

/-- The product of two matrices as arrays is their product. -/
theorem product_toTensor (a b : Matrix α) : a.toTensor.product b.toTensor = .ok (a.mul b).toTensor := rfl

/-- A product of a matrix with an array has the shape of the array. -/
theorem shape_of_product {a : Matrix α} {t p : Tensor α} (h : a.toTensor.product t = .ok p) :
    p.shape = t.shape := by
  obtain ⟨k, n, m, left, right, outer, hleft, hright, houter, hp⟩ := Tensor.product_shape h
  cases hleft
  cases houter
  by_cases hrank : t.rank = 1
  · -- a vector counts as a column, and the product loses that axis again
    obtain ⟨k, hk⟩ := List.length_eq_one_iff.mp hrank
    rw [Tensor.asRight_vector hk] at hright
    cases hright
    rw [hp, hk, hrank]
    rfl
  · have hcolumns : (t.rank == 1) = false := beq_false_of_ne hrank
    rw [Tensor.asRight_of_rank hrank, List.reverse_eq_iff] at hright
    rw [hp, hright, Tensor.resultShape, hcolumns]
    simp [toTensor, Tensor.rank]

/-- The arrays that make a product of shape (4, 4) are those of that shape. -/
theorem product_fits (a : Matrix α) {t : Tensor α} (ht : t.Full) :
    (∃ p, a.toTensor.product t = .ok p ∧ p.shape = [4, 4]) ↔ t.shape = [4, 4] := by
  constructor
  · rintro ⟨p, hp, hshape⟩
    rw [← shape_of_product hp, hshape]
  · intro hshape
    obtain ⟨m, rfl⟩ := ht.exists_toTensor hshape
    exact ⟨_, a.product_toTensor m, rfl⟩

end Matrix

namespace Stack

/-! ## Calls -/

/-- What can be asked of a stack. Arrays have all their entries, as those from documents do, and any shape;
they were read before, and that may have failed. -/
inductive Operation (α : Type) where
  | push
  | pop
  | peek
  | replaceTop (array : Except Error { t : Tensor α // t.Full })
  | apply (array : Except Error { t : Tensor α // t.Full })
  | reset

/-- What a call that succeeds answers. -/
inductive Answer (α : Type) where
  | done
  | entry (t : Tensor α)

variable [Scalar α]

/-- The stack after a call, and the answer. -/
def perform (s : Stack α) : Operation α → Stack α × Except Error (Answer α)
  | .push => (s.push, .ok .done)
  | .pop =>
    match s.pop with
    | .ok (m, s') => (s', .ok (.entry m.toTensor))
    | .error e => (s, .error e)
  | .peek => (s, .ok (.entry s.top.toTensor))
  | .replaceTop array => changed s .done (array >>= fun t => s.replaceTop t)
  | .apply array => changed s .done (array >>= fun t => s.apply t)
  | .reset => (world, .ok .done)

/-- The stack after a history of calls, whether they fail or not. -/
def performAll (s : Stack α) (ops : List (Operation α)) : Stack α := ops.foldl (fun s op => (s.perform op).1) s

/-! ## Calls write by write -/

omit [Scalar α] in
/-- The last array of a list. -/
def last (held : List (Tensor α)) : Except Error (Tensor α) :=
  match held.getLast? with
  | some t => .ok t
  | none => .error .arrayIndex

omit [Scalar α] in
/-- Writes an array in place of the last one. -/
def replaceTopInPlace (array : Except Error (Tensor α)) : InPlace (List (Tensor α)) (Answer α) := do
  let t ← look fun _ => array
  look fun _ => if t.shape = [4, 4] then .ok () else .error (.notTransform t.shape)
  let _ ← look last
  modify fun held => held.dropLast ++ [t]
  return .done

/-- A call write by write. -/
def Operation.inPlace : Operation α → InPlace (List (Tensor α)) (Answer α)
  | .push => do
    let top ← look last
    modify fun held => held ++ [top]
    return .done
  | .pop => do
    look fun held => if held.length ≤ 1 then .error .worldPop else .ok ()
    let top ← look last
    modify List.dropLast
    return .entry top
  | .peek => do
    let top ← look last
    return .entry top
  | .replaceTop array => replaceTopInPlace (array.map Subtype.val)
  | .apply array => do
    let top ← look last
    let t ← look fun _ => array.map Subtype.val
    replaceTopInPlace (top.product t)
  | .reset => do
    modify fun _ => [Matrix.identity.toTensor]
    return .done

/-- The list after a call, whether it fails or not. -/
def arraysThen (held : List (Tensor α)) (op : Operation α) : List (Tensor α) :=
  match op.inPlace held with
  | .ok _ held' => held'
  | .error _ held' => held'

/-- The list after a history of calls. -/
def arraysAfter (ops : List (Operation α)) : List (Tensor α) :=
  ops.foldl arraysThen [Matrix.identity.toTensor]

omit [Scalar α] in
/-- The entries of a stack as arrays. -/
def arrays (s : Stack α) : List (Tensor α) := s.entries.map Matrix.toTensor

omit [Scalar α] in
/-- What a call does to a stack, as what it does to the arrays. -/
def onArrays (r : Stack α × Except Error (Answer α)) : EStateM.Result Error (List (Tensor α)) (Answer α) :=
  match r with
  | (s, .ok a) => .ok a s.arrays
  | (s, .error e) => .error e s.arrays

section

omit [Scalar α]

variable (s : Stack α)

theorem entries_eq : s.entries = s.below.reverse ++ [s.top] := List.reverse_cons

theorem arrays_eq : s.arrays = s.below.reverse.map Matrix.toTensor ++ [s.top.toTensor] := by
  rw [arrays, entries_eq, List.map_append, List.map_singleton]

theorem last_arrays : last s.arrays = .ok s.top.toTensor := by
  rw [last, arrays_eq, List.getLast?_concat]

theorem dropLast_arrays : s.arrays.dropLast = s.below.reverse.map Matrix.toTensor := by
  rw [arrays_eq, List.dropLast_concat]

theorem length_arrays : s.arrays.length = s.below.length + 1 := by
  rw [arrays, List.length_map, entries, List.length_reverse, List.length_cons]

/-- A matrix in place of the top, in the list and in the stack. -/
theorem arrays_withTop (m : Matrix α) :
    s.arrays.dropLast ++ [m.toTensor] = ({ s with top := m } : Stack α).arrays := by
  rw [dropLast_arrays, arrays_eq]

/-- To write an array in place of the last one is to replace the top. -/
theorem replaceTopInPlace_arrays {array : Except Error (Tensor α)}
    (harray : ∀ t, array = .ok t → t.shape = [4, 4] → ∃ m : Matrix α, t = m.toTensor) :
    replaceTopInPlace array s.arrays = onArrays (changed s .done (array >>= s.replaceTop)) := by
  cases array with
  | error e => rfl
  | ok t =>
    rw [replaceTopInPlace, look_bind_value]
    by_cases hshape : t.shape = [4, 4]
    · obtain ⟨m, rfl⟩ := harray t rfl hshape
      rw [look_bind_ok (s := s.arrays) (if_pos hshape), look_bind_ok s.last_arrays, modify_bind,
        arrays_withTop]
      rfl
    · rw [look_bind_error (s := s.arrays) (if_neg hshape)]
      simp only [bind, Except.bind, replaceTop, Matrix.ofTensor_of_shape hshape, Except.map, changed, onArrays]

end

/-- A call does the same to the list as to the stack. -/
theorem inPlace_arrays (s : Stack α) (op : Operation α) : op.inPlace s.arrays = onArrays (s.perform op) := by
  cases op with
  | push =>
    rw [Operation.inPlace, look_bind_ok s.last_arrays, modify_bind, perform, onArrays, arrays_eq s.push]
    simp only [push, List.reverse_cons, List.map_append, List.map_singleton, ← arrays_eq]
    rfl
  | pop =>
    obtain ⟨top, below⟩ := s
    cases below with
    | nil => rfl
    | cons m rest =>
      have hlength : ¬ (Stack.mk top (m :: rest)).arrays.length ≤ 1 := by
        rw [length_arrays, List.length_cons]
        omega
      have hrest : (Stack.mk top (m :: rest)).arrays.dropLast = (Stack.mk m rest).arrays := by
        rw [dropLast_arrays, arrays_eq, List.reverse_cons, List.map_append, List.map_singleton]
      rw [Operation.inPlace, look_bind_ok (s := (Stack.mk top (m :: rest)).arrays) (if_neg hlength),
        look_bind_ok (last_arrays _), modify_bind, hrest]
      rfl
  | peek =>
    rw [Operation.inPlace, look_bind_ok s.last_arrays]
    rfl
  | reset => rfl
  | replaceTop array =>
    rw [Operation.inPlace, replaceTopInPlace_arrays]
    · cases array <;> rfl
    · intro t ht hshape
      obtain ⟨full, rfl, rfl⟩ := map_ok ht
      exact full.2.exists_toTensor hshape
  | apply array =>
    rw [Operation.inPlace, look_bind_ok s.last_arrays]
    cases array with
    | error e => rfl
    | ok t =>
      rw [look_bind_ok (s := s.arrays) (b := t.1) rfl, replaceTopInPlace_arrays]
      · rfl
      · intro p hp hshape
        rw [Matrix.shape_of_product hp] at hshape
        obtain ⟨m, hm⟩ := t.2.exists_toTensor hshape
        rw [hm, Matrix.product_toTensor] at hp
        exact ⟨_, (Except.ok.inj hp).symm⟩

/-! ## Histories -/

theorem arraysThen_eq (s : Stack α) (op : Operation α) : arraysThen s.arrays op = (s.perform op).1.arrays := by
  rw [arraysThen, inPlace_arrays]
  rcases s.perform op with ⟨s', _ | _⟩ <;> rfl

/-- After any calls the list is that of the stack. -/
theorem arraysAfter_eq (ops : List (Operation α)) : arraysAfter ops = (performAll world ops).arrays := by
  have hall : ∀ s : Stack α, ops.foldl arraysThen s.arrays = (s.performAll ops).arrays := by
    induction ops with
    | nil => exact fun _ => rfl
    | cons op rest ih =>
      intro s
      rw [List.foldl_cons, arraysThen_eq, ih]
      rfl
  exact hall world

/-! ## What a call does -/

variable (s : Stack α)

/-- A call that fails changes nothing. -/
theorem perform_failed {op : Operation α} {e : Error} (h : (s.perform op).2 = .error e) :
    (s.perform op).1 = s := by
  cases op with
  | push => cases h
  | peek => cases h
  | reset => cases h
  | replaceTop array => exact changed_failed h
  | apply array => exact changed_failed h
  | pop =>
    rw [perform] at h ⊢
    cases hpop : s.pop with
    | ok r =>
      rw [hpop] at h
      cases h
    | error e => rfl

omit [Scalar α] in
theorem replaceTop_matrix (m : Matrix α) : s.replaceTop m.toTensor = .ok { s with top := m } := rfl

omit [Scalar α] in
theorem replaceTop_refused {t : Tensor α} (h : t.shape ≠ [4, 4]) :
    s.replaceTop t = .error (.notTransform t.shape) := by
  rw [replaceTop, Matrix.ofTensor_of_shape h]
  rfl

theorem apply_matrix (m : Matrix α) : s.apply m.toTensor = .ok { s with top := s.top.mul m } := rfl

/-- An array that does not make a product of shape (4, 4) is refused. -/
theorem apply_refused {t : Tensor α} (h : ∀ p, s.top.toTensor.product t = .ok p → p.shape ≠ [4, 4]) :
    ∃ e : Error, e.kind = .value ∧ s.apply t = .error e := by
  unfold Stack.apply
  cases hp : s.top.toTensor.product t with
  | error e =>
    obtain rfl := Tensor.product_refused hp
    exact ⟨.arrayShape, rfl, rfl⟩
  | ok p => exact ⟨.notTransform p.shape, rfl, s.replaceTop_refused (h p hp)⟩

/-! ## Any calls -/

/-- The answer of a call, and the entries after it. -/
def outcome (op : Operation α) : Except Error (Answer α) × List (Matrix α) :=
  ((s.perform op).2, (s.perform op).1.entries)

/-- A call that does not go through: the failure, and the entries that are still there. -/
def Refuses (op : Operation α) (kind : Kind) : Prop :=
  ∃ e : Error, e.kind = kind ∧ s.outcome op = (.error e, s.entries)

/-- What calls do to a stack that has a `top` on `lower` entries. -/
structure Calls (lower : List (Matrix α)) (top : Matrix α) : Prop where
  entries : s.entries = lower ++ [top]
  depth : s.depth = lower.length + 1
  push : s.outcome .push = (.ok .done, lower ++ [top, top])
  pop : lower ≠ [] → s.outcome .pop = (.ok (.entry top.toTensor), lower)
  world : lower = [] → s.Refuses .pop .emptyStack
  peek : s.outcome .peek = (.ok (.entry top.toTensor), s.entries)
  reset : s.outcome .reset = (.ok .done, [.identity])
  /-- An array of shape (4, 4) is a matrix, and replaces the top. -/
  replaceTop : ∀ t, t.1.shape = [4, 4] →
    ∃ m : Matrix α, t.1 = m.toTensor ∧ s.outcome (.replaceTop (.ok t)) = (.ok .done, lower ++ [m])
  /-- An array whose product with the top has shape (4, 4) is a matrix, and the product replaces the top. -/
  apply : ∀ t p, top.toTensor.product t.1 = .ok p → p.shape = [4, 4] →
    ∃ m : Matrix α, t.1 = m.toTensor ∧ p = (top.mul m).toTensor ∧
      s.outcome (.apply (.ok t)) = (.ok .done, lower ++ [top.mul m])
  fits : ∀ t : { t : Tensor α // t.Full },
    (∃ p, top.toTensor.product t.1 = .ok p ∧ p.shape = [4, 4]) ↔ t.1.shape = [4, 4]
  /-- Every other array is refused, be it a number, a vector, a matrix or a pile of matrices. -/
  misshapen : ∀ t, t.1.shape ≠ [4, 4] → s.Refuses (.replaceTop (.ok t)) .value
  unfit : ∀ t, (∀ p, top.toTensor.product t.1 = .ok p → p.shape ≠ [4, 4]) →
    s.Refuses (.apply (.ok t)) .value
  unread : ∀ e : Error, s.Refuses (.replaceTop (.error e)) e.kind ∧ s.Refuses (.apply (.error e)) e.kind
  failed : ∀ op e, (s.perform op).2 = .error e → (s.perform op).1 = s

omit [Scalar α] in
theorem changed_outcome (r : Except Error (Stack α)) :
    ((changed s (.done : Answer α) r).2, (changed s (.done : Answer α) r).1.entries) =
      match r with
      | .ok s' => (.ok .done, s'.entries)
      | .error e => (.error e, s.entries) := by
  cases r <;> rfl

theorem outcome_replaceTop (t : { t : Tensor α // t.Full }) : s.outcome (.replaceTop (.ok t)) =
    match s.replaceTop t.1 with
    | .ok s' => (.ok .done, s'.entries)
    | .error e => (.error e, s.entries) := s.changed_outcome (s.replaceTop t.1)

theorem outcome_apply (t : { t : Tensor α // t.Full }) : s.outcome (.apply (.ok t)) =
    match s.apply t.1 with
    | .ok s' => (.ok .done, s'.entries)
    | .error e => (.error e, s.entries) := s.changed_outcome (s.apply t.1)

theorem calls : s.Calls s.below.reverse s.top where
  entries := s.entries_eq
  depth := by rw [depth, List.length_reverse]
  push := by
    rw [outcome, perform, entries_eq, push, List.reverse_cons, List.append_assoc]
    rfl
  pop := by
    intro hlower
    obtain ⟨top, below⟩ := s
    cases below with
    | nil => exact absurd rfl hlower
    | cons m rest => rfl
  world := by
    intro hlower
    obtain ⟨top, below⟩ := s
    obtain rfl := List.reverse_eq_nil_iff.mp hlower
    exact ⟨.worldPop, rfl, rfl⟩
  peek := rfl
  reset := rfl
  replaceTop := by
    intro t hshape
    obtain ⟨m, hm⟩ := t.2.exists_toTensor hshape
    refine ⟨m, hm, ?_⟩
    rw [outcome_replaceTop, hm, replaceTop_matrix]
    exact congrArg _ (entries_eq _)
  apply := by
    intro t p hp hshape
    rw [Matrix.shape_of_product hp] at hshape
    obtain ⟨m, hm⟩ := t.2.exists_toTensor hshape
    rw [hm, Matrix.product_toTensor] at hp
    refine ⟨m, hm, (Except.ok.inj hp).symm, ?_⟩
    rw [outcome_apply, hm, apply_matrix]
    exact congrArg _ (entries_eq _)
  fits t := s.top.product_fits t.2
  misshapen := by
    intro t hshape
    refine ⟨.notTransform t.1.shape, rfl, ?_⟩
    rw [outcome_replaceTop, s.replaceTop_refused hshape]
  unfit := by
    intro t hproduct
    obtain ⟨e, hkind, he⟩ := s.apply_refused hproduct
    refine ⟨e, hkind, ?_⟩
    rw [outcome_apply, he]
  unread e := ⟨⟨e, rfl, rfl⟩, ⟨e, rfl, rfl⟩⟩
  failed _ _ h := s.perform_failed h

/-- **A stack under any calls.** After any calls, with arrays of any shape and failed calls among them, the
list is that of a stack: matrices, at least one. Each further call does to the list what it does to the
stack, and one that fails leaves the list as it was. -/
theorem any_calls (ops : List (Operation α)) :
    (∃ lower top, arraysAfter ops = (lower ++ [top]).map Matrix.toTensor ∧
      (performAll world ops).Calls lower top) ∧
    (∀ op : Operation α, op.inPlace (arraysAfter ops) = onArrays ((performAll world ops).perform op)) ∧
    (∀ (op : Operation α) (e : Error) held, op.inPlace (arraysAfter ops) = .error e held →
      held = arraysAfter ops) := by
  rw [arraysAfter_eq]
  generalize performAll world ops = s
  refine ⟨⟨_, _, congrArg _ s.entries_eq, s.calls⟩, s.inPlace_arrays, fun op e held h => ?_⟩
  rw [inPlace_arrays] at h
  rcases hcall : s.perform op with ⟨s', _ | _⟩
  · next e' =>
    have hs' : (s.perform op).1 = s := s.perform_failed (e := e') (by rw [hcall])
    rw [hcall] at h hs'
    cases h
    exact congrArg arrays hs'
  · rw [hcall] at h
    cases h

/-- A vector makes a vector, which is refused, and the world stays. -/
example : arraysAfter [.push, .apply (.ok ⟨⟨[4], [1.0, 2.0, 3.0, 4.0]⟩, rfl⟩), .pop, .pop] =
    [(Matrix.identity : Matrix Float).toTensor] := rfl

end Stack

end Wireframe
