import Mathlib.Data.List.Induction
import Wireframe.Proofs.Run.Position
import Wireframe.Proofs.Symbols
import Wireframe.Proofs.Timeline

/-!
# `Wireframe.Proofs.Run.LastWrite` — what a name stands for at a position of a run

A knob has the value that was written to it last, and a name of a coordinate system stands for the one
that was current when it was saved last: at an earlier instruction of the frame, in an earlier frame, at
the start of a frame for a knob that is in motion there, or else before the run. What happened to the
stack and the picture in between does not matter.

## Contents
- `latest`, `foldl_latest`: the last of several writes.
- `after_kinds`, `after_value`, `after_matrix`: the symbols after an instruction.
- `Moment`, `moments`: the writes that precede a position.
- `valueAt_eq`, `matrixAt_eq`: the symbols at a position, told from the program.
- `last_write_wins`: the symbols that a run finds.
-/

namespace Wireframe

open Document

variable {α ω β γ δ : Type}

/-! ## The last of several writes -/

/-- What the last item writes that writes anything, or else what was there first. -/
def latest (f : β → Option γ) (items : List β) (first : Option γ) : Option γ :=
  (items.reverse.findSome? f).or first

theorem latest_concat (f : β → Option γ) (items : List β) (item : β) (first : Option γ) :
    latest f (items ++ [item]) first = (f item).or (latest f items first) := by
  rw [latest, List.reverse_append, List.reverse_singleton, List.singleton_append, List.findSome?_cons]
  cases f item <;> rfl

theorem latest_none_or (f : β → Option γ) (items : List β) (first : Option γ) :
    (latest f items none).or first = latest f items first := by
  rw [latest, Option.or_none, latest]

/-- Items that write the same have the same last write. -/
theorem latest_congr {f g : β → Option γ} {items : List β} (h : ∀ item ∈ items, f item = g item)
    (first : Option γ) : latest f items first = latest g items first := by
  induction items using List.reverseRecOn with
  | nil => rfl
  | append_singleton items item ih =>
    rw [latest_concat, latest_concat, h item (by simp),
      ih fun item hitem => h item (List.mem_append_left _ hitem)]

/-- What is observed behind several steps is the last write, if each step writes or leaves it. -/
theorem foldl_latest {f : β → Option γ} {step : δ → β → δ} {P : δ → Prop} (observe : δ → Option γ)
    (hkeep : ∀ d item, P d → P (step d item))
    (hstep : ∀ d item, P d → observe (step d item) = (f item).or (observe d)) (items : List β) {d : δ}
    (hd : P d) :
    P (items.foldl step d) ∧ observe (items.foldl step d) = latest f items (observe d) := by
  induction items using List.reverseRecOn with
  | nil => exact ⟨hd, rfl⟩
  | append_singleton items item ih =>
    obtain ⟨hP, hobserve⟩ := ih
    rw [List.foldl_append, List.foldl_cons, List.foldl_nil, latest_concat, ← hobserve]
    exact ⟨hkeep _ _ hP, hstep _ _ hP⟩

/-! ## The symbols after an instruction -/

namespace Machine

variable [Scalar α] [Angle α] [Shown α] (o : Options) (m : Machine α) (op : Opcode α)

/-- The machine after an instruction has the symbols that the instruction writes, if it can. -/
theorem after_symbols :
    op.writeTo m.stack.top m.symbols = .ok (m.after o op).symbols ∨
      ∃ e, op.writeTo m.stack.top m.symbols = .error e ∧ (m.after o op).symbols = m.symbols := by
  unfold after
  cases hr : (m.step o op).result with
  | ok m' => exact .inl (step_ok hr).1
  | error e =>
    rcases step_symbols_of_error hr with h | h
    · exact .inl h
    · exact .inr ⟨e, h, rfl⟩

/-- Instructions never change what a name stands for. -/
theorem after_kinds : (m.after o op).symbols.kinds = m.symbols.kinds := by
  rcases after_symbols o m op with h | ⟨e, -, h⟩
  · exact Opcode.writeTo_kinds h
  · rw [h]

/-- A knob has the value that the instruction writes to it, if it writes one. -/
theorem after_value {x : Label} (hx : m.symbols.kind? x = some .value) :
    (m.after o op).symbols.values.find? x = (op.valueFor x).or (m.symbols.values.find? x) := by
  rcases after_symbols o m op with h | ⟨e, he, h⟩
  · exact Opcode.writeTo_value hx h
  · rw [h, Opcode.valueFor_of_error hx he]
    rfl

/-- A coordinate system is the current one where the instruction saves it under its name. -/
theorem after_matrix {x : Label} (hx : m.symbols.kind? x = some .matrix) :
    (m.after o op).symbols.matrices.find? x =
      (op.matrixFor x m.stack.top).or (m.symbols.matrices.find? x) := by
  rcases after_symbols o m op with h | ⟨e, he, h⟩
  · exact Opcode.writeTo_matrix h
  · rw [h, Opcode.matrixFor_of_error hx he]
    rfl

omit [Scalar α] [Angle α] [Shown α] in
/-- Setting a knob changes values alone. -/
theorem write_ok (entry : Label × α) :
    ∃ values, m.write entry = { m with symbols := { m.symbols with values := values } } := by
  unfold write
  split
  · next m' hset =>
    obtain ⟨s, hs, rfl⟩ := map_ok hset
    obtain ⟨k, -, -, rfl⟩ := m.symbols.set_eq_ok.mp hs
    exact ⟨_, rfl⟩
  · exact ⟨m.symbols.values, rfl⟩

end Machine

namespace Run

/-! ## The writes that precede a position -/

/-- When a run writes: where a frame starts, and at its instructions. -/
inductive Moment where
  | frame (k : Nat)
  | instruction (k i : Nat)

namespace Setup

variable (c : Setup α ω)

/-- The moments before a position, in order. -/
def moments (k i : Nat) : List Moment :=
  ((List.range k).flatMap fun j => .frame j :: (List.range c.ops.length).map (.instruction j)) ++
    .frame k :: (List.range i).map (.instruction k)

theorem moments_zero : c.moments 0 0 = [.frame 0] := rfl

theorem moments_succ (k i : Nat) : c.moments k (i + 1) = c.moments k i ++ [.instruction k i] := by
  rw [moments, moments, List.range_succ, List.map_append, List.append_assoc]
  rfl

theorem moments_next (k : Nat) : c.moments (k + 1) 0 = c.moments k c.ops.length ++ [.frame (k + 1)] := by
  rw [moments, moments, List.range_succ, List.flatMap_append, List.flatMap_singleton]
  rfl

/-- Instructions before a position belong to an earlier frame, or stand before it in the same one. -/
theorem mem_moments {j k i i' : Nat} (h : .instruction j i' ∈ c.moments k i) :
    (j < k ∧ i' ≤ c.ops.length) ∨ (j = k ∧ i' ≤ i) := by
  rcases List.mem_append.mp h with h | h
  · obtain ⟨l, hl, h⟩ := List.mem_flatMap.mp h
    rcases List.mem_cons.mp h with h | h
    · cases h
    · obtain ⟨p, hp, heq⟩ := List.mem_map.mp h
      cases heq
      exact .inl ⟨List.mem_range.mp hl, Nat.le_of_lt (List.mem_range.mp hp)⟩
  · rcases List.mem_cons.mp h with h | h
    · cases h
    · obtain ⟨p, hp, heq⟩ := List.mem_map.mp h
      cases heq
      exact .inr ⟨rfl, Nat.le_of_lt (List.mem_range.mp hp)⟩

/-- What is written to a knob: its value where a frame of an animation starts, if it is in motion there, and
    the values of the instructions that set it. -/
def valueWritten (x : Label) : Moment → Option α
  | .frame k =>
    if c.plan.settings.animated then
      latest (fun entry => if entry.1 == x then some entry.2 else none) (c.knobsOf k) none
    else none
  | .instruction _ i => c.ops[i]?.bind fun op => op.valueFor x

/-- What is saved under the name of a coordinate system: the one that is current in the machine before the
instruction. -/
def matrixSaved (machine : Nat → Nat → Machine α) (x : Label) : Moment → Option (Matrix α)
  | .frame _ => none
  | .instruction k i => c.ops[i]?.bind fun op => op.matrixFor x (machine k i).stack.top

variable [Scalar α] [Angle α] [Shown α]

/-! ## The symbols at a position -/

omit [Angle α] [Shown α] in
/-- Where a frame starts, only the values of knobs are other than before. -/
theorem enter_ok (k : Nat) (m : Machine α) :
    ∃ values, c.enter k m = ({ m with symbols := { m.symbols with values := values } } : Machine α).fresh := by
  unfold enter
  generalize c.knobsOf k = entries
  induction entries generalizing m with
  | nil => exact ⟨m.symbols.values, rfl⟩
  | cons entry rest ih =>
    obtain ⟨values, hwrite⟩ := m.write_ok entry
    rw [List.foldl_cons, hwrite]
    exact ih _

/-- Where a frame of an animation starts, a knob has the value that the frame gives it, if it gives one. -/
theorem enter_value {x : Label} {m : Machine α} (hanimated : c.plan.settings.animated = true)
    (hx : m.symbols.kind? x = some .value) (k : Nat) :
    (c.enter k m).symbols.values.find? x =
      (c.valueWritten x (.frame k)).or (m.symbols.values.find? x) := by
  have hkeep : ∀ (m : Machine α) entry, m.symbols.kind? x = some .value →
      (m.write entry).symbols.kind? x = some .value := by
    intro m entry hm
    obtain ⟨values, hwrite⟩ := m.write_ok entry
    rw [hwrite]
    exact hm
  have hstep : ∀ (m : Machine α) (entry : Label × α), m.symbols.kind? x = some .value →
      (m.write entry).symbols.values.find? x =
        (if entry.1 == x then some entry.2 else none).or (m.symbols.values.find? x) := by
    intro m entry hm
    have hvalue := Machine.after_value c.options m (.set entry.1.value entry.2) hm
    rwa [Opcode.valueFor, entry.1.value_denotes] at hvalue
  obtain ⟨-, hlatest⟩ := foldl_latest (fun m => m.symbols.values.find? x) hkeep hstep (c.knobsOf k) hx
  rw [valueWritten, if_pos hanimated, latest_none_or]
  exact hlatest

/-- What names stand for is the same at all positions of a run. -/
theorem machineAt_kinds (m : Machine α) {k i : Nat} (hk : k < c.passes) (hi : i ≤ c.ops.length) :
    (c.machineAt m k i).symbols.kinds = m.symbols.kinds := by
  have henter : ∀ (k : Nat) (m' : Machine α), (c.enter k m').symbols.kinds = m'.symbols.kinds := by
    intro k m'
    obtain ⟨values, h⟩ := c.enter_ok k m'
    rw [h]
    rfl
  apply c.position_induction (P := fun _ _ m' => m'.symbols.kinds = m.symbols.kinds) m _ _ _ hk hi
  · unfold start
    split
    · exact henter 0 m
    · rfl
  · intro k i op _ _ ih
    exact (Machine.after_kinds c.options _ op).trans ih
  · intro k _ ih
    exact (henter (k + 1) _).trans ih

theorem machineAt_kind (m : Machine α) {k i : Nat} (hk : k < c.passes) (hi : i ≤ c.ops.length)
    (x : Label) : (c.machineAt m k i).symbols.kind? x = m.symbols.kind? x :=
  congrArg (Dict.find? · x) (c.machineAt_kinds m hk hi)

omit [Scalar α] [Angle α] [Shown α] in
theorem op_position {i : Nat} {op : Opcode α} (hop : c.ops[i]? = some op) : i ≤ c.ops.length :=
  Nat.le_of_lt (List.getElem?_eq_some_iff.mp hop).1

/-- **Knobs at a position.** A knob has the value that was written to it last. -/
theorem machineAt_value (m : Machine α) {x : Label} (hx : m.symbols.kind? x = some .value) {k i : Nat}
    (hk : k < c.passes) (hi : i ≤ c.ops.length) :
    (c.machineAt m k i).symbols.values.find? x =
      latest (c.valueWritten x) (c.moments k i) (m.symbols.values.find? x) := by
  apply c.position_induction (P := fun k i m' => m'.symbols.values.find? x =
    latest (c.valueWritten x) (c.moments k i) (m.symbols.values.find? x)) m _ _ _ hk hi
  · rw [moments_zero, ← List.nil_append [Moment.frame 0], latest_concat, start]
    by_cases hanimated : c.plan.settings.animated = true
    · rw [if_pos hanimated]
      exact c.enter_value hanimated hx 0
    · rw [if_neg hanimated, valueWritten, if_neg hanimated]
      rfl
  · intro k i op hk hop ih
    rw [moments_succ, latest_concat, ← ih, valueWritten, hop, Option.bind_some]
    apply Machine.after_value
    rw [c.machineAt_kind m hk (c.op_position hop)]
    exact hx
  · intro k hk ih
    rw [moments_next, latest_concat, ← ih]
    apply c.enter_value (c.animated_of_passes hk)
    rw [c.machineAt_kind m (by omega) (Nat.le_refl _)]
    exact hx

/-- **Coordinate systems at a position.** A name stands for the coordinate system that was saved last under
    it. -/
theorem machineAt_matrix (m : Machine α) {x : Label} (hx : m.symbols.kind? x = some .matrix) {k i : Nat}
    (hk : k < c.passes) (hi : i ≤ c.ops.length) :
    (c.machineAt m k i).symbols.matrices.find? x =
      latest (c.matrixSaved (c.machineAt m) x) (c.moments k i) (m.symbols.matrices.find? x) := by
  apply c.position_induction (P := fun k i m' => m'.symbols.matrices.find? x =
    latest (c.matrixSaved (c.machineAt m) x) (c.moments k i) (m.symbols.matrices.find? x)) m _ _ _ hk hi
  · rw [moments_zero, ← List.nil_append [Moment.frame 0], latest_concat, start]
    split
    · obtain ⟨values, h⟩ := c.enter_ok 0 m
      show (c.enter 0 m).symbols.matrices.find? x = _
      rw [h]
      rfl
    · rfl
  · intro k i op hk hop ih
    rw [moments_succ, latest_concat, ← ih, matrixSaved, hop, Option.bind_some]
    apply Machine.after_matrix
    rw [c.machineAt_kind m hk (c.op_position hop)]
    exact hx
  · intro k hk ih
    obtain ⟨values, h⟩ := c.enter_ok (k + 1) (c.machineAt m k c.ops.length)
    rw [moments_next, latest_concat, ← ih, h]
    rfl

omit [Angle α] [Shown α] in
/-- A knob that the program does not set in motion over a frame is left alone where the frame starts. -/
theorem valueWritten_of_plan {default : Name} {x : Label} {k : Nat}
    (hplan : (Wireframe.plan default c.ops).2 = .ok c.plan)
    (hx : ∀ v ∈ varies c.ops, v.target.denotes x = true → ¬(v.first ≤ k ∧ k ≤ v.last)) :
    c.valueWritten x (.frame k) = none := by
  have hnone : ∀ entry ∈ c.knobsOf k, (if entry.1 == x then some entry.2 else none) = none := by
    intro entry hentry
    obtain ⟨v, hv, htarget, hrange⟩ := c.knobsOf_planned hplan hentry
    apply if_neg
    intro hentryx
    exact hx v hv (Value.denotes_iff.mpr ⟨_, htarget, hentryx⟩) hrange
  rw [valueWritten, latest_congr hnone]
  simp [latest]

/-! ## The symbols that a run finds -/

/-- **The last write wins.** At every position that a run gets to, a knob has the value that was written to
    it last, and a name of a coordinate system stands for the one that was current when it was saved last.
    A frame that gives a knob no value starts with the one that the frame before has left, as it does for
    every knob that the program does not set in motion there. -/
theorem last_write_wins {s : State α ω} {k i : Nat} (hk : k < c.passes) (hi : i ≤ c.ops.length)
    (h : (c.upTo k i s).result = .ok ()) :
    let initial := s.machine.symbols
    let machine := fun k i => (c.upTo k i s).state.machine
    (∀ name v, (machine k i).factor (some name) = .ok v ↔
      ∃ x, name.label? = some x ∧ initial.kind? x = some .value ∧
        latest (c.valueWritten x) (c.moments k i) (initial.values.find? x) = some v) ∧
    (∀ name t, (machine k i).frameMatrix (some name) = .ok t ↔
      ∃ x, name.label? = some x ∧ initial.kind? x = some .matrix ∧
        latest (c.matrixSaved machine x) (c.moments k i) (initial.matrices.find? x) = some t) ∧
    (∀ j, k = j + 1 → ∀ name, (∀ x, name.label? = some x → c.valueWritten x (.frame k) = none) →
      (machine k 0).factor (some name) = (machine j c.ops.length).factor (some name)) ∧
    ∀ default x, (Wireframe.plan default c.ops).2 = .ok c.plan →
      (∀ v ∈ varies c.ops, v.target.denotes x = true → ¬(v.first ≤ k ∧ k ≤ v.last)) →
      c.valueWritten x (.frame k) = none := by
  intro initial machine
  -- the machines of the run are those that are told from the program
  have hmachine : ∀ j i', ((j < k ∧ i' ≤ c.ops.length) ∨ (j = k ∧ i' ≤ i)) →
      machine j i' = c.machineAt s.machine j i' := by
    intro j i' hearlier
    have hj : j < c.passes := by omega
    exact c.upTo_ok hj (c.upTo_earlier hk h hearlier)
  have hhere : machine k i = c.machineAt s.machine k i := hmachine k i (.inr ⟨rfl, Nat.le_refl _⟩)
  refine ⟨?_, ?_, ?_, ?_⟩
  · intro name v
    show (machine k i).symbols.get name = .ok v ↔ _
    rw [Symbols.get_eq_ok, hhere]
    refine exists_congr fun x => and_congr_right fun _ => ?_
    rw [c.machineAt_kind s.machine hk hi]
    refine and_congr_right fun hx => ?_
    rw [c.machineAt_value s.machine hx hk hi]
  · intro name t
    show (machine k i).symbols.getMatrix name = .ok t ↔ _
    rw [Symbols.getMatrix_eq_ok, hhere]
    refine exists_congr fun x => and_congr_right fun _ => ?_
    rw [c.machineAt_kind s.machine hk hi]
    refine and_congr_right fun hx => ?_
    have hsaved : ∀ moment ∈ c.moments k i,
        c.matrixSaved (c.machineAt s.machine) x moment = c.matrixSaved machine x moment := by
      intro moment hmoment
      cases moment with
      | frame j => rfl
      | instruction j i' => rw [matrixSaved, matrixSaved, hmachine j i' (c.mem_moments hmoment)]
    rw [c.machineAt_matrix s.machine hx hk hi, latest_congr hsaved]
  · rintro j rfl name hname
    show (machine (j + 1) 0).symbols.get name = (machine j c.ops.length).symbols.get name
    have hj : j < c.passes := by omega
    rw [hmachine (j + 1) 0 (.inr ⟨rfl, Nat.zero_le _⟩),
      hmachine j c.ops.length (.inl ⟨Nat.lt_succ_self j, Nat.le_refl _⟩)]
    apply Symbols.get_congr
    · intro x
      rw [c.machineAt_kind s.machine hk (Nat.zero_le _), c.machineAt_kind s.machine hj (Nat.le_refl _)]
    · intro x hx hkind
      rw [c.machineAt_kind s.machine hk (Nat.zero_le _)] at hkind
      rw [c.machineAt_value s.machine hkind hk (Nat.zero_le _),
        c.machineAt_value s.machine hkind hj (Nat.le_refl _), moments_next, latest_concat, hname x hx]
      rfl
  · intro default x hplan hx
    exact c.valueWritten_of_plan hplan hx

end Setup

/-- An animation of two frames whose knob is in motion in the first one and is set at its end. -/
def Setup.swing : Setup Float Unit :=
  { Setup.spin with
    ops := [.set (.str "k") 2.0]
    plan := ⟨⟨2, .str "swing"⟩, some ⟨[⟨[(.text "k", 0.0)]⟩, ⟨[]⟩]⟩⟩ }

/-- What is set in the first frame lasts into the second one. -/
theorem last_write_wins_swing : 1 < Setup.swing.passes ∧ 0 ≤ Setup.swing.ops.length ∧
    (Setup.swing.upTo 1 0 .spin).result = .ok () ∧
    (Setup.swing.upTo 1 0 .spin).state.machine.factor (some (.str "k")) = .ok 2.0 := by
  have hpasses : 1 < Setup.swing.passes := by decide
  have hreached : (Setup.swing.upTo 1 0 .spin).result = .ok () := rfl
  obtain ⟨hvalue, -⟩ := Setup.swing.last_write_wins hpasses (Nat.zero_le _) hreached
  exact ⟨hpasses, Nat.zero_le _, hreached, (hvalue (.str "k") 2.0).mpr ⟨.text "k", rfl, rfl, rfl⟩⟩

end Run

end Wireframe
