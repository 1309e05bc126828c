import Wireframe.Proofs.Alike
import Wireframe.Proofs.Declaration
import Mathlib.Data.List.Perm.Basic

/-!
# `Wireframe.Proofs.Reordered` — tables whose names were declared in another order

What is found under a name does not depend on the order in which names were declared. Only the table of
knobs shows that order, and two such tables have the same rows. Instructions do the same in machines whose
symbols differ in their order, and leave them so.

## Contents
- `Symbols.Reordered`, `knobTable_reordered`: the same names in another order.
- `writeTo_reordered`, `Machine.Reordered`, `step_reordered`: instructions in such tables.
-/

namespace Wireframe

open Document

variable {α : Type}

/-! ## Names in another order -/

/-- Tables in which nothing is missing, with the same entries in another order. -/
structure Symbols.Reordered (s s' : Symbols α) : Prop where
  agree : Symbols.Agree (fun _ => True) (fun _ => True) s s'
  entries : s.kinds.entries.Perm s'.kinds.entries
  sound : s.Sound
  sound' : s'.Sound

namespace Symbols

variable {s s' : Symbols α}

theorem Reordered.values (h : Reordered s s') (x : Label) : s.values.find? x = s'.values.find? x :=
  h.agree.values x trivial

theorem Reordered.knobs (h : Reordered s s') : s.knobs.Perm s'.knobs := h.entries.filterMap _

/-! ### The table of knobs -/

variable [Shown α]

/-- The row of a knob. -/
def knobRow (s : Symbols α) (x : Label) : Except Error String := do
  let name ← columnText 12 x
  match s.values.find? x with
  | none => throw .withoutValue
  | some v => return name ++ padRight 8 "knob" ++ Shown.tabular v

theorem knobRows_eq (s : Symbols α) (names : List Label) : knobRows s names = names.mapM s.knobRow := by
  induction names with
  | nil => rfl
  | cons x rest ih =>
    rw [List.mapM_cons, ← ih]
    simp only [knobRows, knobRow]
    cases columnText 12 x with
    | error e => rfl
    | ok name => cases s.values.find? x <;> rfl

/-- The table of knobs with some rows. -/
def tableOf (rows : List String) : String :=
  "\n".intercalate ("Knob List:" :: (padRight 12 "Name" ++ padRight 8 "Type" ++ "Value") :: rows)

/-- Both tables of knobs can be shown, and have the same rows. -/
theorem knobTable_reordered (h : Reordered s s') : ∃ rows rows' : List String, rows.Perm rows' ∧
    s.knobTable = .ok (tableOf rows) ∧ s'.knobTable = .ok (tableOf rows') := by
  obtain ⟨text, htext⟩ := h.sound.knobTable_ok
  obtain ⟨rows, hrows, hmade⟩ := bind_ok htext
  cases hmade
  have hsame : s.knobRow = s'.knobRow := by
    funext x
    rw [knobRow, knobRow, h.values x]
  have hlisted := hrows
  rw [knobRows_eq, hsame] at hlisted
  obtain ⟨rows', hrows', hperm⟩ := mapM_perm h.knobs hlisted
  rw [← knobRows_eq] at hrows'
  refine ⟨rows, rows', hperm, htext, ?_⟩
  rw [knobTable, hrows']
  rfl

end Symbols

/-! ## Instructions -/

namespace Opcode

variable {s s' t t' : Symbols α} {top : Matrix α} {op : Opcode α}

/-- What is written in both tables leaves the names as they are, and nothing missing. -/
theorem reordered_of_agree (h : s.Reordered s') (ht : op.writeTo top s = .ok t)
    (ht' : op.writeTo top s' = .ok t')
    (hagree : Symbols.Agree (fun _ => True) (fun _ => True) t t') : t.Reordered t' where
  agree := hagree
  entries := by
    rw [writeTo_kinds ht, writeTo_kinds ht']
    exact h.entries
  sound := h.sound.writeTo ht
  sound' := h.sound'.writeTo ht'

/-- An instruction writes the same in both tables, or fails in the same way. -/
theorem writeTo_agree (h : s.Reordered s') (top : Matrix α) (op : Opcode α) :
    (∃ e, op.writeTo top s = .error e ∧ op.writeTo top s' = .error e) ∨
      ∃ t t', op.writeTo top s = .ok t ∧ op.writeTo top s' = .ok t' ∧
        Symbols.Agree (fun _ => True) (fun _ => True) t t' := by
  cases op with
  | set target value =>
    obtain ⟨hfail, hdone⟩ := Symbols.set_agree h.agree target value
    cases ht : s.set target value with
    | error e => exact .inl ⟨e, ht, hfail e ht⟩
    | ok t =>
      obtain ⟨t', ht', hagree⟩ := hdone t ht
      exact .inr ⟨t, t', ht, ht', hagree.mono (fun _ _ => .inl trivial) fun _ hx => hx⟩
  | saveCoordSystem name =>
    obtain ⟨hfail, hdone⟩ := Symbols.setMatrix_agree h.agree name top
    cases ht : s.setMatrix name top with
    | error e => exact .inl ⟨e, ht, hfail e ht⟩
    | ok t =>
      obtain ⟨t', ht', hagree⟩ := hdone t ht
      exact .inr ⟨t, t', ht, ht', hagree.mono (fun _ hx => hx) fun _ _ => .inl trivial⟩
  | setKnobs value =>
    -- every knob gets the value, whatever their order
    refine .inr ⟨_, _, s.setAll_eq value, s'.setAll_eq value, h.agree.kinds, fun x _ => ?_,
      h.agree.matrices⟩
    have hany : s.knobs.any (· == x) = s'.knobs.any (· == x) := h.knobs.any_eq
    rw [Dict.find_foldl_insert, Dict.find_foldl_insert, hany, h.values x]
  | _ => exact .inr ⟨s, s', rfl, rfl, h.agree⟩

/-- What instructions write keeps the tables in step. -/
theorem writeTo_reordered (h : s.Reordered s') (top : Matrix α) (op : Opcode α) :
    (∃ e, op.writeTo top s = .error e ∧ op.writeTo top s' = .error e) ∨
      ∃ t t', op.writeTo top s = .ok t ∧ op.writeTo top s' = .ok t' ∧ t.Reordered t' := by
  rcases writeTo_agree h top op with hfail | ⟨t, t', ht, ht', hagree⟩
  · exact .inl hfail
  · exact .inr ⟨t, t', ht, ht', reordered_of_agree h ht ht' hagree⟩

end Opcode

namespace Machine

/-- Machines with the same stack and the same picture, whose symbols differ in their order. -/
structure Reordered (m n : Machine α) : Prop where
  stack : m.stack = n.stack
  screen : m.screen = n.screen
  symbols : m.symbols.Reordered n.symbols

variable {m n : Machine α}

theorem Reordered.alike (h : Reordered m n) : Alike (fun _ => True) (fun _ => True) m n :=
  ⟨h.stack, h.screen, h.symbols.agree⟩

/-- Other symbols for both machines, or for none. -/
theorem withSymbols_reordered (h : Reordered m n) {r r' : Except Error (Symbols α)}
    (hr : (∃ e, r = .error e ∧ r' = .error e) ∨
      ∃ t t', r = .ok t ∧ r' = .ok t' ∧ t.Reordered t') :
    (∃ e, m.withSymbols r = .error e ∧ n.withSymbols r' = .error e) ∨
      ∃ m' n', m.withSymbols r = .ok m' ∧ n.withSymbols r' = .ok n' ∧ Reordered m' n' := by
  rcases hr with ⟨e, rfl, rfl⟩ | ⟨t, t', rfl, rfl, ht⟩
  · exact .inl ⟨e, rfl, rfl⟩
  · exact .inr ⟨_, _, rfl, rfl, h.stack, h.screen, ht⟩

/-- A knob is set in both machines, or in none. -/
theorem set_reordered (h : Reordered m n) (target : Name) (value : α) :
    (∃ e, m.set target value = .error e ∧ n.set target value = .error e) ∨
      ∃ m' n', m.set target value = .ok m' ∧ n.set target value = .ok n' ∧ Reordered m' n' :=
  withSymbols_reordered h (Opcode.writeTo_reordered h.symbols m.stack.top (.set target value))

variable [Scalar α] [Angle α] [Shown α] {o : Options}

omit [Angle α] [Shown α] in
/-- The same materials are passed over. -/
theorem passedOver_reordered (h : Reordered m n) (solid : Except Error (Geometry α))
    (material frame : Option Name) :
    (m.drawSolid o solid material frame).passedOver = (n.drawSolid o solid material frame).passedOver := by
  have hpass : m.passOver material = n.passOver material := by
    cases material with
    | none => rfl
    | some name =>
      show (m.symbols.lookup name).map _ = (n.symbols.lookup name).map _
      rw [Symbols.lookup_congr h.symbols.agree.kinds]
  unfold drawSolid
  rw [hpass]
  cases solid with
  | error e => rfl
  | ok g => cases n.passOver material <;> rfl

/-- **One instruction in machines whose symbols differ in their order.** It passes over the same materials,
    and it fails in both in the same way, or leaves them differing in the order of their symbols alone. -/
theorem step_reordered (h : Reordered m n) (op : Opcode α) :
    (m.step o op).passedOver = (n.step o op).passedOver ∧
      ((∃ e, (m.step o op).result = .error e ∧ (n.step o op).result = .error e) ∨
        ∃ m' n', (m.step o op).result = .ok m' ∧ (n.step o op).result = .ok n' ∧ Reordered m' n') := by
  constructor
  · cases op with
    | box c0 c1 material frame => exact passedOver_reordered h _ material frame
    | sphere center radius material frame => exact passedOver_reordered h _ material frame
    | torus center r0 r1 material frame => exact passedOver_reordered h _ material frame
    | _ => rfl
  · by_cases hwrites : op.form ≠ .set ∧ op.form ≠ .setKnobs ∧ op.form ≠ .saveCoordSystem
    · obtain ⟨hset, hsetKnobs, hsave⟩ := hwrites
      obtain ⟨hfail, hdone⟩ := step_alike_of_quiet (o := o) h.alike hset hsetKnobs hsave
        (fun _ _ _ _ => trivial) fun _ _ _ _ => trivial
      cases hr : (m.step o op).result with
      | error e => exact .inl ⟨e, rfl, hfail e hr⟩
      | ok m' =>
        obtain ⟨n', hn', halike⟩ := hdone m' hr
        refine .inr ⟨m', n', rfl, hn', halike.stack, halike.screen, ?_⟩
        exact Opcode.reordered_of_agree h.symbols (step_ok hr).1 (h.stack ▸ (step_ok hn').1) halike.symbols
    · -- what is written is the same, with the same stack
      have hwritten := Opcode.writeTo_reordered h.symbols m.stack.top op
      have hwrite : (∃ e, m.withSymbols (op.writeTo m.stack.top m.symbols) = .error e ∧
            n.withSymbols (op.writeTo n.stack.top n.symbols) = .error e) ∨
          ∃ m' n', m.withSymbols (op.writeTo m.stack.top m.symbols) = .ok m' ∧
            n.withSymbols (op.writeTo n.stack.top n.symbols) = .ok n' ∧ Reordered m' n' :=
        withSymbols_reordered h (h.stack ▸ hwritten)
      cases op with
      | set target value => exact hwrite
      | setKnobs value => exact hwrite
      | saveCoordSystem name => exact hwrite
      | _ => exact absurd ⟨nofun, nofun, nofun⟩ hwrites

end Machine

end Wireframe
