import Wireframe.Proofs.Dict
import Wireframe.Proofs.Document.Labels
import Wireframe.Proofs.Scope

/-!
# `Wireframe.Proofs.Symbols` — what the table of symbols holds

A name is resolved when it is a key, is declared with the kind that is asked for and has a content. What
a program writes never changes the kinds; values and matrices change under the names that are written,
up to the equality of keys, and nowhere else.

## Contents
- `Value.denotes`: the key that a name is.
- `get_eq_ok`, `getMatrix_eq_ok`, `set_eq_ok`, `setAll_eq`, `setMatrix_eq_ok`: when names are resolved.
- `get_congr`, `getMatrix_congr`: on what that depends.
- `Filled`, `tableResult_congr`: tables that can be shown.
- `knob?`, `target?`, `material?`, `systems`, `saved?`: the names of an instruction.
- `Opcode.writeTo`, `step_ok`: what an instruction makes of the table.
- `writeTo_kinds`, `writeTo_value`, `writeTo_matrix`, `writeTo_filled`: what the table holds then.
-/

namespace Wireframe

open Document

variable {α : Type}

/-- Whether a name is a key of the table, up to the equality of keys. -/
def Document.Value.denotes (name : Name) (x : Label) : Bool := name.label?.any (· == x)

theorem Document.Value.denotes_of_label {name : Name} {k : Label} (h : name.label? = some k) (x : Label) :
    name.denotes x = (k == x) := by
  rw [Value.denotes, h, Option.any_some]

theorem Document.Value.denotes_iff {name : Name} {x : Label} :
    name.denotes x = true ↔ ∃ k, name.label? = some k ∧ (k == x) = true := Option.any_eq_true _ _

/-- A label, as a value, is the key that it is. -/
theorem Document.Label.value_denotes (k x : Label) : k.value.denotes x = (k == x) :=
  Value.denotes_of_label k.label_value x

theorem nameKey_eq_ok {name : Name} {k : Label} : nameKey name = .ok k ↔ name.label? = some k := by
  unfold nameKey
  constructor
  · intro h
    split at h
    · next a ha =>
      cases h
      exact ha
    · cases h
  · intro h
    rw [h]

namespace Symbols

variable (s : Symbols α)

/-! ## When names are resolved -/

theorem kind_congr {x y : Label} (h : (x == y) = true) : s.kind? x = s.kind? y := Dict.find_congr h _

theorem require_eq_ok {name : Name} {wanted : SymbolKind} {k : Label} :
    s.require name wanted = .ok k ↔ name.label? = some k ∧ s.kind? k = some wanted := by
  constructor
  · intro h
    obtain ⟨k', hkey, h⟩ := bind_ok h
    split at h
    · cases h
    · next actual hactual =>
      split at h
      · next heq =>
        cases h
        exact ⟨nameKey_eq_ok.mp hkey, heq ▸ hactual⟩
      · cases h
  · rintro ⟨hatom, hkind⟩
    simp only [require, nameKey_eq_ok.mpr hatom, bind, Except.bind, hkind, if_true]
    rfl

theorem get_eq_ok {name : Name} {v : α} :
    s.get name = .ok v ↔
      ∃ k, name.label? = some k ∧ s.kind? k = some .value ∧ s.values.find? k = some v := by
  constructor
  · intro h
    obtain ⟨k, hk, h⟩ := bind_ok h
    obtain ⟨hatom, hkind⟩ := s.require_eq_ok.mp hk
    split at h
    · next x hx =>
      cases h
      exact ⟨k, hatom, hkind, hx⟩
    · cases h
  · rintro ⟨k, hatom, hkind, hv⟩
    simp only [get, s.require_eq_ok.mpr ⟨hatom, hkind⟩, bind, Except.bind, hv]
    rfl

theorem getMatrix_eq_ok {name : Name} {t : Matrix α} :
    s.getMatrix name = .ok t ↔
      ∃ k, name.label? = some k ∧ s.kind? k = some .matrix ∧ s.matrices.find? k = some t := by
  constructor
  · intro h
    obtain ⟨k, hk, h⟩ := bind_ok h
    obtain ⟨hatom, hkind⟩ := s.require_eq_ok.mp hk
    split at h
    · next x hx =>
      cases h
      exact ⟨k, hatom, hkind, hx⟩
    · cases h
  · rintro ⟨k, hatom, hkind, hv⟩
    simp only [getMatrix, s.require_eq_ok.mpr ⟨hatom, hkind⟩, bind, Except.bind, hv]
    rfl

section

variable {s s' : Symbols α} {name : Name}

/-- What is found under a name depends on its kind and its content alone. -/
theorem require_congr (hkinds : ∀ x, s.kind? x = s'.kind? x) (wanted : SymbolKind) :
    s.require name wanted = s'.require name wanted := by simp only [require, hkinds]

theorem lookup_congr (hkinds : ∀ x, s.kind? x = s'.kind? x) : s.lookup name = s'.lookup name := by
  simp only [lookup, hkinds]

theorem get_congr (hkinds : ∀ x, s.kind? x = s'.kind? x)
    (hvalues : ∀ x, name.label? = some x → s.kind? x = some .value →
      s.values.find? x = s'.values.find? x) : s.get name = s'.get name := by
  unfold get
  rw [← require_congr hkinds]
  cases hx : s.require name .value with
  | error e => rfl
  | ok x =>
    obtain ⟨hatom, hkind⟩ := s.require_eq_ok.mp hx
    simp only [bind, Except.bind, hvalues x hatom hkind]

theorem getMatrix_congr (hkinds : ∀ x, s.kind? x = s'.kind? x)
    (hmatrices : ∀ x, name.label? = some x → s.matrices.find? x = s'.matrices.find? x) :
    s.getMatrix name = s'.getMatrix name := by
  unfold getMatrix
  rw [← require_congr hkinds]
  cases hx : s.require name .matrix with
  | error e => rfl
  | ok x => simp only [bind, Except.bind, hmatrices x (s.require_eq_ok.mp hx).1]

end

theorem set_eq_ok {name : Name} {v : α} {s' : Symbols α} :
    s.set name v = .ok s' ↔
      ∃ k, name.label? = some k ∧ s.kind? k = some .value ∧
        s' = { s with values := s.values.insert k v } := by
  constructor
  · intro h
    obtain ⟨k, hk, h⟩ := bind_ok h
    obtain ⟨hatom, hkind⟩ := s.require_eq_ok.mp hk
    cases h
    exact ⟨k, hatom, hkind, rfl⟩
  · rintro ⟨k, hatom, hkind, rfl⟩
    simp only [set, setWith, s.require_eq_ok.mpr ⟨hatom, hkind⟩]
    rfl

theorem setMatrix_eq_ok {name : Name} {t : Matrix α} {s' : Symbols α} :
    s.setMatrix name t = .ok s' ↔
      ∃ k, name.label? = some k ∧ s.kind? k = some .matrix ∧
        s' = { s with matrices := s.matrices.insert k t } := by
  constructor
  · intro h
    obtain ⟨k, hk, h⟩ := bind_ok h
    obtain ⟨hatom, hkind⟩ := s.require_eq_ok.mp hk
    cases h
    exact ⟨k, hatom, hkind, rfl⟩
  · rintro ⟨k, hatom, hkind, rfl⟩
    simp only [setMatrix, s.require_eq_ok.mpr ⟨hatom, hkind⟩]
    rfl

/-- Writing fails for the name alone. -/
theorem set_eq_error {name : Name} {v : α} {e : Error} :
    s.set name v = .error e ↔ s.require name .value = .error e := by
  unfold set setWith
  cases s.require name .value with
  | error e' => simp only [bind, Except.bind, Except.error.injEq]
  | ok k => exact ⟨nofun, nofun⟩

theorem setMatrix_eq_error {name : Name} {t : Matrix α} {e : Error} :
    s.setMatrix name t = .error e ↔ s.require name .matrix = .error e := by
  unfold setMatrix
  cases s.require name .matrix with
  | error e' => simp only [bind, Except.bind, Except.error.injEq]
  | ok k => exact ⟨nofun, nofun⟩

/-- Writing all knobs never fails. -/
theorem setAll_eq (v : α) :
    s.setAll v = .ok { s with values := s.knobs.foldl (fun d k => d.insert k v) s.values } := by
  unfold setAll setAllWith
  split
  · next h =>
    rw [h]
    rfl
  · rfl

/-- A name that is declared as a knob is among the knobs. -/
theorem knobs_any {x : Label} (hx : s.kind? x = some .value) : s.knobs.any (· == x) = true := by
  obtain ⟨⟨k, kind⟩, hmem, hk, rfl⟩ := Dict.exists_of_find hx
  apply List.any_eq_true.mpr
  refine ⟨k, ?_, hk⟩
  apply List.mem_filterMap.mpr
  exact ⟨_, hmem, if_pos rfl⟩

/-! ## The table of knobs -/

/-- Every knob has a value. -/
def Filled : Prop := ∀ x ∈ s.knobs, (s.values.find? x).isSome = true

theorem knobs_congr {s s' : Symbols α} (h : s'.kinds = s.kinds) : s'.knobs = s.knobs := by
  rw [knobs, knobs, h]

variable [Shown α]

/-- Whether the knobs can be shown, or why not. -/
def tableResult : Except Error Unit := s.knobTable.map fun _ => ()

theorem tableResult_eq : s.tableResult = (knobRows s s.knobs).map fun _ => () := by
  unfold tableResult knobTable
  cases knobRows s s.knobs <;> rfl

/-- A row of a knob that has a value can be shown if the name can. -/
theorem knobRows_cons {x : Label} (hx : (s.values.find? x).isSome = true) (rest : List Label) :
    (knobRows s (x :: rest)).map (fun _ => ()) =
      columnText 12 x >>= fun _ => (knobRows s rest).map fun _ => () := by
  obtain ⟨v, hv⟩ := Option.isSome_iff_exists.mp hx
  simp only [knobRows, hv]
  cases columnText 12 x with
  | error e => rfl
  | ok name => cases knobRows s rest <;> rfl

/-- Where knobs have values, their table is a matter of their names alone. -/
theorem tableResult_congr {s s' : Symbols α} (hkinds : s'.kinds = s.kinds) (hs : s.Filled)
    (hs' : s'.Filled) : s'.tableResult = s.tableResult := by
  have hrows : ∀ names : List Label, (∀ x ∈ names, (s.values.find? x).isSome = true) →
      (∀ x ∈ names, (s'.values.find? x).isSome = true) →
      (knobRows s' names).map (fun _ => ()) = (knobRows s names).map fun _ => () := by
    intro names hv hv'
    induction names with
    | nil => rfl
    | cons x rest ih =>
      rw [s.knobRows_cons (hv x List.mem_cons_self), s'.knobRows_cons (hv' x List.mem_cons_self),
        ih (fun y hy => hv y (List.mem_cons_of_mem _ hy)) fun y hy => hv' y (List.mem_cons_of_mem _ hy)]
  rw [tableResult_eq, tableResult_eq, knobs_congr hkinds]
  exact hrows s.knobs hs (knobs_congr hkinds ▸ hs')

end Symbols

/-! ## The names of an instruction -/

namespace Opcode

/-- The knob that a transform reads. -/
def knob? : Opcode α → Option Name
  | .move _ knob | .scale _ knob | .rotate _ _ knob => knob
  | _ => none

/-- The knob that an instruction sets, or sets in motion. -/
def target? : Opcode α → Option Name
  | .set target _ | .vary target .. => some target
  | _ => none

/-- The material of what an instruction draws. -/
def material? : Opcode α → Option Name
  | .box _ _ material _ | .sphere _ _ material _ | .torus _ _ _ material _
  | .line _ _ material _ _ => material
  | _ => none

/-- The coordinate systems in which an instruction draws. -/
def systems : Opcode α → List Name
  | .box _ _ _ frame | .sphere _ _ _ frame | .torus _ _ _ _ frame => frame.toList
  | .line _ _ _ frame0 frame1 => frame0.toList ++ frame1.toList
  | _ => []

/-- The name under which an instruction saves the current coordinate system. -/
def saved? : Opcode α → Option Name
  | .saveCoordSystem name => some name
  | _ => none

end Opcode

/-! ## What an instruction writes -/

namespace Opcode

/-- What an instruction makes of the symbols, with the current coordinate system at hand. -/
def writeTo (top : Matrix α) (s : Symbols α) : Opcode α → Except Error (Symbols α)
  | .set target value => s.set target value
  | .setKnobs value => s.setAll value
  | .saveCoordSystem name => s.setMatrix name top
  | _ => .ok s

/-- The value that an instruction writes to a knob. -/
def valueFor (x : Label) : Opcode α → Option α
  | .set target value => if target.denotes x then some value else none
  | .setKnobs value => some value
  | _ => none

/-- The coordinate system that an instruction writes under a name, with the current one at hand. -/
def matrixFor (x : Label) (top : Matrix α) : Opcode α → Option (Matrix α)
  | .saveCoordSystem name => if name.denotes x then some top else none
  | _ => none

variable {top : Matrix α} {s s' : Symbols α} {op : Opcode α}

theorem writeTo_kinds (h : op.writeTo top s = .ok s') : s'.kinds = s.kinds := by
  cases op with
  | set target value =>
    obtain ⟨k, -, -, rfl⟩ := s.set_eq_ok.mp h
    rfl
  | setKnobs value =>
    change s.setAll value = .ok s' at h
    rw [s.setAll_eq] at h
    cases h
    rfl
  | saveCoordSystem name =>
    obtain ⟨k, -, -, rfl⟩ := s.setMatrix_eq_ok.mp h
    rfl
  | _ =>
    cases h
    rfl

/-- Only instructions of three forms write. -/
theorem writeTo_of_quiet (hset : op.form ≠ .set) (hsetKnobs : op.form ≠ .setKnobs)
    (hsave : op.form ≠ .saveCoordSystem) : op.writeTo top s = .ok s := by
  cases op with
  | set target value => exact absurd rfl hset
  | setKnobs value => exact absurd rfl hsetKnobs
  | saveCoordSystem name => exact absurd rfl hsave
  | _ => rfl

theorem writeTo_value {x : Label} (hx : s.kind? x = some .value) (h : op.writeTo top s = .ok s') :
    s'.values.find? x = (op.valueFor x).or (s.values.find? x) := by
  cases op with
  | set target value =>
    obtain ⟨k, hk, -, rfl⟩ := s.set_eq_ok.mp h
    rw [valueFor, Value.denotes_of_label hk, Dict.find_insert]
    split <;> rfl
  | setKnobs value =>
    change s.setAll value = .ok s' at h
    rw [s.setAll_eq] at h
    cases h
    rw [Dict.find_foldl_insert, s.knobs_any hx]
    rfl
  | saveCoordSystem name =>
    obtain ⟨k, -, -, rfl⟩ := s.setMatrix_eq_ok.mp h
    rfl
  | _ =>
    cases h
    rfl

theorem writeTo_matrix {x : Label} (h : op.writeTo top s = .ok s') :
    s'.matrices.find? x = (op.matrixFor x top).or (s.matrices.find? x) := by
  cases op with
  | set target value =>
    obtain ⟨k, -, -, rfl⟩ := s.set_eq_ok.mp h
    rfl
  | setKnobs value =>
    change s.setAll value = .ok s' at h
    rw [s.setAll_eq] at h
    cases h
    rfl
  | saveCoordSystem name =>
    obtain ⟨k, hk, -, rfl⟩ := s.setMatrix_eq_ok.mp h
    rw [matrixFor, Value.denotes_of_label hk, Dict.find_insert]
    split <;> rfl
  | _ =>
    cases h
    rfl

/-- Writing takes no value away. -/
theorem writeTo_filled (hs : s.Filled) (h : op.writeTo top s = .ok s') : s'.Filled := by
  intro x hx
  rw [Symbols.knobs_congr (writeTo_kinds h)] at hx
  have hvalue := hs x hx
  cases op with
  | set target value =>
    obtain ⟨k, -, -, rfl⟩ := s.set_eq_ok.mp h
    exact Dict.find_insert_isSome hvalue k value
  | setKnobs value =>
    change s.setAll value = .ok s' at h
    rw [s.setAll_eq] at h
    cases h
    rw [Dict.find_foldl_insert]
    split
    · rfl
    · exact hvalue
  | saveCoordSystem name =>
    obtain ⟨k, -, -, rfl⟩ := s.setMatrix_eq_ok.mp h
    exact hvalue
  | _ =>
    cases h
    exact hvalue

/-- Writing to a name of another kind fails, so nothing is missed under a name of the right kind. -/
theorem valueFor_of_error {x : Label} {e : Error} (hx : s.kind? x = some .value)
    (h : op.writeTo top s = .error e) : op.valueFor x = none := by
  cases op with
  | set target value =>
    by_cases hdenotes : target.denotes x = true
    · obtain ⟨k, hk, hkx⟩ := Value.denotes_iff.mp hdenotes
      have hkind : s.kind? k = some .value := (s.kind_congr hkx).trans hx
      change s.set target value = .error e at h
      rw [s.set_eq_ok.mpr ⟨k, hk, hkind, rfl⟩] at h
      cases h
    · exact if_neg hdenotes
  | setKnobs value =>
    change s.setAll value = .error e at h
    rw [s.setAll_eq] at h
    cases h
  | _ => rfl

theorem matrixFor_of_error {x : Label} {e : Error} (hx : s.kind? x = some .matrix)
    (h : op.writeTo top s = .error e) : op.matrixFor x top = none := by
  cases op with
  | saveCoordSystem name =>
    by_cases hdenotes : name.denotes x = true
    · obtain ⟨k, hk, hkx⟩ := Value.denotes_iff.mp hdenotes
      have hkind : s.kind? k = some .matrix := (s.kind_congr hkx).trans hx
      change s.setMatrix name top = .error e at h
      rw [s.setMatrix_eq_ok.mpr ⟨k, hk, hkind, rfl⟩] at h
      cases h
    · exact if_neg hdenotes
  | _ => rfl

end Opcode

namespace Machine

variable [Scalar α] [Angle α] [Shown α] {o : Options} {m m' : Machine α} {op : Opcode α}

/-- **What an instruction leaves.** The symbols are what the instruction writes: drawing, moving and leaving
    a coordinate system write nothing. The picture keeps its size and its background. -/
theorem step_ok (h : (m.step o op).result = .ok m') :
    op.writeTo m.stack.top m.symbols = .ok m'.symbols ∧ m'.screen.clear = m.screen.clear := by
  cases op with
  | pop =>
    obtain ⟨r, -, rfl⟩ := map_ok h
    exact ⟨rfl, rfl⟩
  | move delta knob =>
    obtain ⟨k, -, rfl⟩ := map_ok h
    exact ⟨rfl, rfl⟩
  | scale delta knob =>
    obtain ⟨k, -, rfl⟩ := map_ok h
    exact ⟨rfl, rfl⟩
  | rotate axis degrees knob =>
    obtain ⟨k, t, -, -, rfl⟩ := rotate_ok h
    exact ⟨rfl, rfl⟩
  | box c0 c1 material frame =>
    obtain ⟨c, ps, rfl⟩ := drawSolid_ok h
    exact ⟨rfl, Raster.paintAll_clear c _ ps⟩
  | sphere center radius material frame =>
    obtain ⟨c, ps, rfl⟩ := drawSolid_ok h
    exact ⟨rfl, Raster.paintAll_clear c _ ps⟩
  | torus center r0 r1 material frame =>
    obtain ⟨c, ps, rfl⟩ := drawSolid_ok h
    exact ⟨rfl, Raster.paintAll_clear c _ ps⟩
  | line p0 p1 material frame0 frame1 =>
    obtain ⟨c, ps, rfl⟩ := drawLine_ok h
    exact ⟨rfl, Raster.paintAll_clear c _ ps⟩
  | set target value =>
    obtain ⟨s, hs, rfl⟩ := map_ok h
    exact ⟨hs, rfl⟩
  | setKnobs value =>
    obtain ⟨s, hs, rfl⟩ := map_ok h
    exact ⟨hs, rfl⟩
  | saveCoordSystem name =>
    obtain ⟨s, hs, rfl⟩ := map_ok h
    exact ⟨hs, rfl⟩
  | _ =>
    cases h
    exact ⟨rfl, rfl⟩

/-- An instruction that fails writes nothing: either it has nothing to write, or the writing failed. -/
theorem step_symbols_of_error {e : Error} (h : (m.step o op).result = .error e) :
    op.writeTo m.stack.top m.symbols = .ok m.symbols ∨
      op.writeTo m.stack.top m.symbols = .error e := by
  have herror : ∀ r : Except Error (Symbols α), m.withSymbols r = .error e → r = .error e := by
    intro r hr
    cases r with
    | ok s => cases hr
    | error e' =>
      cases hr
      rfl
  cases op with
  | set target value => exact .inr (herror _ h)
  | setKnobs value => exact .inr (herror _ h)
  | saveCoordSystem name => exact .inr (herror _ h)
  | _ => exact .inl rfl

end Machine

end Wireframe
