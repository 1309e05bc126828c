import Wireframe.Proofs.Symbols

/-!
# `Wireframe.Proofs.Alike` — instructions in two machines

Two machines may have different values under some names and different coordinate systems under others. An
instruction that uses none of these names does the same in both: it fails in the same way, or it leaves
the same stack and the same picture, and tables that differ no more than before.

## Contents
- `Symbols.Agree`: tables with the same names that agree on some of them; `set_agree`, `setMatrix_agree`.
- `Machine.Alike`: machines with such tables.
- `drawSolid_relabel`, `drawLine_relabel`, `step_relabel`: instructions with other symbols.
- `step_alike`: instructions in machines that are alike.
-/

namespace Wireframe

open Document

variable {α : Type}

/-! ## Tables that agree -/

/-- Tables with the same names, which agree on the values of some knobs and on some coordinate systems. -/
structure Symbols.Agree (V M : Label → Prop) (s s' : Symbols α) : Prop where
  kinds : ∀ x, s.kind? x = s'.kind? x
  values : ∀ x, V x → s.values.find? x = s'.values.find? x
  matrices : ∀ x, M x → s.matrices.find? x = s'.matrices.find? x

namespace Symbols

variable {V M : Label → Prop} {s s' : Symbols α}

theorem Agree.mono {V' M' : Label → Prop} (h : Agree V M s s') (hV : ∀ x, V' x → V x)
    (hM : ∀ x, M' x → M x) : Agree V' M' s s' :=
  ⟨h.kinds, fun x hx => h.values x (hV x hx), fun x hx => h.matrices x (hM x hx)⟩

/-- A value that is written to both tables is one more on which they agree. -/
theorem set_agree (h : Agree V M s s') (name : Name) (v : α) :
    (∀ e, s.set name v = .error e → s'.set name v = .error e) ∧
      ∀ t, s.set name v = .ok t →
        ∃ t', s'.set name v = .ok t' ∧ Agree (fun x => V x ∨ name.denotes x = true) M t t' := by
  constructor
  · intro e he
    rw [set_eq_error] at he ⊢
    rw [← require_congr h.kinds]
    exact he
  · intro t ht
    obtain ⟨k, hk, hkind, rfl⟩ := s.set_eq_ok.mp ht
    refine ⟨_, s'.set_eq_ok.mpr ⟨k, hk, (h.kinds k) ▸ hkind, rfl⟩, h.kinds, ?_, h.matrices⟩
    intro x hx
    rw [Dict.find_insert, Dict.find_insert]
    split
    · rfl
    · next hne =>
      rcases hx with hx | hx
      · exact h.values x hx
      · rw [Value.denotes_of_label hk] at hx
        exact absurd hx hne

/-- A coordinate system that is saved in both tables is one more on which they agree. -/
theorem setMatrix_agree (h : Agree V M s s') (name : Name) (m : Matrix α) :
    (∀ e, s.setMatrix name m = .error e → s'.setMatrix name m = .error e) ∧
      ∀ t, s.setMatrix name m = .ok t →
        ∃ t', s'.setMatrix name m = .ok t' ∧ Agree V (fun x => M x ∨ name.denotes x = true) t t' := by
  constructor
  · intro e he
    rw [setMatrix_eq_error] at he ⊢
    rw [← require_congr h.kinds]
    exact he
  · intro t ht
    obtain ⟨k, hk, hkind, rfl⟩ := s.setMatrix_eq_ok.mp ht
    refine ⟨_, s'.setMatrix_eq_ok.mpr ⟨k, hk, (h.kinds k) ▸ hkind, rfl⟩, h.kinds, h.values, ?_⟩
    intro x hx
    rw [Dict.find_insert, Dict.find_insert]
    split
    · rfl
    · next hne =>
      rcases hx with hx | hx
      · exact h.matrices x hx
      · rw [Value.denotes_of_label hk] at hx
        exact absurd hx hne

end Symbols

/-! ## Instructions in two machines -/

namespace Machine

/-- The machine with other symbols. -/
def relabel (m : Machine α) (s : Symbols α) : Machine α := { m with symbols := s }

/-- Machines with the same stack and the same picture, whose symbols agree. -/
structure Alike (V M : Label → Prop) (m n : Machine α) : Prop where
  stack : m.stack = n.stack
  screen : m.screen = n.screen
  symbols : Symbols.Agree V M m.symbols n.symbols

theorem Alike.mono {V M M' : Label → Prop} {m n : Machine α} (h : Alike V M m n)
    (hM : ∀ x, M' x → M x) : Alike V M' m n :=
  ⟨h.stack, h.screen, h.symbols.mono (fun _ hx => hx) hM⟩

variable [Scalar α] [Angle α] [Shown α] {V M : Label → Prop} {m n : Machine α} {o : Options}
  {op : Opcode α}

/-! ### Other symbols -/

section

variable {s : Symbols α}

omit [Scalar α] [Angle α] [Shown α] in
theorem pop_relabel : (m.relabel s).pop = m.pop.map fun m' => m'.relabel s := by
  unfold pop
  show m.stack.pop.map _ = _
  cases m.stack.pop <;> rfl

omit [Shown α] in
theorem rotate_relabel {knob : Option Name} (hknob : (m.relabel s).factor knob = m.factor knob)
    (axis : Axis) (degrees : α) :
    (m.relabel s).rotate axis degrees knob =
      (m.rotate axis degrees knob).map fun m' => m'.relabel s := by
  unfold rotate
  rw [hknob]
  cases m.factor knob with
  | error e => rfl
  | ok k =>
    show (Matrix.rotation axis (radians (degrees * k)) >>= _) =
      (Matrix.rotation axis (radians (degrees * k)) >>= _).map _
    cases Matrix.rotation axis (radians (degrees * k)) <;> rfl

omit [Angle α] [Shown α] in
theorem drawEdges_relabel (g : Geometry α) (t : Matrix α) :
    (m.relabel s).drawEdges o g t = (m.drawEdges o g t).map fun m' => m'.relabel s := by
  unfold drawEdges
  show (Raster.drawPolygons (g.transform t) o.lineColor.toValue m.screen).map _ = _
  cases Raster.drawPolygons (g.transform t) o.lineColor.toValue m.screen <;> rfl

omit [Angle α] [Shown α] in
theorem drawSolid_relabel {material frame : Option Name}
    (hmaterial : (m.relabel s).passOver material = m.passOver material)
    (hframe : (m.relabel s).frameMatrix frame = m.frameMatrix frame)
    (solid : Except Error (Geometry α)) :
    ((m.relabel s).drawSolid o solid material frame).result =
      (m.drawSolid o solid material frame).result.map fun m' => m'.relabel s := by
  unfold drawSolid
  cases solid with
  | error e => rfl
  | ok g =>
    dsimp only
    rw [hmaterial, hframe]
    cases m.passOver material with
    | error e => rfl
    | ok passed =>
      cases m.frameMatrix frame with
      | error e => rfl
      | ok t => exact drawEdges_relabel g t

omit [Angle α] [Shown α] in
theorem drawLine_relabel {frame0 frame1 : Option Name}
    (h0 : (m.relabel s).frameMatrix frame0 = m.frameMatrix frame0)
    (h1 : (m.relabel s).frameMatrix frame1 = m.frameMatrix frame1) (p0 p1 : Vec3 α) :
    (m.relabel s).drawLine o p0 p1 frame0 frame1 =
      (m.drawLine o p0 p1 frame0 frame1).map fun m' => m'.relabel s := by
  unfold drawLine
  rw [h0, h1]
  cases m.frameMatrix frame0 with
  | error e => rfl
  | ok m0 =>
    cases m.frameMatrix frame1 with
    | error e => rfl
    | ok m1 =>
      show (Raster.drawLines _ _ m.screen >>= _) = (Raster.drawLines _ _ m.screen >>= _).map _
      cases Raster.drawLines (.ofPolylines [(m0.apply [p0] ++ m1.apply [p1]).map Geometry.store])
        o.lineColor.toValue m.screen <;> rfl

/-- An instruction that writes no symbols does the same with other ones, if its names stand for the same. -/
theorem step_relabel (hset : op.form ≠ .set) (hsetKnobs : op.form ≠ .setKnobs)
    (hsave : op.form ≠ .saveCoordSystem) (hknob : (m.relabel s).factor op.knob? = m.factor op.knob?)
    (hmaterial : (m.relabel s).passOver op.material? = m.passOver op.material?)
    (hsystems : ∀ name ∈ op.systems, (m.relabel s).frameMatrix (some name) = m.frameMatrix (some name)) :
    ((m.relabel s).step o op).result = (m.step o op).result.map fun m' => m'.relabel s := by
  have hframe : ∀ frame : Option Name, (∀ name ∈ frame.toList, name ∈ op.systems) →
      (m.relabel s).frameMatrix frame = m.frameMatrix frame := by
    intro frame hsub
    cases frame with
    | none => rfl
    | some name => exact hsystems name (hsub name (List.mem_singleton_self name))
  cases op with
  | set target value => exact absurd rfl hset
  | setKnobs value => exact absurd rfl hsetKnobs
  | saveCoordSystem name => exact absurd rfl hsave
  | pop => exact pop_relabel
  | move delta knob =>
    change (m.relabel s).factor knob = m.factor knob at hknob
    show ((m.relabel s).factor knob).map _ = ((m.factor knob).map _).map _
    rw [hknob]
    cases m.factor knob <;> rfl
  | scale delta knob =>
    change (m.relabel s).factor knob = m.factor knob at hknob
    show ((m.relabel s).factor knob).map _ = ((m.factor knob).map _).map _
    rw [hknob]
    cases m.factor knob <;> rfl
  | rotate axis degrees knob => exact rotate_relabel hknob axis degrees
  | box c0 c1 material frame => exact drawSolid_relabel hmaterial (hframe frame fun _ h => h) _
  | sphere center radius material frame =>
    exact drawSolid_relabel hmaterial (hframe frame fun _ h => h) _
  | torus center r0 r1 material frame =>
    exact drawSolid_relabel hmaterial (hframe frame fun _ h => h) _
  | line p0 p1 material frame0 frame1 =>
    exact drawLine_relabel (hframe frame0 fun _ h => List.mem_append_left _ h)
      (hframe frame1 fun _ h => List.mem_append_right _ h) p0 p1
  | _ => rfl

end

/-! ### Machines that are alike -/

omit [Scalar α] [Angle α] [Shown α] in
theorem Alike.eq_relabel (h : Alike V M m n) : n = m.relabel n.symbols := by
  obtain ⟨stack, symbols, screen⟩ := n
  obtain ⟨rfl, rfl, -⟩ := h
  rfl

/-- An instruction that writes no symbols leaves machines as different as they were. -/
theorem step_alike_of_quiet (h : Alike V M m n) (hset : op.form ≠ .set) (hsetKnobs : op.form ≠ .setKnobs)
    (hsave : op.form ≠ .saveCoordSystem)
    (hknob : ∀ name x, op.knob? = some name → name.label? = some x → V x)
    (hsystems : ∀ name ∈ op.systems, ∀ x, name.label? = some x → M x) :
    (∀ e, (m.step o op).result = .error e → (n.step o op).result = .error e) ∧
      ∀ m', (m.step o op).result = .ok m' → ∃ n', (n.step o op).result = .ok n' ∧ Alike V M m' n' := by
  have hstep : (n.step o op).result = (m.step o op).result.map fun m' => m'.relabel n.symbols := by
    rw [h.eq_relabel]
    apply step_relabel hset hsetKnobs hsave
    · cases hknob? : op.knob? with
      | none => rfl
      | some name =>
        refine (Symbols.get_congr h.symbols.kinds fun x hx _ => ?_).symm
        exact h.symbols.values x (hknob name x hknob? hx)
    · cases op.material? with
      | none => rfl
      | some name =>
        show (n.symbols.lookup name).map _ = (m.symbols.lookup name).map _
        rw [Symbols.lookup_congr h.symbols.kinds]
    · intro name hname
      refine (Symbols.getMatrix_congr h.symbols.kinds fun x hx => ?_).symm
      exact h.symbols.matrices x (hsystems name hname x hx)
  constructor
  · intro e he
    rw [hstep, he]
    rfl
  · intro m' hm'
    have hsymbols : m'.symbols = m.symbols := by
      have hwrite := (step_ok hm').1
      rw [Opcode.writeTo_of_quiet hset hsetKnobs hsave] at hwrite
      exact (Except.ok.inj hwrite).symm
    refine ⟨m'.relabel n.symbols, ?_, rfl, rfl, hsymbols ▸ h.symbols⟩
    rw [hstep, hm']
    rfl

/-- Machines with the same stack save the same coordinate system. -/
theorem saveCoordSystem_alike (h : Alike V M m n) (name : Name) :
    (∀ e, (m.step o (.saveCoordSystem name)).result = .error e →
      (n.step o (.saveCoordSystem name)).result = .error e) ∧
      ∀ m', (m.step o (.saveCoordSystem name)).result = .ok m' →
        ∃ n', (n.step o (.saveCoordSystem name)).result = .ok n' ∧
          Alike V (fun x => M x ∨ name.denotes x = true) m' n' := by
  show (∀ e, m.withSymbols (m.symbols.setMatrix name m.stack.top) = .error e →
      n.withSymbols (n.symbols.setMatrix name n.stack.top) = .error e) ∧
    ∀ m', m.withSymbols (m.symbols.setMatrix name m.stack.top) = .ok m' →
      ∃ n', n.withSymbols (n.symbols.setMatrix name n.stack.top) = .ok n' ∧ _
  rw [← h.stack]
  obtain ⟨hfail, hdone⟩ := Symbols.setMatrix_agree h.symbols name m.stack.top
  cases hr : m.symbols.setMatrix name m.stack.top with
  | error e =>
    rw [hfail e hr]
    exact ⟨fun _ he => he, nofun⟩
  | ok s =>
    obtain ⟨t, ht, hagree⟩ := hdone s hr
    rw [ht]
    refine ⟨nofun, ?_⟩
    rintro m' ⟨⟩
    exact ⟨_, rfl, h.stack, h.screen, hagree⟩

/-- **One instruction in two machines.** Where the machines agree on the names that an instruction uses, it
    fails in both in the same way, or it leaves them alike, and with one more coordinate system in common
    if it has saved one. -/
theorem step_alike (h : Alike V M m n) (hset : op.form ≠ .set) (hsetKnobs : op.form ≠ .setKnobs)
    (hknob : ∀ name x, op.knob? = some name → name.label? = some x → V x)
    (hsystems : ∀ name ∈ op.systems, ∀ x, name.label? = some x → M x) :
    (∀ e, (m.step o op).result = .error e → (n.step o op).result = .error e) ∧
      ∀ m', (m.step o op).result = .ok m' → ∃ n', (n.step o op).result = .ok n' ∧
        Alike V (fun x => M x ∨ ∃ name, op.saved? = some name ∧ name.denotes x = true) m' n' := by
  by_cases hsave : op.form = .saveCoordSystem
  · cases op with
    | saveCoordSystem name =>
      obtain ⟨hfail, hdone⟩ := saveCoordSystem_alike (o := o) h name
      refine ⟨hfail, fun m' hm' => ?_⟩
      obtain ⟨n', hn', halike⟩ := hdone m' hm'
      refine ⟨n', hn', halike.mono ?_⟩
      rintro x (hx | ⟨name', hname, hx⟩)
      · exact .inl hx
      · cases hname
        exact .inr hx
    | _ => cases hsave
  · obtain ⟨hfail, hdone⟩ := step_alike_of_quiet (o := o) h hset hsetKnobs hsave hknob hsystems
    refine ⟨hfail, fun m' hm' => ?_⟩
    obtain ⟨n', hn', halike⟩ := hdone m' hm'
    refine ⟨n', hn', halike.mono ?_⟩
    rintro x (hx | ⟨name, hname, -⟩)
    · exact hx
    · cases op with
      | saveCoordSystem name => exact absurd rfl hsave
      | _ => cases hname

end Machine

end Wireframe
