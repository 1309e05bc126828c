import Wireframe.Proofs.Symbols

/-!
# `Wireframe.Proofs.Failure` — the kinds of failures

A result is `Within` some kinds when it can fail with failures of these kinds only. The predicate goes
through `bind` and `map`, so each function gets one lemma from those of the functions that it calls.

## Contents
- `Within` with its lemmas for results that are put together.
- The table of symbols, transforms and solids, drawing.
- `toFloat_large`, `toFloat_kind`, `toFloats_eq_mapM`: numbers that are too large, and lists of numbers.
- `step_within_of`, `step_within`: instructions, from the names that they use.
- `eq_pop_of_emptyStack`: instructions other than a pop never fail for want of a coordinate system.
-/

namespace Wireframe

open Document

variable {β γ : Type}

/-- A failure, if there is one, is of one of these kinds. -/
def Within (kinds : List Kind) (r : Except Error β) : Prop := ∀ e, r = .error e → e.kind ∈ kinds

namespace Within

variable {kinds : List Kind}

theorem ok (b : β) : Within kinds (.ok b : Except Error β) := nofun

theorem error {e : Error} (h : e.kind ∈ kinds) : Within kinds (.error e : Except Error β) := by
  intro e' he
  cases he
  exact h

theorem bind {r : Except Error β} {f : β → Except Error γ} (hr : Within kinds r)
    (hf : ∀ b, r = .ok b → Within kinds (f b)) : Within kinds (r >>= f) := by
  cases r with
  | error e => exact error (hr e rfl)
  | ok b => exact hf b rfl

theorem map {r : Except Error β} (hr : Within kinds r) (f : β → γ) : Within kinds (r.map f) := by
  cases r with
  | error e => exact error (hr e rfl)
  | ok b => exact ok (f b)

theorem mono {more : List Kind} {r : Except Error β} (hr : Within kinds r) (h : kinds ⊆ more) :
    Within more r := fun e he => h (hr e he)

theorem mapM {f : β → Except Error γ} {items : List β} (h : ∀ b ∈ items, Within kinds (f b)) :
    Within kinds (items.mapM f) := by
  induction items with
  | nil => exact ok []
  | cons b items ih =>
    rw [List.mapM_cons]
    refine bind (h b (List.mem_cons_self ..)) fun c _ => ?_
    exact bind (ih fun b' hb' => h b' (List.mem_cons_of_mem b hb')) fun cs _ => ok (c :: cs)

end Within

/-- A cause whose message cannot be written becomes a failure of value. -/
theorem Error.settled_kind (e : Error) : e.settled.kind = e.kind ∨ e.settled.kind = .value := by
  unfold Error.settled
  split
  · exact .inl rfl
  · exact .inr rfl

theorem Within.settled {kinds : List Kind} {e : Error} (h : e.kind ∈ kinds)
    (hv : Kind.value ∈ kinds) : Within kinds (.error e.settled : Except Error β) := by
  refine .error ?_
  rcases e.settled_kind with hk | hk
  · rwa [hk]
  · rwa [hk]

/-- The kinds of failures of those who use a name. -/
abbrev nameFailures : List Kind := [.type, .value, .unknownSymbol, .symbolKind, .key]

/-- The kinds of failures of drawing. -/
abbrev drawFailures : List Kind := [.value, .overflow]

variable {α : Type}

/-! ## The table of symbols -/

namespace Symbols

variable (s : Symbols α)

theorem nameKey_within (name : Name) : Within nameFailures (nameKey name) := by
  unfold nameKey
  split
  · exact .ok _
  · exact .error (by decide)

theorem lookup_within (name : Name) : Within nameFailures (s.lookup name) := by
  refine (nameKey_within name).bind fun k _ => ?_
  split
  · exact .ok _
  · exact .settled (show Kind.unknownSymbol ∈ nameFailures by decide) (by decide)

theorem require_within (name : Name) (wanted : SymbolKind) : Within nameFailures (s.require name wanted) := by
  refine (nameKey_within name).bind fun k _ => ?_
  split
  · exact .settled (show Kind.unknownSymbol ∈ nameFailures by decide) (by decide)
  · split
    · exact .ok _
    · exact .settled (show Kind.symbolKind ∈ nameFailures by decide) (by decide)

theorem get_within (name : Name) : Within nameFailures (s.get name) := by
  refine (s.require_within name .value).bind fun k _ => ?_
  split
  · exact .ok _
  · exact .error (by decide)

theorem set_within (name : Name) (value : α) : Within nameFailures (s.set name value) :=
  (s.require_within name .value).bind fun _ _ => .ok _

theorem setAll_within (value : α) : Within nameFailures (s.setAll value) := by
  unfold setAll setAllWith
  split
  · exact .ok _
  · exact .ok _

theorem getMatrix_within (name : Name) : Within nameFailures (s.getMatrix name) := by
  refine (s.require_within name .matrix).bind fun k _ => ?_
  split
  · exact .ok _
  · exact .error (by decide)

theorem setMatrix_within (name : Name) (m : Matrix α) : Within nameFailures (s.setMatrix name m) :=
  (s.require_within name .matrix).bind fun _ _ => .ok _

end Symbols

/-! ## Solids and drawing -/

theorem Rgba.ofHex_within (s : String) : Within drawFailures (Rgba.ofHex s) := by
  simp only [Rgba.ofHex]
  split
  · exact .error (show Kind.value ∈ drawFailures by decide)
  · exact .ok _
  · exact .ok _
  · exact .error (show Kind.value ∈ drawFailures by decide)

theorem Rgba.toByte_within (x : Float) : Within drawFailures (Rgba.toByte x) := by
  unfold Rgba.toByte
  split
  · exact .ok _
  · refine .error ?_
    split <;> decide

theorem Rgba.ofComponents_within (x y z : Float) (opacity : Option Float) :
    Within drawFailures (Rgba.ofComponents x y z opacity) := by
  unfold Rgba.ofComponents
  dsimp only
  split
  · exact .ok _
  · refine (Rgba.toByte_within x).bind fun r _ => (Rgba.toByte_within y).bind fun g _ => ?_
    exact (Rgba.toByte_within z).bind fun b _ => (Rgba.toByte_within _).bind fun a _ => .ok _

/-- Numbers fail to be read for their type, their text or their size. -/
theorem toFloat_within (v : Value) : Within [.type, .value, .overflow] v.toFloat := by
  unfold Value.toFloat
  split
  · exact .ok _
  · unfold floatOfInt
    dsimp only
    split
    · exact .ok _
    · exact .error (by decide)
  · exact .ok _
  · exact .ok _
  · split
    · exact .ok _
    · exact .error (by decide)
  · split
    · exact .ok _
    · exact .error (by decide)
  · exact .error (by decide)

theorem toFloat_large {n : Int} :
    (Value.int n).toFloat = .error .tooLarge ↔ (Decimal.ofInt n).isFinite = false := by
  simp only [Value.toFloat, floatOfInt]
  cases (Decimal.ofInt n).isFinite with
  | true => exact ⟨nofun, nofun⟩
  | false => exact ⟨fun _ => rfl, fun _ => rfl⟩

/-- Of the values that have no double only integers fail for their size. -/
theorem toFloat_kind {w : Value} {e : Error} (h : w.toFloat = .error e) :
    e.kind = .overflow ↔ ∃ n, w = .int n ∧ e = .tooLarge := by
  constructor
  · intro hkind
    unfold Value.toFloat at h
    split at h
    case h_2 n =>
      refine ⟨n, rfl, ?_⟩
      simp only [floatOfInt] at h
      split at h
      · cases h
      · cases h
        rfl
    case h_5 | h_6 =>
      split at h
      · cases h
      · cases h
        cases hkind
    all_goals
      cases h
    cases hkind
  · rintro ⟨n, rfl, rfl⟩
    rfl

theorem toFloats_eq_mapM (items : List Value) : Value.toFloats items = items.mapM Value.toFloat := by
  induction items with
  | nil => rfl
  | cons v rest ih =>
    rw [List.mapM_cons, ← ih]
    rfl

theorem toFloats_within (items : List Value) :
    Within [.type, .value, .overflow] (Value.toFloats items) := by
  rw [toFloats_eq_mapM]
  exact Within.mapM fun v _ => toFloat_within v

theorem Rgba.ofSequence_within (v : Value) (items : List Value) :
    Within drawFailures (Rgba.ofSequence v items) := by
  unfold Rgba.ofSequence
  split
  · exact .error (by decide)
  · split
    · exact ofComponents_within _ _ _ _
    · exact ofComponents_within _ _ _ _
    · exact .error (by decide)
    · next e he =>
      split
      · exact .settled (show Kind.value ∈ drawFailures by decide) (by decide)
      · next hkind =>
        -- Only failures of size are handed on.
        have hk := toFloats_within items e he
        refine .error ?_
        cases hek : e.kind <;> simp_all

theorem Rgba.ofValue_within (v : Value) : Within drawFailures (Rgba.ofValue v) := by
  unfold Rgba.ofValue
  split
  · exact ofHex_within _
  · exact ofSequence_within v _
  · exact ofSequence_within v _
  · exact .error (show Kind.value ∈ drawFailures by decide)

theorem Rgb.showable_within (v : Value) : Within drawFailures (Rgb.showable v) := by
  refine ((Rgba.ofValue_within v).map _).bind fun c _ => ?_
  split
  · exact .ok c
  · exact .error (by decide)

section

variable [Scalar α]

theorem Raster.round_within (x : α) : Within drawFailures (Raster.round x) := by
  unfold Raster.round
  split
  · exact .ok _
  · refine .error ?_
    split <;> decide

theorem Raster.pixels_within (s : Segment α) : Within drawFailures (Raster.pixels s) := by
  have hpoint : ∀ x y : α, Within drawFailures (Raster.pixelAt x y) := fun x y =>
    (round_within x).bind fun _ _ => (round_within y).bind fun _ _ => .ok _
  exact (hpoint s.x0 s.y0).bind fun _ _ => (hpoint s.x1 s.y1).bind fun _ _ => .ok _

theorem Raster.drawSegments_within (segments : List (Segment α)) (color : Value) (screen : Screen) :
    Within drawFailures (Raster.drawSegments segments color screen) := by
  unfold Raster.drawSegments
  split
  · exact .ok _
  · refine (Rgb.showable_within color).bind fun c _ => ?_
    exact (Within.mapM fun s _ => pixels_within s).bind fun ps _ => .ok _

variable [Angle α]

theorem Matrix.rotation_within (axis : Axis) (theta : α) :
    Within [.value] (Matrix.rotation axis theta) := by
  unfold Matrix.rotation
  split
  · exact .ok _
  · exact .error (by decide)

variable [Shown α]

theorem Solid.sphere_within (center : Vec3 α) (radius : α) (step : Int) :
    Within [.value] (Solid.sphere center radius step) := by
  unfold Solid.sphere
  split
  · exact .error (show Kind.value ∈ [Kind.value] by decide)
  · split
    · exact .error (show Kind.value ∈ [Kind.value] by decide)
    · exact .ok _

theorem Solid.torus_within (center : Vec3 α) (r0 r1 : α) (step : Int) :
    Within [.value] (Solid.torus center r0 r1 step) := by
  unfold Solid.torus
  split
  · exact .error (show Kind.value ∈ [Kind.value] by decide)
  · split
    · exact .error (show Kind.value ∈ [Kind.value] by decide)
    · exact .ok _

end

/-! ## Instructions -/

namespace Machine

/-- The kinds of failures of an instruction that does not leave a coordinate system. -/
abbrev stepFailures : List Kind := [.type, .value, .unknownSymbol, .symbolKind, .key, .overflow]

variable (m : Machine α)

theorem frameMatrix_within (name : Option Name) : Within nameFailures (m.frameMatrix name) := by
  cases name with
  | none => exact .ok _
  | some name => exact m.symbols.getMatrix_within name

theorem passOver_within (material : Option Name) : Within nameFailures (m.passOver material) := by
  cases material with
  | none => exact .ok _
  | some name => exact (m.symbols.lookup_within name).map _

variable [Scalar α]

theorem factor_within (knob : Option Name) : Within nameFailures (m.factor knob) := by
  cases knob with
  | none => exact .ok _
  | some name => exact m.symbols.get_within name

theorem drawEdges_within (o : Options) (g : Geometry α) (t : Matrix α) :
    Within drawFailures (m.drawEdges o g t) := (Raster.drawSegments_within _ _ _).map _

theorem drawSolid_within {kinds : List Kind} (hdraw : drawFailures ⊆ kinds) (o : Options)
    {solid : Except Error (Geometry α)} {material frame : Option Name} (h : Within kinds solid)
    (hmaterial : Within kinds (m.passOver material)) (hframe : Within kinds (m.frameMatrix frame)) :
    Within kinds (m.drawSolid o solid material frame).result := by
  unfold drawSolid
  split
  · next e => exact .error (h e rfl)
  · split
    · next e he => exact .error (hmaterial e he)
    · exact hframe.bind fun t _ => (m.drawEdges_within o _ t).mono hdraw

theorem drawLine_within {kinds : List Kind} (hdraw : drawFailures ⊆ kinds) (o : Options)
    (p0 p1 : Vec3 α) {frame0 frame1 : Option Name} (h0 : Within kinds (m.frameMatrix frame0))
    (h1 : Within kinds (m.frameMatrix frame1)) :
    Within kinds (m.drawLine o p0 p1 frame0 frame1) := by
  refine h0.bind fun m0 _ => h1.bind fun m1 _ => ?_
  exact ((Raster.drawSegments_within _ _ _).mono hdraw).bind fun r _ => .ok _

variable [Angle α]

theorem rotate_within {kinds : List Kind} (hdraw : drawFailures ⊆ kinds) (axis : Axis) (degrees : α)
    {knob : Option Name} (h : Within kinds (m.factor knob)) :
    Within kinds (m.rotate axis degrees knob) := by
  refine h.bind fun k _ => ?_
  refine ((Matrix.rotation_within axis _).mono ?_).bind fun t _ => .ok _
  exact List.Subset.trans (by decide) hdraw

variable [Shown α]

/-- **Failures of an instruction.** Apart from a pop, an instruction fails for the names that it uses, for
    what it writes to the symbols, or in drawing. -/
theorem step_within_of {kinds : List Kind} (hdraw : drawFailures ⊆ kinds) (o : Options) {op : Opcode α}
    (hop : op.form ≠ .pop) (hknob : Within kinds (m.factor op.knob?))
    (hmaterial : Within kinds (m.passOver op.material?))
    (hsystems : ∀ frame ∈ op.systems, Within kinds (m.frameMatrix (some frame)))
    (hwrite : Within kinds (op.writeTo m.stack.top m.symbols)) :
    Within kinds (m.step o op).result := by
  have hvalue : ([.value] : List Kind) ⊆ kinds := List.Subset.trans (by decide) hdraw
  have hframe : ∀ frame : Option Name, (∀ name ∈ frame.toList, name ∈ op.systems) →
      Within kinds (m.frameMatrix frame) := by
    intro frame hsub
    cases frame with
    | none => exact .ok _
    | some name => exact hsystems name (hsub name (List.mem_singleton_self name))
  cases op with
  | pop => exact absurd rfl hop
  | move delta knob => exact hknob.map _
  | scale delta knob => exact hknob.map _
  | rotate axis degrees knob => exact m.rotate_within hdraw axis degrees hknob
  | box c0 c1 material frame =>
    exact m.drawSolid_within hdraw o (.ok _) hmaterial (hframe frame fun _ h => h)
  | sphere center radius material frame =>
    exact m.drawSolid_within hdraw o ((Solid.sphere_within center radius o.step).mono hvalue)
      hmaterial (hframe frame fun _ h => h)
  | torus center r0 r1 material frame =>
    exact m.drawSolid_within hdraw o ((Solid.torus_within center r0 r1 o.step).mono hvalue)
      hmaterial (hframe frame fun _ h => h)
  | line p0 p1 material frame0 frame1 =>
    exact m.drawLine_within hdraw o p0 p1 (hframe frame0 fun _ h => List.mem_append_left _ h)
      (hframe frame1 fun _ h => List.mem_append_right _ h)
  | set target value => exact hwrite.map _
  | setKnobs value => exact hwrite.map _
  | saveCoordSystem name => exact hwrite.map _
  | _ => exact .ok _

/-- The kinds of failures of instructions other than a pop. -/
theorem step_within (o : Options) {op : Opcode α} (hop : op.form ≠ .pop) :
    Within stepFailures (m.step o op).result := by
  refine m.step_within_of (by decide) o hop ((m.factor_within _).mono (by decide))
    ((m.passOver_within _).mono (by decide))
    (fun frame _ => (m.frameMatrix_within _).mono (by decide)) ?_
  cases op with
  | set target value => exact (m.symbols.set_within target value).mono (by decide)
  | setKnobs value => exact (m.symbols.setAll_within value).mono (by decide)
  | saveCoordSystem name => exact (m.symbols.setMatrix_within name _).mono (by decide)
  | _ => exact .ok _

/-- **Only a pop fails for want of a coordinate system.** -/
theorem eq_pop_of_emptyStack {o : Options} {op : Opcode α} {e : Error}
    (h : (m.step o op).result = .error e) (hkind : e.kind = .emptyStack) : op = .pop := by
  by_cases hform : op.form = .pop
  · cases op with
    | pop => rfl
    | _ => cases hform
  · have hmem := m.step_within o hform e h
    rw [hkind] at hmem
    exact absurd hmem (by decide)

end Machine

end Wireframe
