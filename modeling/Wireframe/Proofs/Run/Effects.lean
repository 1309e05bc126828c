import Wireframe.Proofs.Raster.InPlace
import Wireframe.Proofs.Run.Parts
import Wireframe.Proofs.Symbols.Atomicity

/-!
# `Wireframe.Proofs.Run.Effects` — what an instruction touches

Written out write by write, an instruction looks up and checks whatever it needs before its first write, and
drawing, which writes pixel by pixel, does not fail on the way. So an instruction that fails leaves the
stack, the symbols, the picture and the list of saved pictures as they were, and one that succeeds changes
one of them: its own.

## Contents
- `Machine.stepInPlace`, `stepInPlace_eq`: what instructions change, write by write.
- `Opcode.Touches`, `Opcode.Keeps`, `step_touches`: the part that an instruction changes.
- `Setup.handle`, `handle_eq`: instructions with those outside, write by write.
- `instruction_effects`: what an instruction touches.
-/

namespace Wireframe

open Document InPlace

variable {α : Type}

/-! ## Instructions write by write -/

namespace Machine

/-- Work on the symbols. -/
def onSymbols (a : InPlace (Symbols α) Unit) : InPlace (Machine α) Unit :=
  onPart (fun m => m.symbols) (fun m s => { m with symbols := s }) a

/-- Work on the picture. -/
def onScreen (a : InPlace Screen Unit) : InPlace (Machine α) Unit :=
  onPart (fun m => m.screen) (fun m s => { m with screen := s }) a

variable [Scalar α]

/-- Draws a solid: it is built, its material and its coordinate system are looked up, and then its edges
are drawn. -/
def drawSolidInPlace (o : Options) (solid : Except Error (Geometry α)) (material frame : Option Name) :
    InPlace (Machine α) Unit := do
  let g ← look fun _ => solid
  let _ ← look fun m => m.passOver material
  let t ← look fun m => m.frameMatrix frame
  onScreen (Raster.drawInPlace ((g.transform t).segments true) o.lineColor.toValue)

/-- Draws a line: both coordinate systems are looked up first. -/
def drawLineInPlace (o : Options) (p0 p1 : Vec3 α) (frame0 frame1 : Option Name) :
    InPlace (Machine α) Unit := do
  let m0 ← look fun m => m.frameMatrix frame0
  let m1 ← look fun m => m.frameMatrix frame1
  let ends := m0.apply [p0] ++ m1.apply [p1]
  onScreen (Raster.drawInPlace ((Geometry.ofPolylines [ends.map Geometry.store]).segments false)
    o.lineColor.toValue)

variable [Angle α] [Shown α]

/-- What an instruction changes, write by write. -/
def stepInPlace (o : Options) : Opcode α → InPlace (Machine α) Unit
  | .push => modify fun m => { m with stack := m.stack.push }
  | .pop => do
    let r ← look fun m => m.stack.pop
    modify fun m => { m with stack := r.2 }
  | .move delta knob => do
    let k ← look fun m => m.factor knob
    modify fun m => m.transform (.translation (delta.scale k))
  | .scale delta knob => do
    let k ← look fun m => m.factor knob
    modify fun m => m.transform (.scaling (delta.scale k))
  | .rotate axis degrees knob => do
    let k ← look fun m => m.factor knob
    let t ← look fun _ => Matrix.rotation axis (radians (degrees * k))
    modify fun m => m.transform t
  | .box c0 c1 material frame => drawSolidInPlace o (.ok (Solid.box c0 c1)) material frame
  | .sphere center radius material frame =>
    drawSolidInPlace o (Solid.sphere center radius o.step) material frame
  | .torus center r0 r1 material frame =>
    drawSolidInPlace o (Solid.torus center r0 r1 o.step) material frame
  | .line p0 p1 _ frame0 frame1 => drawLineInPlace o p0 p1 frame0 frame1
  | .set target value => onSymbols (Symbols.setInPlace target (.ok value))
  | .setKnobs value => onSymbols (Symbols.setAllInPlace (.ok value))
  | .saveCoordSystem name => do
    let t ← look fun m => .ok m.stack.top
    onSymbols (Symbols.setMatrixInPlace name (.ok t.toTensor))
  | .save _ | .display | .frames _ | .basename _ | .vary .. => pure ()

omit [Shown α] [Angle α] [Scalar α] in
theorem onSymbols_atOnce (f : Symbols α → Except Error (Symbols α)) :
    onSymbols (atOnce f) = atOnce fun m => m.withSymbols (f m.symbols) := onPart_atOnce (fun _ => rfl) f

/-- A drawing on the screen of a machine, in which all pixels can be found, is one change. -/
theorem onScreen_draw {segments : List (Segment Float)}
    (h : ∀ screen, ∃ walks, Raster.visits segments screen = .ok walks) (color : Value) :
    onScreen (Raster.drawInPlace segments color) = atOnce fun m : Machine Float =>
      (Raster.drawSegments segments color m.screen).map fun r => { m with screen := r.1 } := by
  rw [Raster.drawInPlace_eq h, onScreen, onPart_atOnce fun _ => rfl]
  refine congrArg atOnce (funext fun m => ?_)
  cases Raster.drawSegments segments color m.screen <;> rfl

/-- A solid is drawn at once or not at all. -/
theorem drawSolidInPlace_eq (o : Options) (solid : Except Error (Geometry Float))
    (material frame : Option Name) :
    drawSolidInPlace o solid material frame = atOnce fun m => (m.drawSolid o solid material frame).result := by
  have hdraw : ∀ (g : Geometry Float) (t : Matrix Float),
      onScreen (Raster.drawInPlace ((g.transform t).segments true) o.lineColor.toValue) =
        atOnce fun m => m.drawEdges o g t :=
    fun g t => onScreen_draw (Raster.visits_transform g t) o.lineColor.toValue
  simp only [drawSolidInPlace, hdraw, look_atOnce]
  refine congrArg atOnce (funext fun m => ?_)
  cases solid with
  | error e => rfl
  | ok g =>
    simp only [drawSolid, bind, Except.bind]
    cases m.passOver material <;> rfl

/-- A line is drawn at once or not at all. -/
theorem drawLineInPlace_eq (o : Options) (p0 p1 : Vec3 Float) (frame0 frame1 : Option Name) :
    drawLineInPlace o p0 p1 frame0 frame1 = atOnce fun m => m.drawLine o p0 p1 frame0 frame1 := by
  have hdraw : ∀ ends : List (Vec3 Float),
      onScreen (Raster.drawInPlace ((Geometry.ofPolylines [ends.map Geometry.store]).segments false)
          o.lineColor.toValue) =
        atOnce fun m : Machine Float =>
          (Raster.drawLines (.ofPolylines [ends.map Geometry.store]) o.lineColor.toValue m.screen).map
            fun r => { m with screen := r.1 } :=
    fun ends => onScreen_draw
      (Raster.visits_stored (Geometry.Sound.ofPolylines [ends]).stored false) o.lineColor.toValue
  simp only [drawLineInPlace, hdraw, look_atOnce]
  refine congrArg atOnce (funext fun m => ?_)
  simp only [drawLine, bind, Except.bind]
  cases m.frameMatrix frame0 with
  | error e => rfl
  | ok m0 =>
    cases m.frameMatrix frame1 with
    | error e => rfl
    | ok m1 =>
      dsimp only
      cases Raster.drawLines (.ofPolylines [(m0.apply [p0] ++ m1.apply [p1]).map Geometry.store])
        o.lineColor.toValue m.screen <;> rfl

/-- **Checks first, writes last.** Write by write, an instruction comes to its step: it makes all changes, or
none if it fails. -/
theorem stepInPlace_eq (o : Options) (op : Opcode Float) :
    stepInPlace o op = atOnce fun m => (m.step o op).result := by
  cases op with
  | push => rfl
  | pop => exact look_modify _ _
  | move delta knob => exact look_modify _ _
  | scale delta knob => exact look_modify _ _
  | rotate axis degrees knob =>
    simp only [stepInPlace, modify_eq, look_atOnce]
    rfl
  | box c0 c1 material frame => exact drawSolidInPlace_eq o _ material frame
  | sphere center radius material frame => exact drawSolidInPlace_eq o _ material frame
  | torus center r0 r1 material frame => exact drawSolidInPlace_eq o _ material frame
  | line p0 p1 material frame0 frame1 => exact drawLineInPlace_eq o p0 p1 frame0 frame1
  | set target value =>
    rw [stepInPlace, Symbols.setInPlace_eq, onSymbols_atOnce]
    rfl
  | setKnobs value =>
    rw [stepInPlace, Symbols.setAllInPlace_eq, onSymbols_atOnce]
    rfl
  | saveCoordSystem name =>
    simp only [stepInPlace, Symbols.setMatrixInPlace_eq, onSymbols_atOnce, look_atOnce]
    rfl
  | _ => rfl

end Machine

/-! ## What an instruction that succeeds changes -/

/-- The part of a machine that an instruction changes. -/
def Opcode.Touches (m m' : Machine α) : Opcode α → Prop
  | .push => ∃ stack : Stack α, m' = { m with stack := stack } ∧
      stack.entries = m.stack.entries ++ [m.stack.top]
  | .pop => ∃ stack : Stack α, m' = { m with stack := stack } ∧
      m.stack.entries = stack.entries ++ [m.stack.top]
  | .move .. | .scale .. | .rotate .. => ∃ top, m' = { m with stack := { m.stack with top := top } }
  | .box .. | .sphere .. | .torus .. | .line .. => ∃ screen, m' = { m with screen := screen } ∧
      m.screen.SameFrame screen
  | .set target value => ∃ values, m' = { m with symbols := { m.symbols with values := values } } ∧
      ∀ x, values.find? x = if target.denotes x then some value else m.symbols.values.find? x
  | .setKnobs value => ∃ values, m' = { m with symbols := { m.symbols with values := values } } ∧
      (∀ x, m.symbols.kind? x = some .value → values.find? x = some value) ∧
      ∀ x, m.symbols.knobs.any (· == x) = false → values.find? x = m.symbols.values.find? x
  | .saveCoordSystem name =>
    ∃ matrices, m' = { m with symbols := { m.symbols with matrices := matrices } } ∧
      ∀ x, matrices.find? x =
        if name.denotes x then some m.stack.top else m.symbols.matrices.find? x
  | .save _ | .display | .frames _ | .basename _ | .vary .. => m' = m

/-- Whether the list of saved pictures grows by one, which only saving a picture does. -/
def Opcode.Keeps (saved saved' : List Path) : Opcode α → Prop
  | .save _ => ∃ path, saved' = saved ++ [path]
  | _ => saved' = saved

section

variable {m m' : Machine α}

theorem Machine.touches_pop (h : m.pop = .ok m') : Opcode.Touches m m' .pop := by
  obtain ⟨r, hr, rfl⟩ := map_ok h
  unfold Stack.pop at hr
  split at hr
  · cases hr
  · next t rest hbelow =>
    cases hr
    refine ⟨⟨t, rest⟩, rfl, ?_⟩
    rw [Stack.entries, hbelow, List.reverse_cons]
    rfl

theorem Machine.touches_set {target : Name} {value : α} (h : m.set target value = .ok m') :
    Opcode.Touches m m' (.set target value) := by
  obtain ⟨s, hs, rfl⟩ := map_ok h
  obtain ⟨k, hkey, -, rfl⟩ := m.symbols.set_eq_ok.mp hs
  refine ⟨_, rfl, fun x => ?_⟩
  rw [Dict.find_insert, Value.denotes_of_label hkey]

theorem Machine.touches_setAll {value : α} (h : m.withSymbols (m.symbols.setAll value) = .ok m') :
    Opcode.Touches m m' (.setKnobs value) := by
  rw [m.symbols.setAll_eq] at h
  cases h
  refine ⟨_, rfl, fun x hx => ?_, fun x hx => ?_⟩
  · rw [Dict.find_foldl_insert, if_pos (m.symbols.knobs_any hx)]
  · rw [Dict.find_foldl_insert, if_neg (Bool.eq_false_iff.mp hx)]

theorem Machine.touches_setMatrix {name : Name}
    (h : m.withSymbols (m.symbols.setMatrix name m.stack.top) = .ok m') :
    Opcode.Touches m m' (.saveCoordSystem name) := by
  obtain ⟨s, hs, rfl⟩ := map_ok h
  obtain ⟨k, hkey, -, rfl⟩ := m.symbols.setMatrix_eq_ok.mp hs
  refine ⟨_, rfl, fun x => ?_⟩
  rw [Dict.find_insert, Value.denotes_of_label hkey]

variable [Scalar α] [Angle α] [Shown α]

/-- **Each instruction changes its own part.** -/
theorem Machine.step_touches {o : Options} {op : Opcode α} (h : (m.step o op).result = .ok m') :
    op.Touches m m' := by
  have hpaint : ∀ c ps, m' = { m with screen := (Raster.paintAll c (m.screen, 0) ps).1 } →
      ∃ screen, m' = { m with screen := screen } ∧ m.screen.SameFrame screen :=
    fun c ps h => ⟨_, h, Raster.paintAll_frame c (m.screen, 0) ps⟩
  cases op with
  | push =>
    cases h
    exact ⟨m.stack.push, rfl, Scope.entries_push m.stack⟩
  | pop => exact touches_pop h
  | move delta knob =>
    obtain ⟨k, -, rfl⟩ := map_ok h
    exact ⟨_, rfl⟩
  | scale delta knob =>
    obtain ⟨k, -, rfl⟩ := map_ok h
    exact ⟨_, rfl⟩
  | rotate axis degrees knob =>
    obtain ⟨k, t, -, -, rfl⟩ := rotate_ok h
    exact ⟨_, rfl⟩
  | box c0 c1 material frame =>
    obtain ⟨c, ps, hpainted⟩ := drawSolid_ok h
    exact hpaint c ps hpainted
  | sphere center radius material frame =>
    obtain ⟨c, ps, hpainted⟩ := drawSolid_ok h
    exact hpaint c ps hpainted
  | torus center r0 r1 material frame =>
    obtain ⟨c, ps, hpainted⟩ := drawSolid_ok h
    exact hpaint c ps hpainted
  | line p0 p1 material frame0 frame1 =>
    obtain ⟨c, ps, hpainted⟩ := drawLine_ok h
    exact hpaint c ps hpainted
  | set target value => exact touches_set h
  | setKnobs value => exact touches_setAll h
  | saveCoordSystem name => exact touches_setMatrix h
  | _ =>
    cases h
    rfl

end

/-! ## Instructions with those outside -/

namespace Run

variable {ω β : Type}

/-- Asks those outside; they keep in mind that they were asked, even if they fail. -/
def ask (reply : State α ω → Reply ω β) : InPlace (State α ω) β :=
  ofOutcome fun s => ({ s with world := (reply s).world }, (reply s).result)

/-- Work on what instructions change. -/
def onMachine (a : InPlace (Machine α) Unit) : InPlace (State α ω) Unit :=
  onPart (fun s => s.machine) (fun s m => { s with machine := m }) a

variable [Scalar α] [Angle α] [Shown α]

/-- An instruction, write by write, with those outside. -/
def Setup.handle (c : Setup α ω) : Opcode α → InPlace (State α ω) Unit
  | .save filename => do
    let path ← look fun _ => Path.ofValue filename
    let answer ← ask fun s => c.outside.save s.machine.screen path s.world
    modify fun s => { s with saved := s.saved ++ [answer.getD path] }
  | .display => ask fun s => c.outside.view s.machine.screen s.world
  | op => onMachine (Machine.stepInPlace c.options op)

omit [Scalar α] [Angle α] [Shown α] in
/-- An instruction that changes the machine at once is one change of the state. -/
theorem onMachine_atOnce (f : Machine α → Step α) :
    (onMachine (atOnce fun m => (f m).result) : InPlace (State α ω) Unit) =
      ofOutcome fun s => ((Action.advance f s).state, (Action.advance f s).result) := by
  funext s
  rw [onMachine, onPart_atOnce fun _ => rfl]
  simp only [atOnce, ofOutcome, Action.advance]
  cases (f s.machine).result <;> rfl

/-- Write by write, an instruction comes to what a run does. -/
theorem Setup.handle_eq (c : Setup Float ω) (op : Opcode Float) :
    c.handle op = ofOutcome fun s => ((c.exec op s).state, (c.exec op s).result) := by
  cases op with
  | save filename =>
    funext s
    show _ = ofOutcome (fun s => ((c.saveAs filename s).state, (c.saveAs filename s).result)) s
    cases hpath : Path.ofValue filename with
    | error e =>
      rw [handle, look_bind_error (s := s) hpath]
      simp only [ofOutcome, c.saveAs_of_path_error hpath]
    | ok path =>
      rw [handle, look_bind_ok (s := s) hpath]
      simp only [ofOutcome, c.saveAs_apply hpath, bind, EStateM.bind, ask]
      cases (c.outside.save s.machine.screen path s.world).result <;> rfl
  | display => rfl
  | _ => exact (congrArg onMachine (Machine.stepInPlace_eq c.options _)).trans (onMachine_atOnce _)

/-! ## What an instruction touches -/

section

variable (c : Setup α ω)

theorem Setup.exec_touches {op : Opcode α} {s : State α ω} {u : Unit} (h : (c.exec op s).result = .ok u) :
    op.Touches s.machine (c.exec op s).state.machine :=
  Machine.step_touches (c.exec_machine h)

/-- Instructions other than saving a picture leave the list of saved pictures. -/
theorem Setup.exec_saved {op : Opcode α} (hop : op.form ≠ .save) (s : State α ω) :
    (c.exec op s).state.saved = s.saved := by
  rcases c.exec_cases op with ⟨filename, rfl⟩ | rfl | ⟨-, -, hexec⟩
  · exact absurd rfl hop
  · rfl
  · rw [hexec]
    simp only [Action.advance]
    split <;> rfl

theorem Setup.exec_failed_saved {op : Opcode α} {s : State α ω} {e : Error}
    (h : (c.exec op s).result = .error e) : (c.exec op s).state.saved = s.saved := by
  rcases c.exec_cases op with ⟨filename, rfl⟩ | rfl | ⟨hsave, -, -⟩
  · change (c.saveAs filename s).result = .error e at h
    show (c.saveAs filename s).state.saved = s.saved
    cases hpath : Path.ofValue filename with
    | error e' => rw [c.saveAs_of_path_error hpath]
    | ok path =>
      rw [c.saveAs_apply hpath] at h ⊢
      cases hr : (c.outside.save s.machine.screen path s.world).result with
      | error e' => simp only [hr]
      | ok answer =>
        simp only [hr] at h
        cases h
  · rfl
  · exact c.exec_saved hsave s

theorem Setup.exec_keeps {op : Opcode α} {s : State α ω} {u : Unit} (h : (c.exec op s).result = .ok u) :
    op.Keeps s.saved (c.exec op s).state.saved := by
  cases op with
  | save filename =>
    change (c.saveAs filename s).result = .ok u at h
    show ∃ path, (c.saveAs filename s).state.saved = s.saved ++ [path]
    cases hpath : Path.ofValue filename with
    | error e =>
      rw [c.saveAs_of_path_error hpath] at h
      cases h
    | ok path =>
      rw [c.saveAs_apply hpath] at h ⊢
      cases hr : (c.outside.save s.machine.screen path s.world).result with
      | error e =>
        simp only [hr] at h
        cases h
      | ok answer => exact ⟨answer.getD path, by simp only [hr]⟩
  | _ => exact c.exec_saved (by nofun) s

end

/-- **Every instruction touches its own part, and a failing one touches nothing.** Whatever the setup and
the state: an instruction run write by write comes to what a run makes of it; if it fails, the stack, the
symbols, the picture and the list of saved pictures are as they were; and if it succeeds, it has changed its
own part of them alone. -/
theorem instruction_effects (c : Setup Float ω) (op : Opcode Float) (s : State Float ω) :
    (∀ e s', c.handle op s = .error e s' ↔ (c.exec op s).result = .error e ∧ (c.exec op s).state = s') ∧
    (∀ s', c.handle op s = .ok () s' ↔ (c.exec op s).result = .ok () ∧ (c.exec op s).state = s') ∧
    (∀ e s', c.handle op s = .error e s' → s'.machine = s.machine ∧ s'.saved = s.saved) ∧
    (∀ s', c.handle op s = .ok () s' →
      op.Touches s.machine s'.machine ∧ op.Keeps s.saved s'.saved) := by
  have herror : ∀ e s', c.handle op s = .error e s' ↔
      (c.exec op s).result = .error e ∧ (c.exec op s).state = s' := by
    intro e s'
    rw [c.handle_eq, ofOutcome_eq_error, Prod.mk.injEq, and_comm]
  have hok : ∀ s', c.handle op s = .ok () s' ↔
      (c.exec op s).result = .ok () ∧ (c.exec op s).state = s' := by
    intro s'
    rw [c.handle_eq, ofOutcome_eq_ok, Prod.mk.injEq, and_comm]
  refine ⟨herror, hok, fun e s' h => ?_, fun s' h => ?_⟩
  · obtain ⟨hfailed, rfl⟩ := (herror e s').mp h
    exact ⟨c.exec_failed_machine hfailed, c.exec_failed_saved hfailed⟩
  · obtain ⟨hdone, rfl⟩ := (hok s').mp h
    exact ⟨c.exec_touches hdone, c.exec_keeps hdone⟩

end Run

end Wireframe
