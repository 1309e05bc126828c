import Wireframe.Proofs.DeclarationOrder
import Wireframe.Proofs.Interleaving
import Wireframe.Proofs.Run.History
import Wireframe.Run.Preparation
import Mathlib.Data.List.Forall2

/-!
# `Wireframe.Proofs.Run.Interleaving` — where the setups of a program stand

Instructions that set up an animation do nothing when the program runs. A run therefore comes to the same
wherever they stand among the others: it has the same result, makes the same calls and leaves the same
state, up to the order in which names were declared. What it reports is the same too, but for the numbers
of instructions, the traces of the setups themselves and the order of the rows in the tables of knobs.

Where instructions are traced, a setup that cannot be written ends the run at the place where it stands; so
in that case the setups must be such as can be written.

## Contents
- `Note.Like`, `NotesLike`, `State.Similar`, `Outcome.Similar`: what may differ.
- `Parallel`: parts of two runs that keep it so, from single actions to `run_parallel`.
- `interleaved_runs`: programs, from their table and their plan on.
-/

namespace Wireframe.Run

open Document

variable {α ω β γ : Type}

/-! ## What may differ -/

namespace Note

/-- The trace of an instruction that sets up an animation, by the keyword of its line. -/
def isSetupTrace : Note → Bool
  | .traced _ line => [Form.frames, .basename, .vary].any fun f => firstWord line == f.keyword
  | _ => false

theorem isSetupTrace_traced [Shown α] {op : Opcode α} {line : String} (h : op.describe = .ok line)
    (i : Nat) : (Note.traced i line).isSetupTrace = op.isSetup := by
  have hkeywords : ∀ f : Form, ([Form.frames, .basename, .vary].any fun g => f.keyword == g.keyword) =
      decide (f ∈ [Form.frames, .basename, .vary]) := by
    intro f
    cases f <;> decide
  rw [isSetupTrace, Opcode.firstWord_describe h, Opcode.keyword, hkeywords]
  cases op <;> rfl

/-- Notes that differ in the numbers of instructions and in the order of the knobs alone. -/
inductive Like : Note → Note → Prop
  | same (n : Note) : Like n n
  | traced (i j : Nat) (line : String) : Like (.traced i line) (.traced j line)
  | failed (frame i j : Nat) (line : String) : Like (.failed frame i line) (.failed frame j line)
  | knobs (frame : Nat) {rows rows' : List String} (h : rows.Perm rows') :
      Like (.knobs frame (Symbols.tableOf rows)) (.knobs frame (Symbols.tableOf rows'))

end Note

/-- The notes without the traces of setups. -/
def untraced (ns : List Note) : List Note := ns.filter fun n => !n.isSetupTrace

/-- Notes that are alike one by one, where traces of setups are left out. -/
def NotesLike (ns ns' : List Note) : Prop := List.Forall₂ Note.Like (untraced ns) (untraced ns')

theorem untraced_append (ns ms : List Note) : untraced (ns ++ ms) = untraced ns ++ untraced ms :=
  List.filter_append ..

namespace NotesLike

theorem refl (ns : List Note) : NotesLike ns ns := List.forall₂_same.mpr fun n _ => .same n

theorem append {ns ns' ms ms' : List Note} (h : NotesLike ns ns') (h' : NotesLike ms ms') :
    NotesLike (ns ++ ms) (ns' ++ ms') := by
  rw [NotesLike, untraced_append, untraced_append]
  exact List.rel_append h h'

theorem single {n n' : Note} (h : n.Like n') : NotesLike [n] [n'] := by
  cases h with
  | same n => exact refl [n]
  | traced i j line =>
    have hsame : (Note.traced i line).isSetupTrace = (Note.traced j line).isSetupTrace := rfl
    cases hsetup : (Note.traced j line).isSetupTrace with
    | true => simp [NotesLike, untraced, hsame, hsetup]
    | false => simp [NotesLike, untraced, hsame, hsetup, Note.Like.traced]
  | failed frame i j line => exact .cons (.failed frame i j line) .nil
  | knobs frame hrows => exact .cons (.knobs frame hrows) .nil

end NotesLike

/-- States that differ in the order of their symbols alone. -/
structure State.Similar (s t : State α ω) : Prop where
  machine : s.machine.Reordered t.machine
  saved : s.saved = t.saved
  world : s.world = t.world

/-- Outcomes with the same result and the same calls, whose states and notes differ as little as they can. -/
structure Outcome.Similar (p q : Outcome α ω β) : Prop where
  result : p.result = q.result
  state : p.state.Similar q.state
  calls : p.calls = q.calls
  notes : NotesLike p.notes q.notes

/-! ## Parts of two runs -/

namespace Action

/-- Parts of two runs that come to similar outcomes in similar states. -/
def Parallel (a a' : Action α ω β) : Prop := ∀ s t, s.Similar t → (a s).Similar (a' t)

theorem Parallel.bind {a a' : Action α ω β} {f f' : β → Action α ω γ} (ha : Parallel a a')
    (hf : ∀ b, Parallel (f b) (f' b)) : Parallel (a >>= f) (a' >>= f') := by
  intro s t hst
  have h := ha s t hst
  rw [bind_apply, bind_apply]
  cases hr : (a s).result with
  | error e =>
    rw [Outcome.andThen_of_error hr, Outcome.andThen_of_error (h.result ▸ hr)]
    exact ⟨rfl, h.state, h.calls, h.notes⟩
  | ok b =>
    have hnext := hf b _ _ h.state
    rw [Outcome.andThen_of_ok hr, Outcome.andThen_of_ok (h.result ▸ hr)]
    refine ⟨hnext.result, hnext.state, ?_, h.notes.append hnext.notes⟩
    show (a s).calls ++ _ = (a' t).calls ++ _
    rw [h.calls, hnext.calls]

theorem parallel_lift (r : Except Error β) : Parallel (lift r : Action α ω β) (lift r) :=
  fun _ _ h => ⟨rfl, h, rfl, .refl []⟩

theorem parallel_pure (b : β) : Parallel (pure b : Action α ω β) (pure b) :=
  fun _ _ h => ⟨rfl, h, rfl, .refl []⟩

theorem parallel_saved : Parallel (look State.saved : Action α ω (List Path)) (look State.saved) :=
  fun _ _ h => ⟨congrArg Except.ok h.saved, h, rfl, .refl []⟩

theorem parallel_note {n n' : Note} (h : n.Like n') : Parallel (note n : Action α ω Unit) (note n') :=
  fun _ _ hst => ⟨rfl, hst, rfl, .single h⟩

theorem parallel_keep (path : Path) : Parallel (keep path : Action α ω Unit) (keep path) :=
  fun _ _ h => ⟨rfl, ⟨h.machine, congrArg (· ++ [path]) h.saved, h.world⟩, rfl, .refl []⟩

/-- Those outside are in the same world, and give the same answer. -/
theorem parallel_consult (ask : ω → Reply ω β) :
    Parallel (consult ask : Action α ω β) (consult ask) := by
  intro s t h
  simp only [consult, h.world]
  exact ⟨rfl, ⟨h.machine, h.saved, rfl⟩, rfl, .refl _⟩

theorem parallel_call (request : Request) (ask : Screen → ω → Reply ω β) :
    Parallel (call request ask : Action α ω β) (call request ask) := by
  intro s t h
  simp only [call, h.world, h.machine.stack, h.machine.screen]
  exact ⟨rfl, ⟨h.machine, h.saved, rfl⟩, rfl, .refl _⟩

theorem parallel_change {f : Machine α → Except Error (Machine α)}
    (hf : ∀ m n, m.Reordered n → (∃ e, f m = .error e ∧ f n = .error e) ∨
      ∃ m' n', f m = .ok m' ∧ f n = .ok n' ∧ m'.Reordered n') :
    Parallel (change f : Action α ω Unit) (change f) := by
  intro s t h
  simp only [change]
  rcases hf _ _ h.machine with ⟨e, he, he'⟩ | ⟨m', n', hm, hn, hmn⟩
  · rw [he, he']
    exact ⟨rfl, h, rfl, .refl []⟩
  · rw [hm, hn]
    exact ⟨rfl, ⟨hmn, h.saved, h.world⟩, rfl, .refl []⟩

theorem parallel_advance {f : Machine α → Step α}
    (hf : ∀ m n, m.Reordered n → (f m).passedOver = (f n).passedOver ∧
      ((∃ e, (f m).result = .error e ∧ (f n).result = .error e) ∨
        ∃ m' n', (f m).result = .ok m' ∧ (f n).result = .ok n' ∧ m'.Reordered n')) :
    Parallel (advance f : Action α ω Unit) (advance f) := by
  intro s t h
  obtain ⟨hpassed, hresult⟩ := hf _ _ h.machine
  simp only [advance, hpassed]
  rcases hresult with ⟨e, he, he'⟩ | ⟨m', n', hm, hn, hmn⟩
  · rw [he, he']
    exact ⟨rfl, h, rfl, .refl _⟩
  · rw [hm, hn]
    exact ⟨rfl, ⟨hmn, h.saved, h.world⟩, rfl, .refl _⟩

end Action

namespace Setup

open Run.Action

/-- The same run for another program. -/
def withOps (c : Setup α ω) (ops : List (Opcode α)) : Setup α ω := { c with ops := ops }

variable (c : Setup α ω)

theorem saveAs_parallel (filename : Name) : Parallel (c.saveAs filename) (c.saveAs filename) :=
  (parallel_lift _).bind fun _ => (parallel_call _ _).bind fun _ =>
    (parallel_note (.same _)).bind fun _ => parallel_keep _

theorem openDirectory_parallel : Parallel c.openDirectory c.openDirectory :=
  (parallel_lift _).bind fun _ => (parallel_consult _).bind fun _ =>
    (parallel_lift _).bind fun _ => parallel_pure _

theorem saveFrame_parallel (directory : Path) (k : Nat) :
    Parallel (c.saveFrame directory k) (c.saveFrame directory k) := by
  rw [saveFrame_eq]
  split
  · exact parallel_lift _
  · split
    · exact parallel_lift _
    · exact (parallel_call _ _).bind fun _ => (parallel_note (.same _)).bind fun _ => parallel_pure _

omit c in
theorem setKnobs_parallel (entries : List (Label × α)) :
    Parallel (setKnobs entries : Action α ω Unit) (setKnobs entries) := by
  induction entries with
  | nil => exact parallel_pure ()
  | cons entry rest ih =>
    exact (parallel_change fun m n h => Machine.set_reordered h entry.1.value entry.2).bind fun _ => ih

/-- The tables of knobs have the same rows. -/
theorem showKnobs_parallel [Shown α] (k : Nat) : Parallel (c.showKnobs k) (c.showKnobs k) := by
  intro s t h
  unfold showKnobs
  split
  · obtain ⟨rows, rows', hperm, hs, ht⟩ := Symbols.knobTable_reordered h.machine.symbols
    have hshown : ∀ {u : State α ω} {table : String}, u.machine.symbols.knobTable = .ok table →
        (look (fun s => s.machine.symbols.knobTable) >>= fun table => lift table >>= fun table =>
          note (.knobs k table)) u = ⟨.ok (), u, [], [.knobs k table]⟩ := by
      intro u table hu
      show (lift u.machine.symbols.knobTable u).andThen _ = _
      rw [hu]
      rfl
    rw [hshown hs, hshown ht]
    exact ⟨rfl, h, rfl, .single (.knobs k hperm)⟩
  · exact parallel_pure () s t h

theorem applyKnobs_parallel [Shown α] (k : Nat) : Parallel (c.applyKnobs k) (c.applyKnobs k) := by
  unfold applyKnobs
  split
  · exact parallel_pure ()
  · exact (parallel_lift _).bind fun knobs => (setKnobs_parallel _).bind fun _ => c.showKnobs_parallel k

variable [Scalar α] [Angle α] [Shown α]

theorem exec_parallel (op : Opcode α) : Parallel (c.exec op) (c.exec op) := by
  rcases c.exec_cases op with ⟨filename, rfl⟩ | rfl | ⟨-, -, he⟩
  · exact c.saveAs_parallel filename
  · exact parallel_call .view c.outside.view
  · rw [he]
    exact parallel_advance fun m n h => Machine.step_reordered h op

omit c [Scalar α] [Angle α] in
/-- The line of an instruction is noted with one number or another. -/
theorem lineNotes_like (op : Opcode α) {n n' : String → Note} (h : ∀ line, (n line).Like (n' line)) :
    NotesLike (lineNotes op n) (lineNotes op n') := by
  unfold lineNotes
  split
  · exact .single (h _)
  · exact .refl []

/-- An instruction may have another number. -/
theorem perform_parallel (k i j : Nat) (op : Opcode α) :
    Parallel (c.perform k i op) (c.perform k j op) := by
  intro s t h
  rcases c.admits_or_barred op with hadmits | ⟨e, ht, hline⟩
  · have hexec := c.exec_parallel op s t h
    rw [c.perform_apply hadmits, c.perform_apply hadmits]
    refine ⟨congrArg (Except.mapError op.handedOn) hexec.result, hexec.state, hexec.calls,
      NotesLike.append (.append ?_ hexec.notes) ?_⟩
    · unfold tracing
      split
      · exact lineNotes_like op (.traced i j)
      · exact .refl []
    · rw [← hexec.result]
      split
      · exact .refl []
      · exact lineNotes_like op (.failed k i j)
  · rw [c.perform_of_barred ht hline, c.perform_of_barred ht hline]
    exact ⟨rfl, h, rfl, .refl []⟩

/-- An instruction that sets up an animation is at most traced. -/
theorem perform_setup {op : Opcode α} (h : op.isSetup = true) (hadmits : c.Admits op) (k i : Nat)
    (s : State α ω) : c.perform k i op s = ⟨.ok (), s, [], c.tracing i op⟩ := by
  have hexec : c.exec op s = ⟨.ok (), s, [], []⟩ := by
    cases op with
    | frames count => rfl
    | basename name => rfl
    | vary target first last startVal endVal => rfl
    | _ => cases h
  rw [c.perform_apply hadmits, hexec]
  simp only [Except.mapError, List.append_nil]

/-- Leaving out an instruction that sets up an animation changes nothing but the traces. -/
theorem runOps_setup {op : Opcode α} (h : op.isSetup = true) (hadmits : c.Admits op) (k i : Nat)
    (rest : List (Opcode α)) (s : State α ω) :
    ∃ notes, untraced notes = [] ∧
      c.runOps k i (op :: rest) s =
        { c.runOps k (i + 1) rest s with notes := notes ++ (c.runOps k (i + 1) rest s).notes } := by
  refine ⟨c.tracing i op, ?_, ?_⟩
  · unfold tracing lineNotes
    split
    · split
      · next line hline => simp [untraced, Note.isSetupTrace_traced hline, h]
      · rfl
    · rfl
  · rw [runOps_cons, c.perform_setup h hadmits]
    rfl

/-- **Instructions with the same scene.** -/
theorem runOps_parallel {ops ops' : List (Opcode α)} (h : SameScene ops ops')
    (hops : ∀ op ∈ ops, op.isSetup = true → c.Admits op)
    (hops' : ∀ op ∈ ops', op.isSetup = true → c.Admits op) (k i j : Nat) :
    Parallel (c.runOps k i ops) (c.runOps k j ops') := by
  induction h generalizing i j with
  | nil => exact parallel_pure ()
  | @left op ops ops' hop _ ih =>
    intro s t hst
    obtain ⟨hadmits, hops⟩ := List.forall_mem_cons.mp hops
    obtain ⟨notes, hnotes, hrun⟩ := c.runOps_setup hop (hadmits hop) k i ops s
    have hrest := ih hops hops' (i + 1) j s t hst
    rw [hrun]
    refine ⟨hrest.result, hrest.state, hrest.calls, ?_⟩
    rw [NotesLike, untraced_append, hnotes]
    exact hrest.notes
  | @right op ops ops' hop _ ih =>
    intro s t hst
    obtain ⟨hadmits, hops'⟩ := List.forall_mem_cons.mp hops'
    obtain ⟨notes, hnotes, hrun⟩ := c.runOps_setup hop (hadmits hop) k j ops' t
    have hrest := ih hops hops' i (j + 1) s t hst
    rw [hrun]
    refine ⟨hrest.result, hrest.state, hrest.calls, ?_⟩
    rw [NotesLike, untraced_append, hnotes]
    exact hrest.notes
  | @both op ops ops' _ _ ih =>
    have hrest := ih (List.forall_mem_cons.mp hops).2 (List.forall_mem_cons.mp hops').2
    exact (c.perform_parallel k i j op).bind fun _ => hrest (i + 1) (j + 1)

/-! ## Frames and whole runs -/

variable {ops' : List (Opcode α)}

/-- The setups of both programs get to run. -/
def AdmitsSetups (ops' : List (Opcode α)) : Prop :=
  (∀ op ∈ c.ops, op.isSetup = true → c.Admits op) ∧ ∀ op ∈ ops', op.isSetup = true → c.Admits op

omit [Angle α] [Shown α] in
theorem fresh_parallel :
    Parallel (change fun m => .ok m.fresh : Action α ω Unit) (change fun m => .ok m.fresh) :=
  parallel_change fun m n h =>
    .inr ⟨m.fresh, n.fresh, rfl, rfl, rfl, congrArg Screen.clear h.screen, h.symbols⟩

/-- What single instructions do does not depend on the program. -/
theorem runOps_withOps (ops : List (Opcode α)) (k i : Nat) :
    (c.withOps ops').runOps k i ops = c.runOps k i ops := by
  induction ops generalizing i with
  | nil => rfl
  | cons op rest ih =>
    have hperform : (c.withOps ops').perform k i op = c.perform k i op := by cases op <;> rfl
    show ((c.withOps ops').perform k i op >>= fun _ => (c.withOps ops').runOps k (i + 1) rest) = _
    rw [hperform, ih]
    rfl

theorem runFrame_parallel (h : SameScene c.ops ops') (hadmits : c.AdmitsSetups ops') (k : Nat) :
    Parallel (c.runFrame k) ((c.withOps ops').runFrame k) := by
  refine fresh_parallel.bind fun _ => ?_
  rw [runOps_withOps]
  exact c.runOps_parallel h hadmits.1 hadmits.2 k 0 0

theorem runFrames_parallel (h : SameScene c.ops ops') (hadmits : c.AdmitsSetups ops') (directory : Path)
    (frames : List Nat) :
    Parallel (c.runFrames directory frames) ((c.withOps ops').runFrames directory frames) := by
  induction frames with
  | nil => exact parallel_pure []
  | cons k rest ih =>
    have hframe : Parallel (c.animateFrame directory k) ((c.withOps ops').animateFrame directory k) :=
      (c.applyKnobs_parallel k).bind fun _ => (c.runFrame_parallel h hadmits k).bind fun _ =>
        c.saveFrame_parallel directory k
    exact hframe.bind fun _ => ih.bind fun _ => parallel_pure _

theorem still_parallel (h : SameScene c.ops ops') (hadmits : c.AdmitsSetups ops') :
    Parallel c.still (c.withOps ops').still :=
  (c.runFrame_parallel h hadmits 0).bind fun _ => parallel_saved.bind fun _ => parallel_pure _

theorem animate_parallel (h : SameScene c.ops ops') (hadmits : c.AdmitsSetups ops') :
    Parallel c.animate (c.withOps ops').animate :=
  c.openDirectory_parallel.bind fun _ => (c.runFrames_parallel h hadmits _ _).bind fun _ =>
    parallel_saved.bind fun _ => (parallel_call _ _).bind fun _ => parallel_pure _

/-- **Runs of programs with the same scene.** -/
theorem run_parallel (h : SameScene c.ops ops') (hadmits : c.AdmitsSetups ops') :
    Parallel c.run (c.withOps ops').run := by
  unfold run
  by_cases hanimated : c.plan.settings.animated = true
  · rw [if_pos hanimated, if_pos (show (c.withOps ops').plan.settings.animated = true from hanimated)]
    exact c.animate_parallel h hadmits
  · rw [if_neg hanimated,
      if_neg (show ¬(c.withOps ops').plan.settings.animated = true from hanimated)]
    exact c.still_parallel h hadmits

end Setup

/-! ## Programs -/

variable [Scalar α] {ops ops' : List (Opcode α)}

/-- States before the first run that differ in the order of their symbols alone. -/
theorem State.initial_similar {symbols symbols' : Symbols α} (h : symbols.Reordered symbols')
    (screen : Screen) (w : ω) :
    (State.initial symbols screen w).Similar (State.initial symbols' screen w) :=
  ⟨⟨rfl, rfl, h⟩, rfl, rfl⟩

variable [Angle α] [Shown α]

/-- **Where the setups of a program stand does not matter.** Programs that put the same setups and the same
    scene together have the same plan. Either both run, and unless a setup is to be traced that cannot be
    written they come to the same result with the same calls, and leave the same stack, picture and contents
    of symbols; or both fail before, in the same way if their names can be declared, and with a failure of
    the same kind if all names are texts. -/
theorem interleaved_runs (h : Interleaved ops ops') (options : Options) (traced knobsShown : Bool)
    (out : Outside ω) (w : ω) :
    plan options.defaultBasename ops = plan options.defaultBasename ops' ∧
      (prepare ops options traced knobsShown out w).1.tail =
        (prepare ops' options traced knobsShown out w).1.tail ∧
      ((∃ c s s', (prepare ops options traced knobsShown out w).2 = .ok (c, s) ∧
          (prepare ops' options traced knobsShown out w).2 = .ok (c.withOps ops', s') ∧
          c.ops = ops ∧ s.Similar s' ∧
          ((traced = true → ∀ op ∈ ops, op.isSetup = true → ∃ line, op.describe = .ok line) →
            (c.run s).Similar ((c.withOps ops').run s'))) ∨
        ∃ e e', (prepare ops options traced knobsShown out w).2 = .error e ∧
          (prepare ops' options traced knobsShown out w).2 = .error e' ∧
          ((∃ table, Symbols.ofProgram ops [] = .ok table) → e = e') ∧
          (DeclaresTexts ops → e.kind = e'.kind)) := by
  have hplan := h.plan_eq options.defaultBasename
  refine ⟨hplan, ?_⟩
  rcases ofProgram_reordered h.perm with
    ⟨s, s', record, record', hs, hs', hsame⟩ | ⟨e, e', he, he', hkinds⟩
  · simp only [prepare, hs, hs', ← hplan]
    cases hr : plan options.defaultBasename ops with
    | mk notices result =>
      cases result with
      | error e => exact ⟨rfl, .inr ⟨e, e, rfl, rfl, fun _ => rfl, fun _ => rfl⟩⟩
      | ok plan =>
        cases hscreen : options.screen with
        | error e => exact ⟨rfl, .inr ⟨e, e, rfl, rfl, fun _ => rfl, fun _ => rfl⟩⟩
        | ok screen =>
          have hstart := State.initial_similar hsame screen w
          refine ⟨rfl, .inl ⟨⟨ops, options, plan, traced, knobsShown, out⟩, _, _, rfl, rfl, rfl, hstart, ?_⟩⟩
          intro hlines
          refine Setup.run_parallel _ (.of_scene h.scene) ⟨?_, ?_⟩ _ _ hstart
          · exact fun op hop hsetup htraced => hlines htraced op hop hsetup
          · exact fun op hop hsetup htraced => hlines htraced op (h.perm.mem_iff.mpr hop) hsetup
  · have hfail : prepare ops options traced knobsShown out w = ([], .error e) := by
      simp only [prepare, he]
    have hfail' : prepare ops' options traced knobsShown out w = ([], .error e') := by
      simp only [prepare, he']
    rw [hfail, hfail', he]
    refine ⟨rfl, .inr ⟨e, e', rfl, rfl, ?_, fun htexts => ?_⟩⟩
    · rintro ⟨table, ⟨⟩⟩
    · rw [(hkinds htexts).1, (hkinds htexts).2]

/-- The options of a run with a picture of one pixel. -/
def pixelOptions : Options := ⟨1, 1, .white, .black, 20, .str "anim", .str "default", 3, "png", .gif, 50⟩

/-- A program whose setups come first. -/
def setupsFirst : List (Opcode Float) :=
  [.frames 2, .vary (.str "k") 0 1 0.0 1.0, .push, .move ⟨1.0, 0.0, 0.0⟩ (some (.str "k"))]

/-- The same program with its setups in other places. -/
def setupsBetween : List (Opcode Float) :=
  [.push, .frames 2, .move ⟨1.0, 0.0, 0.0⟩ (some (.str "k")), .vary (.str "k") 0 1 0.0 1.0]

theorem interleaved_runs_between : Interleaved setupsFirst setupsBetween ∧ ∃ c s s',
    (prepare setupsFirst pixelOptions true true .quiet ()).2 = .ok (c, s) ∧
      (prepare setupsBetween pixelOptions true true .quiet ()).2 = .ok (c.withOps setupsBetween, s') ∧
      (c.run s).Similar ((c.withOps setupsBetween).run s') := by
  have h : Interleaved setupsFirst setupsBetween := ⟨rfl, rfl⟩
  refine ⟨h, ?_⟩
  have hlines : ∀ op ∈ setupsFirst, op.isSetup = true → ∃ line, op.describe = .ok line := by
    simp only [setupsFirst, List.forall_mem_cons]
    exact ⟨fun _ => ⟨_, rfl⟩, fun _ => ⟨_, rfl⟩, nofun, nofun, nofun⟩
  obtain ⟨-, -, ⟨c, s, s', hc, hc', -, -, hrun⟩ | ⟨e, e', he, -⟩⟩ :=
    interleaved_runs h pixelOptions true true .quiet ()
  · exact ⟨c, s, s', hc, hc', hrun fun _ => hlines⟩
  · have hprepared : (prepare setupsFirst pixelOptions true true .quiet ()).2.toOption.isSome = true := by
      rfl
    rw [he] at hprepared
    cases hprepared

/-- A name that is no text, and a text for two kinds: what comes first is reported. -/
def misnamed : List (Opcode Float) :=
  [.frames 2, .vary (.list [.int 1]) 0 1 0.0 1.0, .move ⟨1.0, 0.0, 0.0⟩ (some (.str "a")),
    .saveCoordSystem (.str "a")]

/-- The same program with the name that is no text at its end. -/
def misnamedLate : List (Opcode Float) :=
  [.frames 2, .move ⟨1.0, 0.0, 0.0⟩ (some (.str "a")), .saveCoordSystem (.str "a"),
    .vary (.list [.int 1]) 0 1 0.0 1.0]

/-- A name that cannot be written on one line. -/
def pairedName : Name := .tuple [.str "a", .int 1]

/-- A still picture that is traced. -/
def Setup.stumble (ops : List (Opcode Float)) : Setup Float Unit where
  ops := ops
  options := pixelOptions
  plan := ⟨⟨1, .str "default"⟩, none⟩
  traced := true
  knobsShown := false
  outside := .quiet

/-- Where setups stand may be seen in three ways: in the kind of the failure, if not all names are texts; in
    the number of traces; and in the calls, if a setup that is to be traced cannot be written. -/
theorem interleaving_seen :
    (Interleaved misnamed misnamedLate ∧
      ∃ e e', (prepare misnamed pixelOptions false false .quiet ()).2 = .error e ∧
        (prepare misnamedLate pixelOptions false false .quiet ()).2 = .error e' ∧
        e.kind = .type ∧ e'.kind = .symbolKind) ∧
    (Interleaved (α := Float) [.frames 1, .pop] [.pop, .frames 1] ∧
      ((Setup.stumble [.frames 1, .pop]).run (.initial {} (.blank 1 1 .white) ())).notes.length = 3 ∧
      ((Setup.stumble [.pop, .frames 1]).run (.initial {} (.blank 1 1 .white) ())).notes.length = 2) ∧
    Interleaved (α := Float) [.basename pairedName, .display] [.display, .basename pairedName] ∧
      ((Setup.stumble [.basename pairedName, .display]).run
        (.initial {} (.blank 1 1 .white) ())).calls.length = 0 ∧
      ((Setup.stumble [.display, .basename pairedName]).run
        (.initial {} (.blank 1 1 .white) ())).calls.length = 1 := by
  refine ⟨⟨⟨rfl, rfl⟩, _, _, rfl, rfl, rfl, rfl⟩, ⟨⟨rfl, rfl⟩, ?_, ?_⟩, ⟨rfl, rfl⟩, ?_, ?_⟩
  · rfl
  · rfl
  · rfl
  · rfl

end Wireframe.Run
