import Wireframe.Proofs.Run.Position
import Wireframe.Proofs.Declaration
import Wireframe.Proofs.Failure
import Wireframe.Proofs.Timeline

/-!
# `Wireframe.Proofs.Run.Resolution` — a run finds the names of its program

A run that starts with the table of its program and goes by the plan of its program finds every name that
it looks for: the names of the instructions are declared with the kinds for which they are used, the knobs
of a frame are knobs of the table, and nothing that is written takes a content away.

## Contents
- `Outside.Fails`, `nameKinds`: failures of those outside, and failures for names.
- `Prepared`, `Knows`: what is known of a program, and of the machine while it runs.
- `step_within_known`, `step_knows`: instructions; `applyKnobs_known`: the knobs of a frame.
- `run_resolves`: whole runs; `prepared_of_plan`: programs with their own table and plan.
- `declared_names_resolve` assembles the results.
-/

namespace Wireframe

open Document

variable {α ω : Type}

/-- The kinds of failures for a name: it is not declared, is declared with another kind, or has no
content. -/
abbrev nameKinds : List Kind := [.unknownSymbol, .symbolKind, .key]

/-- The kinds of failures that an instruction has left when its names are found. -/
abbrev otherFailures : List Kind := [.value, .overflow, .emptyStack]

namespace Run

/-- Those outside may fail in this way. -/
def Outside.Fails (out : Outside ω) (e : Error) : Prop :=
  (∃ path w, (out.openDirectory path w).result = .error e) ∨
    (∃ screen path w, (out.save screen path w).result = .error e) ∨
    (∃ screen w, (out.view screen w).result = .error e) ∨
    ∃ order w, (out.assemble order w).result = .error e

end Run

/-! ## Instructions -/

/-- A machine with a table of certain kinds in which nothing is missing. -/
structure Knows (kinds : Dict Label SymbolKind) (m : Machine α) : Prop where
  kinds : m.symbols.kinds = kinds
  sound : m.symbols.Sound

theorem Knows.kind {kinds : Dict Label SymbolKind} {m : Machine α} (h : Knows kinds m) (x : Label) :
    m.symbols.kind? x = kinds.find? x := by
  rw [Symbols.kind?, h.kinds]

/-- Every name that an instruction mentions is declared with the kind for which it is mentioned. -/
def Opcode.Known (kinds : Dict Label SymbolKind) (op : Opcode α) : Prop :=
  ∀ name kind, op.Mentions name kind → ∃ x, name.label? = some x ∧ kinds.find? x = some kind

namespace Machine

variable {kinds : Dict Label SymbolKind} {m m' : Machine α} {op : Opcode α}

/-- What an instruction writes is written. -/
theorem writeTo_known (h : Knows kinds m) (hop : op.Known kinds) :
    ∃ s, op.writeTo m.stack.top m.symbols = .ok s := by
  cases op with
  | set target value =>
    obtain ⟨x, hx, hkind⟩ := hop target .value (.target rfl)
    rw [← h.kind] at hkind
    exact ⟨_, m.symbols.set_eq_ok.mpr ⟨x, hx, hkind, rfl⟩⟩
  | setKnobs value => exact ⟨_, m.symbols.setAll_eq value⟩
  | saveCoordSystem name =>
    obtain ⟨x, hx, hkind⟩ := hop name .matrix (.saved rfl)
    rw [← h.kind] at hkind
    exact ⟨_, m.symbols.setMatrix_eq_ok.mpr ⟨x, hx, hkind, rfl⟩⟩
  | _ => exact ⟨_, rfl⟩

variable [Scalar α]

theorem factor_known (h : Knows kinds m) {knob : Option Name}
    (hknob : ∀ name, knob = some name → ∃ x, name.label? = some x ∧ kinds.find? x = some .value) :
    ∃ v, m.factor knob = .ok v := by
  cases knob with
  | none => exact ⟨_, rfl⟩
  | some name =>
    obtain ⟨x, hx, hkind⟩ := hknob name rfl
    rw [← h.kind] at hkind
    obtain ⟨v, hv⟩ := Option.isSome_iff_exists.mp (h.sound.values x hkind)
    exact ⟨v, m.symbols.get_eq_ok.mpr ⟨x, hx, hkind, hv⟩⟩

omit [Scalar α] in
theorem frameMatrix_known (h : Knows kinds m) {name : Name}
    (hname : ∃ x, name.label? = some x ∧ kinds.find? x = some .matrix) :
    ∃ t, m.frameMatrix (some name) = .ok t := by
  obtain ⟨x, hx, hkind⟩ := hname
  rw [← h.kind] at hkind
  obtain ⟨t, ht⟩ := Option.isSome_iff_exists.mp (h.sound.matrices x hkind)
  exact ⟨t, m.symbols.getMatrix_eq_ok.mpr ⟨x, hx, hkind, ht⟩⟩

omit [Scalar α] in
theorem passOver_known (h : Knows kinds m) {material : Option Name}
    (hmaterial : ∀ name, material = some name →
      ∃ x, name.label? = some x ∧ kinds.find? x = some .material) :
    ∃ names, m.passOver material = .ok names := by
  cases material with
  | none => exact ⟨_, rfl⟩
  | some name =>
    obtain ⟨x, hx, hkind⟩ := hmaterial name rfl
    rw [← h.kind] at hkind
    refine ⟨[name], ?_⟩
    simp only [passOver, Symbols.lookup, nameKey_eq_ok.mpr hx, bind, Except.bind, hkind]
    rfl

variable [Angle α] [Shown α]

/-- **Instructions find their names.** What is left to go wrong is a pop of the world, a number, and
    drawing. -/
theorem step_within_known (o : Options) (h : Knows kinds m) (hop : op.Known kinds) :
    Within otherFailures (m.step o op).result := by
  by_cases hform : op.form = .pop
  · cases op with
    | pop =>
      intro e he
      obtain ⟨-, rfl⟩ := pop_failed he
      decide
    | _ => cases hform
  · apply m.step_within_of (by decide) o hform
    · obtain ⟨v, hv⟩ := factor_known h fun name hname => hop name .value (.knob hname)
      rw [hv]
      exact .ok v
    · obtain ⟨names, hnames⟩ := passOver_known h fun name hname => hop name .material (.material hname)
      rw [hnames]
      exact .ok names
    · intro frame hframe
      obtain ⟨t, ht⟩ := frameMatrix_known h (hop frame .matrix (.system hframe))
      rw [ht]
      exact .ok t
    · obtain ⟨s, hs⟩ := writeTo_known h hop
      rw [hs]
      exact .ok s

/-- Instructions leave the kinds as they are, and nothing goes missing. -/
theorem step_knows {o : Options} (h : Knows kinds m) (hstep : (m.step o op).result = .ok m') :
    Knows kinds m' := by
  have hwrite := (step_ok hstep).1
  exact ⟨(Opcode.writeTo_kinds hwrite).trans h.kinds, h.sound.writeTo hwrite⟩

end Machine

namespace Run.Setup

open Run.Action

/-! ## Parts of a run -/

/-- What is known of a program that runs with its table and by its plan. -/
structure Prepared (c : Setup α ω) (kinds : Dict Label SymbolKind) : Prop where
  names : ∀ op ∈ c.ops, op.Known kinds
  knobs : ∀ k, ∀ entry ∈ c.knobsOf k, kinds.find? entry.1 = some .value
  frames : ∀ timeline, c.plan.timeline = some timeline → c.frameCount.toNat ≤ timeline.frames.length

variable {c : Setup α ω} {kinds : Dict Label SymbolKind}

/-- A part that keeps what is known of the machine, and fails for a name only if those outside do. -/
abbrev Resolves (c : Setup α ω) (kinds : Dict Label SymbolKind) {β : Type} (a : Action α ω β) : Prop :=
  Upholds (Knows kinds) (fun e => e.kind ∈ nameKinds → c.outside.Fails e) a

variable (c) in
/-- Failures of another kind are not for names. -/
theorem resolves_lift {β : Type} {r : Except Error β} {failures : List Kind} (h : Within failures r)
    (hother : ∀ kind ∈ failures, kind ∉ nameKinds) :
    c.Resolves kinds (lift r : Action α ω β) :=
  upholds_lift fun e he hkind => absurd hkind (hother _ (h e he))

theorem ofValue_within (v : Value) : Within [.type] (Path.ofValue v) := by
  unfold Path.ofValue
  split
  · exact .ok _
  · exact .error (by decide)

theorem frameDigits_within (count minimum : Int) : Within [.value] (Animation.frameDigits count minimum) := by
  unfold Animation.frameDigits
  split
  · exact .ok _
  · exact .error (by decide)

theorem openDirectory_resolves : c.Resolves kinds c.openDirectory := by
  refine (resolves_lift c (ofValue_within _) (by decide)).bind fun path => ?_
  refine (upholds_consult fun w _ he _ => .inl ⟨path, w, he⟩).bind fun directory => ?_
  exact (resolves_lift c (frameDigits_within _ _) (by decide)).bind fun _ => upholds_pure _

theorem save_resolves (path : Path) : c.Resolves kinds (c.save path) :=
  upholds_call fun screen w _ he _ => .inr (.inl ⟨screen, path, w, he⟩)

theorem saveAs_resolves (filename : Name) : c.Resolves kinds (c.saveAs filename) := by
  refine (resolves_lift c (ofValue_within filename) (by decide)).bind fun path => ?_
  refine (save_resolves path).bind fun answer => ?_
  exact (upholds_note _).bind fun _ => upholds_keep _

theorem saveFrame_resolves (directory : Path) (k : Nat) :
    c.Resolves kinds (c.saveFrame directory k) := by
  apply saveFrame_upholds
  · exact fun hkind => absurd hkind (show Kind.value ∉ nameKinds by decide)
  · exact fun hkind => absurd hkind (show Kind.value ∉ nameKinds by decide)
  · exact fun screen path w _ he _ => .inr (.inl ⟨screen, path, w, he⟩)

variable [Scalar α] [Angle α] [Shown α]

omit [Angle α] [Shown α] [Scalar α] in
/-- Knobs of the table can be set. -/
theorem setKnobs_known {entries : List (Label × α)} {s : State α ω}
    (hentries : ∀ entry ∈ entries, kinds.find? entry.1 = some .value) (hs : Knows kinds s.machine) :
    (setKnobs entries s).result = .ok () ∧ Knows kinds (setKnobs entries s).state.machine := by
  induction entries generalizing s with
  | nil => exact ⟨rfl, hs⟩
  | cons entry rest ih =>
    obtain ⟨name, value⟩ := entry
    have hkind : s.machine.symbols.kind? name = some .value :=
      (hs.kind name).trans (hentries (name, value) List.mem_cons_self)
    obtain ⟨symbols, hset⟩ : ∃ symbols, s.machine.symbols.set name.value value = .ok symbols :=
      ⟨_, s.machine.symbols.set_eq_ok.mpr ⟨name, name.label_value, hkind, rfl⟩⟩
    have hmachine : s.machine.set name.value value = .ok { s.machine with symbols := symbols } := by
      rw [Machine.set, hset]
      rfl
    rw [setKnobs_cons_of_ok hmachine]
    apply ih fun entry hentry => hentries entry (List.mem_cons_of_mem _ hentry)
    have hwrite : (Opcode.set name.value value).writeTo s.machine.stack.top s.machine.symbols =
      .ok symbols := hset
    exact ⟨(Opcode.writeTo_kinds hwrite).trans hs.kinds, hs.sound.writeTo hwrite⟩

omit [Scalar α] [Angle α] in
theorem showKnobs_known {k : Nat} {s : State α ω} (hs : Knows kinds s.machine) :
    (c.showKnobs k s).result = .ok () := by
  unfold showKnobs
  split
  · obtain ⟨text, htext⟩ := hs.sound.knobTable_ok
    show (Action.lift s.machine.symbols.knobTable s |>.andThen _).result = .ok ()
    rw [Outcome.andThen_of_ok htext]
    rfl
  · rfl

omit [Scalar α] [Angle α] in
/-- **The knobs of a frame.** They can be set and shown. -/
theorem applyKnobs_known (hc : c.Prepared kinds) {k : Nat} (hk : k < c.frameCount.toNat)
    {s : State α ω} (hs : Knows kinds s.machine) :
    (c.applyKnobs k s).result = .ok () ∧ Knows kinds (c.applyKnobs k s).state.machine := by
  rcases c.applyKnobs_cases k with ⟨-, hnothing⟩ | ⟨timeline, htimeline, hlength, -⟩ | hset
  · rw [hnothing]
    exact ⟨rfl, hs⟩
  · have hframes := hc.frames timeline htimeline
    omega
  · obtain ⟨hknobs, hknown⟩ := setKnobs_known (hc.knobs k) hs
    have hshow : (c.showKnobs k (setKnobs (c.knobsOf k) s).state).result = .ok () :=
      showKnobs_known hknown
    rw [hset, Action.bind_apply, Outcome.andThen_of_ok hknobs]
    refine ⟨hshow, ?_⟩
    show Knows kinds (c.showKnobs k (setKnobs (c.knobsOf k) s).state).state.machine
    rw [(c.showKnobs_ok hshow).2]
    exact hknown

omit [Scalar α] [Angle α] in
theorem applyKnobs_resolves (hc : c.Prepared kinds) {k : Nat} (hk : k < c.frameCount.toNat) :
    c.Resolves kinds (c.applyKnobs k) := by
  intro s hs
  obtain ⟨hok, hknown⟩ := applyKnobs_known hc hk hs
  refine ⟨hknown, ?_⟩
  intro e he
  rw [hok] at he
  cases he

theorem exec_resolves {op : Opcode α} (hop : op.Known kinds) : c.Resolves kinds (c.exec op) := by
  rcases c.exec_cases op with ⟨filename, rfl⟩ | rfl | ⟨-, -, he⟩
  · exact saveAs_resolves filename
  · exact upholds_call fun screen w _ he _ => .inr (.inr (.inl ⟨screen, w, he⟩))
  · rw [he]
    apply upholds_advance
    · exact fun m m' hm => Machine.step_knows hm
    · intro m e hm hfailed hkind
      have hother := Machine.step_within_known c.options hm hop e hfailed
      have hnone : ∀ kind ∈ otherFailures, kind ∉ nameKinds := by decide
      exact absurd hkind (hnone _ hother)

omit [Angle α] [Shown α] in
/-- A frame starts with the table as it is. -/
theorem fresh_knows (m : Machine α) (h : Knows kinds m) : Knows kinds m.fresh := ⟨h.kinds, h.sound⟩

theorem ops_resolve (hc : c.Prepared kinds) : ∀ op ∈ c.ops, c.Resolves kinds (c.exec op) :=
  fun op hop => exec_resolves (hc.names op hop)

omit [Scalar α] [Angle α] in
/-- An instruction that cannot be written does not fail for a name. -/
theorem lines_resolve : ∀ op ∈ c.ops, ∀ e, op.describe = .error e → e.kind ∈ nameKinds → c.outside.Fails e := by
  intro op _ e he hkind
  have hnone : ∀ kind ∈ lineFailures, kind ∉ nameKinds := by decide
  exact absurd hkind (hnone _ (op.describe_within e he))

theorem runFrames_resolves (hc : c.Prepared kinds) (directory : Path) {frames : List Nat}
    (hframes : ∀ k ∈ frames, k < c.frameCount.toNat) :
    c.Resolves kinds (c.runFrames directory frames) :=
  runFrames_upholds fresh_knows (fun k hk => applyKnobs_resolves hc (hframes k hk)) lines_resolve
    (ops_resolve hc) fun k => saveFrame_resolves directory k

/-! ## Whole runs -/

/-- A run up to an instruction finds its names. -/
theorem upTo_resolves (hc : c.Prepared kinds) {k : Nat} (hk : k < c.passes) (i : Nat) :
    c.Resolves kinds (c.upTo k i) := by
  have hlead : c.Resolves kinds (c.lead k) := by
    unfold passes at hk
    unfold lead
    split
    · next hanimated =>
      rw [if_pos hanimated] at hk
      refine openDirectory_resolves.bind fun directory => ?_
      refine (runFrames_resolves hc directory ?_).bind fun _ => applyKnobs_resolves hc hk
      exact fun j hj => Nat.lt_trans (List.mem_range.mp hj) hk
    · exact upholds_pure ()
  refine hlead.bind fun _ => (fresh_upholds fresh_knows).bind fun _ => runOps_upholds k 0 ?_ ?_
  · exact fun op hop => lines_resolve op (List.mem_of_mem_take hop)
  · exact fun op hop => ops_resolve hc op (List.mem_of_mem_take hop)

/-- **Runs find their names.** A run that fails for a name does so because those outside do. -/
theorem run_resolves (hc : c.Prepared kinds) : c.Resolves kinds c.run := by
  unfold run
  split
  · refine openDirectory_resolves.bind fun directory => ?_
    refine (runFrames_resolves hc directory fun k hk => List.mem_range.mp hk).bind fun files => ?_
    refine (upholds_look _).bind fun saved => ?_
    refine Upholds.bind (upholds_call ?_) fun animation => upholds_pure _
    exact fun _ w _ he _ => .inr (.inr (.inr ⟨_, w, he⟩))
  · refine (runFrame_upholds fresh_knows lines_resolve (ops_resolve hc) 0).bind fun _ => ?_
    exact (upholds_look _).bind fun _ => upholds_pure _

omit [Angle α] [Shown α] in
/-- A program that runs with its own table, by its own plan, is prepared. -/
theorem prepared_of_plan {default : Name} {symbols : Symbols α} {initial : List (String × α)}
    (htexts : TextNames c.ops) (hplan : (Wireframe.plan default c.ops).2 = .ok c.plan)
    (hknown : ∀ t kind, symbols.kind? (.text t) = some kind ↔ Uses c.ops initial (.str t) kind) :
    c.Prepared symbols.kinds := by
  have hnames : ∀ op ∈ c.ops, op.Known symbols.kinds := by
    intro op hop name kind hmentions
    obtain ⟨t, rfl⟩ := htexts op hop name kind hmentions
    exact ⟨.text t, rfl, (hknown t kind).mpr (.inl ⟨op, hop, hmentions⟩)⟩
  refine ⟨hnames, ?_, ?_⟩
  · intro k entry hentry
    obtain ⟨v, hv, htarget, -⟩ := c.knobsOf_planned hplan hentry
    obtain ⟨op, hop, hvary⟩ := List.mem_filterMap.mp hv
    cases op with
    | vary target first last startVal endVal =>
      cases hvary
      obtain ⟨x, hx, hkind⟩ := hnames _ hop target .value (.target rfl)
      rw [htarget] at hx
      cases hx
      exact hkind
    | _ => cases hvary
  · intro timeline hsome
    exact Nat.le_of_eq (c.timeline_planned hplan hsome).1.symm

end Run.Setup

/-- **A program declares what its run looks for.** The table of a program cannot be made if and only if a
    name is mentioned for two kinds, in whatever order the instructions come. A run that starts with the
    table, by the plan of the program, fails for a name only where those outside do so of themselves: the
    knobs of every frame that it gets to can be set, and every instruction that it gets to finds its
    names. -/
theorem declared_names_resolve {ops : List (Opcode α)} [Scalar α] [Angle α] [Shown α]
    (htexts : TextNames ops) (initial : List (String × α)) :
    ((∃ e, Symbols.ofProgram ops (valueDeclarations initial) = .error e) ↔ Conflict ops initial) ∧
    (∀ e, Symbols.ofProgram ops (valueDeclarations initial) = .error e → e.kind = .symbolKind) ∧
    (∀ ops', ops'.Perm ops →
      ((∃ e, Symbols.ofProgram ops' (valueDeclarations initial) = .error e) ↔ Conflict ops initial)) ∧
    ∀ symbols record, Symbols.ofProgram ops (valueDeclarations initial) = .ok (symbols, record) →
      ∀ (ω : Type) (c : Run.Setup α ω) (default : Name) (s : Run.State α ω), c.ops = ops →
        (plan default ops).2 = .ok c.plan → s.machine.symbols = symbols →
        (∀ e, (c.run s).result = .error e → e.kind ∈ nameKinds → c.outside.Fails e) ∧
        (∀ k directory paths, k < c.frameCount.toNat → (c.openDirectory s).result = .ok directory →
          (c.runFrames directory (List.range k) (c.openDirectory s).state).result = .ok paths →
          (c.applyKnobs k
            (c.runFrames directory (List.range k) (c.openDirectory s).state).state).result = .ok ()) ∧
        ∀ k i op, k < c.passes → (c.upTo k i s).result = .ok () → ops[i]? = some op →
          Within otherFailures ((c.upTo k i s).state.machine.step c.options op).result := by
  refine ⟨ofProgram_error_iff htexts initial, ?_, ?_, ?_⟩
  · intro e he
    rcases ofProgram_cases htexts initial with ⟨s, record, hok, -⟩ | ⟨e', herror, hkind, -⟩
    · rw [hok] at he
      cases he
    · rw [herror] at he
      cases he
      exact hkind
  · intro ops' hperm
    have htexts' : TextNames ops' := fun op hop => htexts op (hperm.mem_iff.mp hop)
    have huses : ∀ name kind, Uses ops' initial name kind ↔ Uses ops initial name kind := by
      intro name kind
      simp only [Uses, hperm.mem_iff]
    rw [ofProgram_error_iff htexts' initial]
    simp only [Conflict, huses]
  · rintro symbols record hok ω c default s rfl hplan rfl
    have hprepared : c.Prepared s.machine.symbols.kinds ∧ Knows s.machine.symbols.kinds s.machine := by
      rcases ofProgram_cases htexts initial with ⟨found, record', hfound, hsound, hknown⟩ | ⟨e, he, -⟩
      · rw [hok] at hfound
        cases hfound
        exact ⟨Run.Setup.prepared_of_plan htexts hplan hknown, rfl, hsound⟩
      · rw [hok] at he
        cases he
    obtain ⟨hc, hs⟩ := hprepared
    refine ⟨(Run.Setup.run_resolves hc s hs).2, ?_, ?_⟩
    · intro k directory paths hk hopen hframes
      have hopened := (Run.Setup.openDirectory_resolves (c := c) s hs).1
      have hframesKnown := (Run.Setup.runFrames_resolves hc directory
        (fun j hj => Nat.lt_trans (List.mem_range.mp hj) hk) _ hopened).1
      exact (Run.Setup.applyKnobs_known hc hk hframesKnown).1
    · intro k i op hk hreached hop
      have hknown := (Run.Setup.upTo_resolves hc hk i s hs).1
      exact Machine.step_within_known c.options hknown (hc.names op (List.mem_of_getElem? hop))

namespace Run

/-- An animation that mentions names of every kind. -/
def Setup.tour : Setup Float Unit :=
  { Setup.spin with
    ops := [.frames 2, .basename (.str "tour"), .vary (.str "k") 0 1 0.0 1.0,
      .move ⟨1.0, 0.0, 0.0⟩ (some (.str "k")), .saveCoordSystem (.str "c"),
      .line ⟨0.0, 0.0, 0.0⟩ ⟨1.0, 1.0, 0.0⟩ (some (.str "m")) (some (.str "c")) none]
    plan := ⟨⟨2, .str "tour"⟩, some ⟨[⟨[(.text "k", 0.0)]⟩, ⟨[(.text "k", 1.0)]⟩]⟩⟩ }

/-- The state before it, with a value for the knob. -/
def State.tour : State Float Unit :=
  .initial ⟨⟨[(.text "k", .value), (.text "c", .matrix), (.text "m", .material)]⟩, ⟨[(.text "k", 0.5)]⟩,
    ⟨[(.text "c", .identity)]⟩⟩ (.blank 1 1 .white) ()

theorem declared_names_resolve_tour : TextNames Setup.tour.ops ∧
    (∃ record, Symbols.ofProgram Setup.tour.ops (valueDeclarations [("k", 0.5)]) =
      .ok (State.tour.machine.symbols, record)) ∧
    (plan (.str "default") Setup.tour.ops).2 = .ok Setup.tour.plan ∧
    (Setup.tour.upTo 0 5 .tour).result = .ok () ∧
    Within otherFailures ((Setup.tour.upTo 0 5 .tour).state.machine.step Setup.tour.options
      (.line ⟨0.0, 0.0, 0.0⟩ ⟨1.0, 1.0, 0.0⟩ (some (.str "m")) (some (.str "c")) none)).result := by
  have htexts : TextNames Setup.tour.ops := by
    intro op hop name kind hmentions
    simp only [Setup.tour, List.mem_cons, List.not_mem_nil, or_false] at hop
    rcases hop with rfl | rfl | rfl | rfl | rfl | rfl <;> rcases hmentions with h | h | h | h | h <;>
      simp [Opcode.knob?, Opcode.target?, Opcode.material?, Opcode.systems, Opcode.saved?] at h <;>
      first | exact ⟨_, h⟩ | exact ⟨_, h.symm⟩
  have htable : ∃ record, Symbols.ofProgram Setup.tour.ops (valueDeclarations [("k", 0.5)]) =
      .ok (State.tour.machine.symbols, record) := ⟨_, rfl⟩
  have hplan : (plan (.str "default") Setup.tour.ops).2 = .ok Setup.tour.plan := rfl
  have hreached : (Setup.tour.upTo 0 5 .tour).result = .ok () := rfl
  obtain ⟨record, hrecord⟩ := htable
  obtain ⟨-, -, -, hruns⟩ := declared_names_resolve htexts [("k", 0.5)]
  obtain ⟨-, -, hsteps⟩ := hruns _ record hrecord Unit Setup.tour (.str "default") .tour rfl hplan rfl
  exact ⟨htexts, ⟨record, hrecord⟩, hplan, hreached, hsteps 0 5 _ (by decide) hreached rfl⟩

end Run

end Wireframe
