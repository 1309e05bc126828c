import Wireframe.Proofs.Run.Position
import Wireframe.Proofs.Alike

/-!
# `Wireframe.Proofs.Run.Independence` — frames that depend on nothing before them

A frame starts from the world alone and an empty picture, but with the symbols as they are. If it gives a
value to every knob that its instructions read, and saves every coordinate system before it is drawn in,
then nothing of what was there before gets into it. Whatever values and matrices two tables of the same
names hold, and whatever is on the stacks and the pictures, the frame comes to the same in both.

Only the knobs of the frame are set before stack and picture start afresh: where one of them is no knob of
the tables, nothing of the frame runs.

## Contents
- `Outside.Indifferent`, `Twins`: outcomes that cannot be told apart.
- `exec_twins`: instructions in two states.
- `LocalAt`, `before_twins`, `runFrame_twins`: frames in two states, once their knobs are set.
- `Inherits`, `runFrames_bequeaths`: what frames leave to those after them.
- `Comparable`, `applyKnobs_alike`: the knobs of a frame in two states.
- `SameFrame`, `frames_independent`: frames in two states.
-/

namespace Wireframe.Run

open Document

variable {α ω β γ : Type}

/-! ## Outcomes that cannot be told apart -/

/-- Those outside give the same answer for a picture in all worlds that are as one to them. -/
structure Outside.Indifferent (out : Outside ω) (R : ω → ω → Prop) : Prop where
  save : ∀ screen path w v, R w v →
    (out.save screen path w).result = (out.save screen path v).result ∧
      R (out.save screen path w).world (out.save screen path v).world
  view : ∀ screen w v, R w v →
    (out.view screen w).result = (out.view screen v).result ∧
      R (out.view screen w).world (out.view screen v).world

/-- To those outside, a world is as one with itself. -/
theorem Outside.indifferent_eq (out : Outside ω) : out.Indifferent Eq := by
  constructor
  · rintro screen path w v rfl
    exact ⟨rfl, rfl⟩
  · rintro screen w v rfl
    exact ⟨rfl, rfl⟩

/-- Outcomes with the same result and the same calls, which leave the same stack and the same picture in
worlds that are as one. The machines are in a relation as long as nothing has failed. -/
structure Twins (R : ω → ω → Prop) (Q : Machine α → Machine α → Prop) (p q : Outcome α ω β) : Prop where
  result : p.result = q.result
  calls : p.calls = q.calls
  world : R p.state.world q.state.world
  stack : p.state.machine.stack = q.state.machine.stack
  screen : p.state.machine.screen = q.state.machine.screen
  machines : ∀ b, p.result = .ok b → Q p.state.machine q.state.machine

variable {R : ω → ω → Prop} {Q Q' : Machine α → Machine α → Prop}

theorem Twins.mono {p q : Outcome α ω β} (h : Twins R Q p q) (hQ : ∀ m n, Q m n → Q' m n) :
    Twins R Q' p q :=
  { h with machines := fun b hb => hQ _ _ (h.machines b hb) }

/-- What follows twins in the same way makes twins of them again. -/
theorem Twins.andThen {p q : Outcome α ω β} {f : β → Action α ω γ} (h : Twins R Q p q)
    (hnext : ∀ b, Q p.state.machine q.state.machine → Twins R Q' (f b p.state) (f b q.state)) :
    Twins R Q' (p.andThen f) (q.andThen f) := by
  cases hp : p.result with
  | error e =>
    rw [Outcome.andThen_of_error hp, Outcome.andThen_of_error (h.result ▸ hp)]
    exact ⟨rfl, h.calls, h.world, h.stack, h.screen, nofun⟩
  | ok b =>
    have hfollow := hnext b (h.machines b hp)
    rw [Outcome.andThen_of_ok hp, Outcome.andThen_of_ok (h.result ▸ hp)]
    refine ⟨hfollow.result, ?_, hfollow.world, hfollow.stack, hfollow.screen, hfollow.machines⟩
    show p.calls ++ _ = q.calls ++ _
    rw [h.calls, hfollow.calls]

namespace Setup

open Run.Action

variable {c : Setup α ω} {V M : Label → Prop} {s t : State α ω}

/-! ## Instructions in two states -/

/-- The same picture is saved in the same way. -/
theorem saveAs_twins (hout : c.outside.Indifferent R) (h : Machine.Alike V M s.machine t.machine)
    (hworld : R s.world t.world) (filename : Name) :
    Twins R (Machine.Alike V M) (c.saveAs filename s) (c.saveAs filename t) := by
  cases hpath : Path.ofValue filename with
  | error e =>
    rw [c.saveAs_of_path_error hpath, c.saveAs_of_path_error hpath]
    exact ⟨rfl, rfl, hworld, h.stack, h.screen, nofun⟩
  | ok path =>
    obtain ⟨hresult, hnext⟩ := hout.save s.machine.screen path _ _ hworld
    rw [c.saveAs_apply hpath, c.saveAs_apply hpath, ← h.stack, ← h.screen]
    dsimp only
    rw [← hresult]
    cases (c.outside.save s.machine.screen path s.world).result with
    | error e => exact ⟨rfl, rfl, hnext, h.stack, h.screen, nofun⟩
    | ok answer => exact ⟨rfl, rfl, hnext, h.stack, h.screen, fun _ _ => h⟩

/-- The same picture is shown in the same way. -/
theorem view_twins (hout : c.outside.Indifferent R) (h : Machine.Alike V M s.machine t.machine)
    (hworld : R s.world t.world) :
    Twins R (Machine.Alike V M) (call .view c.outside.view s) (call .view c.outside.view t) := by
  obtain ⟨hresult, hnext⟩ := hout.view s.machine.screen _ _ hworld
  rw [h.screen] at hresult hnext
  simp only [call, h.stack, h.screen, hresult]
  exact ⟨rfl, rfl, hnext, h.stack, h.screen, fun _ _ => h⟩

variable [Scalar α] [Angle α] [Shown α]

/-- **One instruction in two states.** -/
theorem exec_twins (hout : c.outside.Indifferent R) (h : Machine.Alike V M s.machine t.machine)
    (hworld : R s.world t.world) {op : Opcode α} (hset : op.form ≠ .set) (hsetKnobs : op.form ≠ .setKnobs)
    (hknob : ∀ name x, op.knob? = some name → name.label? = some x → V x)
    (hsystems : ∀ name ∈ op.systems, ∀ x, name.label? = some x → M x) :
    Twins R (Machine.Alike V fun x => M x ∨ ∃ name, op.saved? = some name ∧ name.denotes x = true)
      (c.exec op s) (c.exec op t) := by
  rcases c.exec_cases op with ⟨filename, rfl⟩ | rfl | ⟨-, -, he⟩
  · refine (saveAs_twins hout h hworld filename).mono fun m n hmn => hmn.mono ?_
    rintro x (hx | ⟨name, hname, -⟩)
    · exact hx
    · cases hname
  · refine (view_twins hout h hworld).mono fun m n hmn => hmn.mono ?_
    rintro x (hx | ⟨name, hname, -⟩)
    · exact hx
    · cases hname
  · obtain ⟨hfail, hdone⟩ := Machine.step_alike (o := c.options) h hset hsetKnobs hknob hsystems
    rw [he]
    simp only [advance]
    cases hr : (s.machine.step c.options op).result with
    | error e =>
      rw [hfail e hr]
      refine ⟨rfl, rfl, hworld, h.stack, h.screen, ?_⟩
      rintro b ⟨⟩
    | ok m' =>
      obtain ⟨n', hn', halike⟩ := hdone m' hr
      rw [hn']
      exact ⟨rfl, rfl, hworld, halike.stack, halike.screen, fun _ _ => halike⟩

/-- One that cannot be written is barred in both states. -/
theorem perform_twins (halike : Machine.Alike V M s.machine t.machine) (hworld : R s.world t.world)
    {op : Opcode α} (h : Twins R Q (c.exec op s) (c.exec op t)) (frame index : Nat) :
    Twins R Q (c.perform frame index op s) (c.perform frame index op t) := by
  rcases c.admits_or_barred op with hadmits | ⟨e, ht, hline⟩
  · rw [c.perform_apply hadmits, c.perform_apply hadmits]
    refine ⟨congrArg (Except.mapError op.handedOn) h.result, h.calls, h.world, h.stack, h.screen, ?_⟩
    intro b hb
    cases hr : (c.exec op s).result with
    | ok u => exact h.machines u hr
    | error e =>
      rw [hr] at hb
      cases hb
  · rw [c.perform_of_barred ht hline, c.perform_of_barred ht hline]
    exact ⟨rfl, rfl, hworld, halike.stack, halike.screen, nofun⟩

end Setup

/-! ## Frames that are local -/

namespace Setup

variable (c : Setup α ω)

/-- Whether a frame gives a value to a knob. -/
def Gives (k : Nat) (x : Label) : Prop := ∃ entry ∈ c.knobsOf k, (entry.1 == x) = true

/-- Whether a coordinate system is saved before an instruction. -/
def SavedBefore (i : Nat) (x : Label) : Prop :=
  ∃ j < i, ∃ name, c.ops[j]? = some (.saveCoordSystem name) ∧ name.denotes x = true

/-- A program that sets no knobs itself, reads only the knobs to which the frame gives a value, and draws
only in coordinate systems that it has saved before. -/
structure LocalAt (k : Nat) : Prop where
  noSet : ∀ op ∈ c.ops, op.form ≠ .set
  noSetKnobs : ∀ op ∈ c.ops, op.form ≠ .setKnobs
  knobs : ∀ op ∈ c.ops, ∀ name x, op.knob? = some name → name.label? = some x → c.Gives k x
  systems : ∀ i op, c.ops[i]? = some op → ∀ name ∈ op.systems, ∀ x, name.label? = some x →
    c.SavedBefore i x

variable {c} {k : Nat} {s t : State α ω}

theorem savedBefore_succ {i : Nat} {op : Opcode α} (hop : c.ops[i]? = some op) {x : Label}
    (h : c.SavedBefore (i + 1) x) :
    c.SavedBefore i x ∨ ∃ name, op.saved? = some name ∧ name.denotes x = true := by
  obtain ⟨j, hj, name, hname, hx⟩ := h
  rcases Nat.lt_or_eq_of_le (Nat.le_of_lt_succ hj) with hlt | rfl
  · exact .inl ⟨j, hlt, name, hname, hx⟩
  · rw [hname] at hop
    cases hop
    exact .inr ⟨name, rfl, hx⟩

variable [Scalar α] [Angle α] [Shown α]

/-- **A frame in two states, up to an instruction.** The tables agree on the knobs of the frame from the
    start, and on one coordinate system more with each that is saved. -/
theorem before_twins (hout : c.outside.Indifferent R) (hlocal : c.LocalAt k)
    (h : Symbols.Agree (c.Gives k) (fun _ => False) s.machine.symbols t.machine.symbols)
    (hclear : s.machine.screen.clear = t.machine.screen.clear) (hworld : R s.world t.world)
    {i : Nat} (hi : i ≤ c.ops.length) :
    Twins R (Machine.Alike (c.Gives k) (c.SavedBefore i)) (c.before k i s) (c.before k i t) := by
  induction i with
  | zero =>
    rw [before_zero, before_zero]
    refine ⟨rfl, rfl, hworld, rfl, hclear, fun _ _ => ⟨rfl, hclear, h.mono (fun _ hx => hx) ?_⟩⟩
    rintro x ⟨j, hj, -⟩
    exact absurd hj (Nat.not_lt_zero j)
  | succ i ih =>
    have hop : c.ops[i]? = some c.ops[i] := List.getElem?_eq_getElem hi
    have hmem : c.ops[i] ∈ c.ops := List.getElem_mem hi
    have htwins := ih (Nat.le_of_lt hi)
    rw [c.before_succ hop, c.before_succ hop]
    apply htwins.andThen
    intro _ halike
    apply perform_twins halike htwins.world
    refine (exec_twins hout halike htwins.world (hlocal.noSet _ hmem) (hlocal.noSetKnobs _ hmem)
      (hlocal.knobs _ hmem) (hlocal.systems i _ hop)).mono fun m n hmn => hmn.mono ?_
    exact fun x hx => savedBefore_succ hop hx

theorem runFrame_twins (hout : c.outside.Indifferent R) (hlocal : c.LocalAt k)
    (h : Symbols.Agree (c.Gives k) (fun _ => False) s.machine.symbols t.machine.symbols)
    (hclear : s.machine.screen.clear = t.machine.screen.clear) (hworld : R s.world t.world) :
    Twins R (fun _ _ => True) (c.runFrame k s) (c.runFrame k t) := by
  rw [← before_length, ← before_length]
  exact (before_twins hout hlocal h hclear hworld (Nat.le_refl _)).mono fun _ _ _ => trivial

end Setup

/-! ## What frames leave to those after them -/

/-- A machine with the names of an earlier one and a picture of the same size and background, in which no
knob has lost its value. -/
structure Inherits (earlier m : Machine α) : Prop where
  kinds : m.symbols.kinds = earlier.symbols.kinds
  clear : m.screen.clear = earlier.screen.clear
  filled : earlier.symbols.Filled → m.symbols.Filled

theorem Inherits.refl (m : Machine α) : Inherits m m := ⟨rfl, rfl, id⟩

theorem Inherits.of_writeTo {earlier m m' : Machine α} {op : Opcode α} {top : Matrix α}
    (h : Inherits earlier m) (hwrite : op.writeTo top m.symbols = .ok m'.symbols)
    (hclear : m'.screen.clear = m.screen.clear) : Inherits earlier m' :=
  ⟨(Opcode.writeTo_kinds hwrite).trans h.kinds, hclear.trans h.clear,
    fun hfilled => Opcode.writeTo_filled (h.filled hfilled) hwrite⟩

open Run.Action

/-- A part that keeps what a machine inherits. -/
abbrev Bequeaths (earlier : Machine α) (a : Action α ω β) : Prop :=
  Upholds (Inherits earlier) (fun _ => True) a

theorem setKnobs_bequeaths {earlier : Machine α} (entries : List (Label × α)) :
    Bequeaths earlier (setKnobs entries : Action α ω Unit) := by
  induction entries with
  | nil => exact upholds_pure ()
  | cons entry rest ih =>
    refine Upholds.bind ?_ fun _ => ih
    apply upholds_change
    · intro m m' hm hset
      obtain ⟨symbols, hsymbols, rfl⟩ := map_ok hset
      have hwrite : (Opcode.set entry.1.value entry.2).writeTo m.stack.top m.symbols = .ok symbols :=
        hsymbols
      exact hm.of_writeTo hwrite rfl
    · exact fun _ _ _ _ => trivial

namespace Setup

variable {c : Setup α ω} {earlier : Machine α} [Scalar α] [Angle α] [Shown α]

omit [Scalar α] [Angle α] in
theorem applyKnobs_bequeaths (k : Nat) : Bequeaths earlier (c.applyKnobs k) := by
  rcases c.applyKnobs_cases k with ⟨-, hnothing⟩ | ⟨-, -, -, hmissing⟩ | hset
  · rw [hnothing]
    exact upholds_pure ()
  · rw [hmissing]
    exact upholds_lift fun _ _ => trivial
  · rw [hset]
    refine (setKnobs_bequeaths _).bind fun _ => ?_
    unfold showKnobs
    split
    · refine (upholds_look _).bind fun table => ?_
      exact (upholds_lift fun _ _ => trivial).bind fun _ => upholds_note _
    · exact upholds_pure ()

theorem exec_bequeaths (op : Opcode α) : Bequeaths earlier (c.exec op) := by
  intro s hs
  refine ⟨?_, fun _ _ => trivial⟩
  cases hr : (c.exec op s).result with
  | error e =>
    rw [c.exec_failed_machine hr]
    exact hs
  | ok u =>
    obtain ⟨hwrite, hclear⟩ := Machine.step_ok (c.exec_machine hr)
    exact hs.of_writeTo hwrite hclear

/-- **Frames leave the names and the size of the picture alone.** -/
theorem runFrames_bequeaths (directory : Path) (frames : List Nat) :
    Bequeaths earlier (c.runFrames directory frames) := by
  apply runFrames_upholds
  · exact fun m hm => ⟨hm.kinds, hm.clear, hm.filled⟩
  · exact fun k _ => applyKnobs_bequeaths k
  · exact fun _ _ _ _ => trivial
  · exact fun op _ => exec_bequeaths op
  · exact fun k => saveFrame_upholds trivial trivial (fun _ _ _ _ _ => trivial) directory k

end Setup

/-! ## The knobs of a frame in two states -/

/-- The state with other symbols. -/
def State.relabel (s : State α ω) (symbols : Symbols α) : State α ω :=
  { s with machine := s.machine.relabel symbols }

/-- Knobs are set alike in tables of the same names: both tables refuse one of them, or they agree on all of
    them in the end. -/
theorem setKnobs_alike (entries : List (Label × α)) {V M : Label → Prop} {s t : State α ω}
    (h : Symbols.Agree V M s.machine.symbols t.machine.symbols) :
    ∃ r σ τ, setKnobs entries s = ⟨r, s.relabel σ, [], []⟩ ∧
      setKnobs entries t = ⟨r, t.relabel τ, [], []⟩ ∧
      (r = .ok () → Symbols.Agree (fun x => V x ∨ ∃ e ∈ entries, (e.1 == x) = true) M σ τ) := by
  induction entries generalizing V s t with
  | nil =>
    refine ⟨.ok (), s.machine.symbols, t.machine.symbols, rfl, rfl, fun _ => h.mono ?_ fun _ hx => hx⟩
    rintro x (hx | ⟨e, he, -⟩)
    · exact hx
    · cases he
  | cons entry rest ih =>
    obtain ⟨name, value⟩ := entry
    obtain ⟨hfail, hdone⟩ := Symbols.set_agree h name.value value
    have hmachine : ∀ {u : State α ω} {r}, u.machine.symbols.set name.value value = r →
        u.machine.set name.value value = r.map u.machine.relabel := by
      rintro u r rfl
      rfl
    cases hset : s.machine.symbols.set name.value value with
    | error e =>
      refine ⟨.error e, s.machine.symbols, t.machine.symbols, ?_, ?_, nofun⟩
      · exact setKnobs_cons_of_error (hmachine hset) rest
      · exact setKnobs_cons_of_error (hmachine (hfail e hset)) rest
    | ok σ =>
      obtain ⟨τ, hset', hagree⟩ := hdone σ hset
      obtain ⟨r, σ', τ', hs, ht, hrest⟩ := ih (s := s.relabel σ) (t := t.relabel τ) hagree
      refine ⟨r, σ', τ', ?_, ?_, fun hr => (hrest hr).mono ?_ fun _ hx => hx⟩
      · rw [setKnobs_cons_of_ok (hmachine hset)]
        exact hs
      · rw [setKnobs_cons_of_ok (hmachine hset')]
        exact ht
      · rintro x (hx | ⟨e, he, hx⟩)
        · exact .inl (.inl hx)
        · rcases List.mem_cons.mp he with rfl | he
          · exact .inl (.inr ((name.value_denotes x).trans hx))
          · exact .inr ⟨e, he, hx⟩

namespace Setup

variable {c : Setup α ω} [Shown α] {k : Nat} {s t : State α ω}

variable (c) in
/-- States in which frames are compared: the same names are declared with the same kinds, and the pictures
have the same size and background. Where the knobs are reported, every knob has a value, and the names can
be shown in both tables or fail alike. -/
structure Comparable (s t : State α ω) : Prop where
  kinds : ∀ x, s.machine.symbols.kind? x = t.machine.symbols.kind? x
  clear : s.machine.screen.clear = t.machine.screen.clear
  shown : c.knobsShown = true → s.machine.symbols.Filled ∧ t.machine.symbols.Filled ∧
    s.machine.symbols.tableResult = t.machine.symbols.tableResult

variable (c) in
/-- Knobs are reported without a call. -/
theorem showKnobs_apply (k : Nat) (s : State α ω) :
    ∃ notes, c.showKnobs k s =
      ⟨if c.knobsShown then s.machine.symbols.tableResult else .ok (), s, [], notes⟩ := by
  unfold showKnobs
  by_cases hshown : c.knobsShown = true
  · rw [if_pos hshown, if_pos hshown]
    show ∃ notes, (lift s.machine.symbols.knobTable s).andThen _ = _
    unfold Symbols.tableResult
    cases s.machine.symbols.knobTable with
    | error e => exact ⟨[], rfl⟩
    | ok table => exact ⟨[.knobs k table], rfl⟩
  · rw [if_neg hshown, if_neg hshown]
    exact ⟨[], rfl⟩

/-- Setting knobs does not change whether they can be shown. -/
theorem setKnobs_tableResult {entries : List (Label × α)} {symbols : Symbols α}
    (h : setKnobs entries s = ⟨.ok (), s.relabel symbols, [], []⟩) (hfilled : s.machine.symbols.Filled) :
    symbols.tableResult = s.machine.symbols.tableResult := by
  have hinherits := (setKnobs_bequeaths entries s (.refl s.machine)).1
  rw [h] at hinherits
  exact Symbols.tableResult_congr hinherits.kinds hfilled (hinherits.filled hfilled)

/-- **The knobs of a frame in two states.** They are refused in both, or the tables agree on them; nothing
    but the symbols changes, and no one is called. -/
theorem applyKnobs_alike (h : c.Comparable s t) (k : Nat) :
    ∃ r σ τ notes notes', c.applyKnobs k s = ⟨r, s.relabel σ, [], notes⟩ ∧
      c.applyKnobs k t = ⟨r, t.relabel τ, [], notes'⟩ ∧
      (r = .ok () → Symbols.Agree (c.Gives k) (fun _ => False) σ τ) := by
  have hagree : Symbols.Agree (fun _ => False) (fun _ => False) s.machine.symbols t.machine.symbols :=
    ⟨h.kinds, nofun, nofun⟩
  rcases c.applyKnobs_cases k with ⟨hnone, hnothing⟩ | ⟨-, -, -, hmissing⟩ | hset
  · rw [hnothing]
    refine ⟨.ok (), s.machine.symbols, t.machine.symbols, [], [], rfl, rfl, fun _ => hagree.mono ?_ nofun⟩
    rintro x ⟨e, he, -⟩
    rw [hnone] at he
    cases he
  · rw [hmissing]
    exact ⟨.error .arrayIndex, s.machine.symbols, t.machine.symbols, [], [], rfl, rfl, nofun⟩
  · obtain ⟨r, σ, τ, hs, ht, hknobs⟩ := setKnobs_alike (c.knobsOf k) hagree
    rw [hset, bind_apply, bind_apply, hs, ht]
    cases r with
    | error e => exact ⟨.error e, σ, τ, [], [], rfl, rfl, nofun⟩
    | ok u =>
      have htables : (if c.knobsShown then τ.tableResult else .ok ()) =
          if c.knobsShown then σ.tableResult else .ok () := by
        split
        · next hshown =>
          obtain ⟨hfilled, hfilled', hsame⟩ := h.shown hshown
          rw [setKnobs_tableResult hs hfilled, setKnobs_tableResult ht hfilled', hsame]
        · rfl
      obtain ⟨notes, hshow⟩ := c.showKnobs_apply k (s.relabel σ)
      obtain ⟨notes', hshow'⟩ := c.showKnobs_apply k (t.relabel τ)
      refine ⟨if c.knobsShown then σ.tableResult else .ok (), σ, τ, notes, notes', ?_, ?_, fun _ => ?_⟩
      · rw [Outcome.andThen_of_ok rfl, hshow]
        rfl
      · rw [Outcome.andThen_of_ok rfl, hshow', ← htables]
        rfl
      · exact (hknobs rfl).mono (fun x hx => .inr hx) fun _ hx => hx

/-! ## Frames in two states -/

variable (c) [Scalar α] [Angle α]

/-- A frame: its knobs are set, and the program runs. -/
def frame (k : Nat) : Action α ω Unit := do
  c.applyKnobs k
  c.runFrame k

/-- A frame whose knobs are refused: nothing of it runs, no one is called, and stack and picture stay as they
were. -/
structure Refuses (k : Nat) (e : Error) (s : State α ω) : Prop where
  knobs : (c.applyKnobs k s).result = .error e
  result : (c.frame k s).result = .error e
  calls : (c.frame k s).calls = []
  stack : (c.frame k s).state.machine.stack = s.machine.stack
  screen : (c.frame k s).state.machine.screen = s.machine.screen

/-- A frame that cannot tell two states apart. -/
structure SameFrame (R : ω → ω → Prop) (k : Nat) (s t : State α ω) : Prop where
  result : (c.frame k s).result = (c.frame k t).result
  calls : (c.frame k s).calls = (c.frame k t).calls
  world : R (c.frame k s).state.world (c.frame k t).state.world
  drawn : (c.applyKnobs k s).result = .ok () →
    (c.frame k s).state.machine.stack = (c.frame k t).state.machine.stack ∧
      (c.frame k s).state.machine.screen = (c.frame k t).state.machine.screen
  refused : ∀ e, (c.applyKnobs k s).result = .error e → c.Refuses k e s ∧ c.Refuses k e t

variable {c}

theorem refuses_of_applyKnobs {e : Error} {symbols : Symbols α} {notes : List Note}
    (h : c.applyKnobs k s = ⟨.error e, s.relabel symbols, [], notes⟩) : c.Refuses k e s := by
  have hframe : c.frame k s = ⟨.error e, s.relabel symbols, [], notes⟩ := by
    rw [frame, bind_apply, h, Outcome.andThen_of_error rfl]
  constructor
  · rw [h]
  · rw [hframe]
  · rw [hframe]
  · rw [hframe]
    rfl
  · rw [hframe]
    rfl

/-- A frame that is local comes to the same in states that can be compared. -/
theorem frame_same {R : ω → ω → Prop} (hout : c.outside.Indifferent R) (hlocal : c.LocalAt k)
    (h : c.Comparable s t) (hworld : R s.world t.world) : c.SameFrame R k s t := by
  obtain ⟨r, σ, τ, notes, notes', hs, ht, hagree⟩ := applyKnobs_alike h k
  cases r with
  | error e =>
    have hrefused := refuses_of_applyKnobs hs
    have hrefused' := refuses_of_applyKnobs ht
    refine ⟨hrefused.result.trans hrefused'.result.symm, hrefused.calls.trans hrefused'.calls.symm, ?_, ?_, ?_⟩
    · rw [frame, bind_apply, bind_apply, hs, ht]
      exact hworld
    · intro hok
      rw [hs] at hok
      cases hok
    · intro e' he'
      rw [hs] at he'
      cases he'
      exact ⟨hrefused, hrefused'⟩
  | ok u =>
    have htwins : Twins R (fun _ _ => True) (c.frame k s) (c.frame k t) := by
      rw [frame, bind_apply, bind_apply, hs, ht, Outcome.andThen_of_ok rfl, Outcome.andThen_of_ok rfl]
      have hrun := runFrame_twins (s := s.relabel σ) (t := t.relabel τ) hout hlocal (hagree rfl) h.clear
        hworld
      exact ⟨hrun.result, hrun.calls, hrun.world, hrun.stack, hrun.screen, hrun.machines⟩
    refine ⟨htwins.result, htwins.calls, htwins.world, fun _ => ⟨htwins.stack, htwins.screen⟩, ?_⟩
    intro e he
    rw [hs] at he
    cases he

/-- **Frames that are local are independent.** A frame of a program that sets no knobs itself, reads only the
    knobs to which the frame gives a value, and draws only in coordinate systems that it has saved before,
    comes to the same in any two states with the same names and pictures of the same size: whatever values
    and matrices the tables hold and whatever is on the stacks and the pictures, it makes the same calls
    with the same pictures, fails in the same way or not at all, and leaves the same stack and the same
    picture. If its knobs are refused, they are refused in both, and nothing of the frame runs. In
    particular a frame behind others comes to the same as the frame alone. -/
theorem frames_independent {R : ω → ω → Prop} (hout : c.outside.Indifferent R) (hlocal : c.LocalAt k) :
    (∀ s t : State α ω, c.Comparable s t → R s.world t.world → c.SameFrame R k s t) ∧
    ∀ (s : State α ω) (directory : Path) (w : ω),
      (c.knobsShown = true → s.machine.symbols.Filled) →
      R (c.runFrames directory (List.range k) s).state.world w →
      c.SameFrame R k (c.runFrames directory (List.range k) s).state { s with world := w } := by
  refine ⟨fun s t h hworld => frame_same hout hlocal h hworld, ?_⟩
  intro s directory w hfilled hworld
  have hinherits := (runFrames_bequeaths (c := c) directory (List.range k) s (.refl s.machine)).1
  apply frame_same hout hlocal _ hworld
  refine ⟨?_, hinherits.clear, fun hshown => ?_⟩
  · intro x
    rw [Symbols.kind?, hinherits.kinds]
    rfl
  · have hs := hfilled hshown
    have hs' := hinherits.filled hs
    exact ⟨hs', hs, Symbols.tableResult_congr hinherits.kinds hs hs'⟩

end Setup

/-- An animation whose frames give a value to the knob that is read, and save the coordinate system in which
a line is drawn. -/
def Setup.stroll : Setup Float Unit :=
  { Setup.spin with
    ops := [.frames 2, .basename (.str "stroll"), .vary (.str "k") 0 1 0.0 1.0,
      .move ⟨1.0, 0.0, 0.0⟩ (some (.str "k")), .saveCoordSystem (.str "c"),
      .line ⟨0.0, 0.0, 0.0⟩ ⟨1.0, 1.0, 0.0⟩ none (some (.str "c")) none]
    plan := ⟨⟨2, .str "stroll"⟩, Setup.spin.plan.timeline⟩ }

/-- The state before it. -/
def State.stroll : State Float Unit :=
  .initial ⟨⟨[(.text "k", .value), (.text "c", .matrix)]⟩, ⟨[(.text "k", 0.0)]⟩,
    ⟨[(.text "c", .identity)]⟩⟩ (.blank 1 1 .white) ()

/-- A state with other values and matrices, more on the stack, and a pixel that is not blank. -/
def State.trodden : State Float Unit :=
  ⟨⟨⟨.identity, [.identity]⟩, ⟨⟨[(.text "k", .value), (.text "c", .matrix)]⟩, ⟨[(.text "k", 7.0)]⟩,
    ⟨[(.text "c", .scaling ⟨2.0, 2.0, 2.0⟩)]⟩⟩, ⟨1, 1, .white, #[.black]⟩⟩, [.ofString "a.png"], ()⟩

theorem frames_independent_stroll :
    (plan (.str "default") Setup.stroll.ops).2 = .ok Setup.stroll.plan ∧
      Setup.stroll.outside.Indifferent Eq ∧ Setup.stroll.LocalAt 1 ∧
      Setup.stroll.Comparable .stroll .trodden ∧
      (Setup.stroll.frame 1 .stroll).calls = (Setup.stroll.frame 1 .trodden).calls ∧
      (Setup.stroll.frame 1 .stroll).state.machine.screen =
        (Setup.stroll.frame 1 .trodden).state.machine.screen ∧
      Setup.stroll.SameFrame Eq 1
        (Setup.stroll.runFrames (.ofString "anim") (List.range 1) .stroll).state .stroll := by
  have hout : Setup.stroll.outside.Indifferent Eq := Outside.indifferent_eq _
  have hlocal : Setup.stroll.LocalAt 1 := by
    constructor
    · decide
    · decide
    · intro op hop name x hknob hx
      simp only [Setup.stroll, List.mem_cons, List.not_mem_nil, or_false] at hop
      rcases hop with rfl | rfl | rfl | rfl | rfl | rfl <;> cases hknob
      cases hx
      exact ⟨(.text "k", 1.0), List.mem_singleton_self _, rfl⟩
    · intro i op hop name hname x hx
      rcases i with _ | _ | _ | _ | _ | _ | i <;> cases hop <;> cases hname
      · cases hx
        exact ⟨4, by decide, .str "c", rfl, rfl⟩
      · contradiction
  have hcomparable : Setup.stroll.Comparable .stroll .trodden := ⟨fun _ => rfl, rfl, nofun⟩
  obtain ⟨hsame, halone⟩ := Setup.frames_independent hout hlocal
  have htwo := hsame .stroll .trodden hcomparable rfl
  exact ⟨rfl, hout, hlocal, hcomparable, htwo.calls, (htwo.drawn rfl).2,
    halone .stroll (.ofString "anim") () nofun (Subsingleton.elim _ _)⟩

/-- An animation whose second frame gives a value to a knob that is not declared. -/
def Setup.haunted : Setup Float Unit :=
  { Setup.spin with
    ops := [.frames 2, .basename (.str "haunted"), .vary (.str "ghost") 1 2 0.0 1.0, .push]
    plan := ⟨⟨2, .str "haunted"⟩, some ⟨[⟨[]⟩, ⟨[(.text "ghost", 0.0)]⟩]⟩⟩ }

/-- The state before it, and one with more on the stack and a pixel that is not blank. -/
def State.haunted (stack : Stack Float) (pixel : Rgb) : State Float Unit :=
  ⟨⟨stack, {}, ⟨1, 1, .white, #[pixel]⟩⟩, [], ()⟩

/-- Knobs are set before stack and picture start afresh, so a frame whose knobs are refused leaves the ones
    that it found: they need not be the same. -/
theorem refused_frame_depends :
    (plan (.str "default") Setup.haunted.ops).2 = .ok Setup.haunted.plan ∧ Setup.haunted.LocalAt 1 ∧
      Setup.haunted.Comparable (.haunted .world .white) (.haunted (Stack.world).push .black) ∧
      (Setup.haunted.frame 1 (.haunted (Stack.world).push .black)).state.machine.stack.depth ≠
        (Setup.haunted.frame 1 (.haunted .world .white)).state.machine.stack.depth ∧
      (Setup.haunted.frame 1 (.haunted (Stack.world).push .black)).state.machine.screen.pixels ≠
        (Setup.haunted.frame 1 (.haunted .world .white)).state.machine.screen.pixels := by
  have hlocal : Setup.haunted.LocalAt 1 := by
    constructor
    · decide
    · decide
    · intro op hop name x hknob hx
      simp only [Setup.haunted, List.mem_cons, List.not_mem_nil, or_false] at hop
      rcases hop with rfl | rfl | rfl | rfl <;> cases hknob
    · intro i op hop name hname x hx
      rcases i with _ | _ | _ | _ | i <;> cases hop <;> cases hname
  have hdepth : (2 : Nat) ≠ 1 := by decide
  have hpixels : #[Rgb.black] ≠ #[Rgb.white] := by decide
  exact ⟨rfl, hlocal, ⟨fun _ => rfl, rfl, nofun⟩, hdepth, hpixels⟩

end Wireframe.Run
