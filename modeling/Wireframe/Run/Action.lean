import Wireframe.Machine
import Wireframe.Run.Note
import Wireframe.Run.Outside

/-!
# `Wireframe.Run.Action` — parts of a run

A part of a run starts in a state and comes to an outcome: a result or a failure, the state after it, the
calls that were made and the notes that were taken. Parts follow one another up to the first failure;
what happened before a failure is kept.

## Contents
- `State`, `Outcome`, `Action`: parts of a run.
- `lift`, `change`, `advance`, `note`, `keep`: parts that stay inside.
- `consult`, `call`: parts that call those outside.
- `orReport`: a note in case of a failure.
-/

namespace Wireframe.Run

open Document

/-- The state of a run: what instructions change, the pictures that were saved by instructions, and the
world of those outside. -/
structure State (α ω : Type) where
  machine : Machine α
  saved : List Path
  world : ω

/-- What came of a part of a run. -/
structure Outcome (α ω β : Type) where
  result : Except Error β
  state : State α ω
  calls : List (Call α)
  notes : List Note

/-- A part of a run. -/
def Action (α ω β : Type) : Type := State α ω → Outcome α ω β

variable {α ω β γ : Type}

/-- What came of a part and of the one that follows it in case of success. -/
def Outcome.andThen (r : Outcome α ω β) (f : β → Action α ω γ) : Outcome α ω γ :=
  match r.result with
  | .error e => ⟨.error e, r.state, r.calls, r.notes⟩
  | .ok b =>
    let q := f b r.state
    ⟨q.result, q.state, r.calls ++ q.calls, r.notes ++ q.notes⟩

namespace Action

/-- Nothing happens. -/
def done (b : β) : Action α ω β := fun s => ⟨.ok b, s, [], []⟩

instance : Monad (Action α ω) where
  pure := done
  bind a f := fun s => (a s).andThen f

/-! ## Inside -/

/-- A result or a failure. -/
def lift (r : Except Error β) : Action α ω β := fun s => ⟨r, s, [], []⟩

/-- Something about the state. -/
def look (f : State α ω → β) : Action α ω β := fun s => ⟨.ok (f s), s, [], []⟩

/-- A change of what instructions change. A failure changes nothing. -/
def change (f : Machine α → Except Error (Machine α)) : Action α ω Unit := fun s =>
  match f s.machine with
  | .ok m => ⟨.ok (), { s with machine := m }, [], []⟩
  | .error e => ⟨.error e, s, [], []⟩

/-- A note. -/
def note (n : Note) : Action α ω Unit := fun s => ⟨.ok (), s, [], [n]⟩

/-- An instruction, with a note for every material that is passed over. -/
def advance (f : Machine α → Step α) : Action α ω Unit := fun s =>
  let r := f s.machine
  let notes := r.passedOver.map Note.passedOver
  match r.result with
  | .ok m => ⟨.ok (), { s with machine := m }, [], notes⟩
  | .error e => ⟨.error e, s, [], notes⟩

/-- Keeps in mind that an instruction saved a picture. -/
def keep (path : Path) : Action α ω Unit := fun s =>
  ⟨.ok (), { s with saved := s.saved ++ [path] }, [], []⟩

/-- A note, if a part fails. Where there is a failure instead of a note, that is the one handed on. -/
def orReport (a : Action α ω β) (n : Except Error Note) : Action α ω β := fun s =>
  let r := a s
  match r.result, n with
  | .ok _, _ => r
  | .error _, .ok n => { r with notes := r.notes ++ [n] }
  | .error _, .error e => { r with result := .error e }

/-! ## Outside -/

/-- Asks those outside for something that is not kept in the history. -/
def consult (ask : ω → Reply ω β) : Action α ω β := fun s =>
  let r := ask s.world
  ⟨r.result, { s with world := r.world }, [], r.records.map Note.outside⟩

/-- Whether a result is a success. -/
def succeeded (r : Except Error β) : Bool :=
  match r with
  | .ok _ => true
  | .error _ => false

/-- Calls those outside. -/
def call (request : Request) (ask : Screen → ω → Reply ω β) : Action α ω β := fun s =>
  let m := s.machine
  let r := ask m.screen s.world
  ⟨r.result, { s with world := r.world }, [⟨request, m.stack, m.screen, succeeded r.result⟩],
    r.records.map Note.outside⟩

end Action

end Wireframe.Run
