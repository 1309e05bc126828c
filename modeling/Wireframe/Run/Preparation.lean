import Wireframe.Run

/-!
# `Wireframe.Run.Preparation` — before a run

From a program and its options come the table of symbols, the plan and the empty picture, in this order.
-/

namespace Wireframe

/-- The empty picture for some options. -/
def Options.screen (o : Options) : Except Error Screen :=
  Screen.ofValues (.int o.width) (.int o.height) o.background.toValue

namespace Run

variable {α ω : Type} [Scalar α]

/-- The state before the first run. -/
def State.initial (symbols : Symbols α) (screen : Screen) (world : ω) : State α ω :=
  ⟨⟨.world, symbols, screen⟩, [], world⟩

/-- What a run of a program needs and the state before it, with what there is to report. -/
def prepare (ops : List (Opcode α)) (options : Options) (traced knobsShown : Bool)
    (outside : Outside ω) (world : ω) : List Record × Except Error (Setup α ω × State α ω) :=
  match Symbols.ofProgram ops [] with
  | .error e => ([], .error e)
  | .ok (symbols, declared) =>
    match plan options.defaultBasename ops with
    | (notices, .error e) => (declared :: notices.map Notice.record, .error e)
    | (notices, .ok plan) =>
      (declared :: notices.map Notice.record, options.screen.map fun screen =>
        (⟨ops, options, plan, traced, knobsShown, outside⟩, .initial symbols screen world))

end Run

end Wireframe
