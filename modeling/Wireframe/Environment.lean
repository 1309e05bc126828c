import Wireframe.Document.Conversion
import Wireframe.Text.Case
import Wireframe.Log

/-!
# `Wireframe.Environment` — settings from the environment, and the log

Some settings are variables of the environment. A variable with nothing but blanks counts as not set where
a text is wanted; where a truth value is wanted, a variable that is neither a number nor one of a few words
does.

## Contents
- `Environment`, `flag`, `word`: variables.
- `Settings`, `Settings.ofEnvironment`: the settings.
- `resolveLevel`: a level of the log from a value.
- `Logger`, `Logger.setUp`: the log of the process.
-/

namespace Wireframe

open Document

/-- Variables by name. -/
abbrev Environment := Dict String String

namespace Environment

/-- The truth value of a text: a number, or a word in any case. -/
def flagOf? (text : String) : Option Bool :=
  let s := Text.lower (Text.trim text)
  match Decimal.readInt s with
  | some n => some (n != 0)
  | none =>
    if ["true", "t", "yes", "y", "on"].contains s then some true
    else if ["false", "f", "no", "n", "off"].contains s then some false
    else none

/-- A variable as a truth value. -/
def flag (env : Environment) (name : String) (default : Bool) : Bool :=
  ((env.find? name).bind flagOf?).getD default

/-- A variable as a text without blanks around it. -/
def word? (env : Environment) (name : String) : Option String :=
  match env.find? name with
  | some s => if (Text.trim s).isEmpty then none else some (Text.trim s)
  | none => none

end Environment

/-- The settings of the process. -/
structure Environment.Settings where
  trace : Bool
  levelName : String
  compiled : Bool
  deriving DecidableEq, Repr

/-- The settings in an environment. -/
def Environment.settings (env : Environment) : Environment.Settings where
  trace := env.flag "MDL_TRACE_OPCODES" false
  levelName := Text.upper ((env.word? "MDL_LOG_LEVEL").getD "INFO")
  compiled := env.flag "MDL_USE_NUMBA" true

/-- The level that a value stands for: null is the level of the settings, a name that is not known the
level of information. -/
def resolveLevel (s : Environment.Settings) (level : Value) : Except Error Int :=
  let level := if level.isNull then .str s.levelName else level
  match level with
  | .str name => .ok ((levelNamed? (Text.upper (Text.trim name))).getD Level.info.number)
  | v => v.toInteger

/-! ## The log of the process -/

/-- The layout of a line of the log. -/
def lineLayout : String := "%(asctime)s [%(levelname)s] %(name)s: %(message)s"

/-- The log of the process: its level, and for every reader of it the layout of its lines, if it has one of
its own. -/
structure Logger where
  level : Int
  readers : List (Option String)
  deriving DecidableEq, Repr

/-- Sets the level; the first time there is no reader one is added. -/
def Logger.setUp (l : Logger) (s : Environment.Settings) (level : Value) : Except Error Logger := do
  let n ← resolveLevel s level
  if l.readers.isEmpty then return ⟨n, [some lineLayout]⟩ else return { l with level := n }

end Wireframe
