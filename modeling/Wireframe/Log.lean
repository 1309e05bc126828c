/-!
# `Wireframe.Log` — records of what happens

The library reports what it does as records: a level, the part of the program that speaks, and a text.
Levels are compared by number; a reader of the log leaves out records below a level of its own.

## Contents
- `Level`, `Record`: the records.
- `levelNamed?`: levels by name.
-/

namespace Wireframe

/-- How important a record is. -/
inductive Level where
  | debug | info | warning | error
  deriving DecidableEq, Repr

/-- The number of a level. -/
def Level.number : Level → Int
  | .debug => 10
  | .info => 20
  | .warning => 30
  | .error => 40

/-- The name of a level in records. -/
def Level.name : Level → String
  | .debug => "DEBUG"
  | .info => "INFO"
  | .warning => "WARNING"
  | .error => "ERROR"

/-- The number that a level name stands for; several names stand for the same number. -/
def levelNamed? : String → Option Int
  | "CRITICAL" => some 50
  | "FATAL" => some 50
  | "ERROR" => some 40
  | "WARN" => some 30
  | "WARNING" => some 30
  | "INFO" => some 20
  | "DEBUG" => some 10
  | "NOTSET" => some 0
  | _ => none

/-- A record of the log. -/
structure Record where
  level : Level
  source : String
  text : String
  deriving DecidableEq, Repr

/-- The records of at least a level. -/
def atLeast (level : Int) (records : List Record) : List Record :=
  records.filter fun r => level ≤ r.level.number

end Wireframe
