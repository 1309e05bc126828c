import Wireframe.Document.Json
import Wireframe.Document.Yaml
import Wireframe.Opcode.Parse
import Wireframe.Files
import Wireframe.Log

/-!
# `Wireframe.Program` — program files

A program is a document in a file: JSON where the name of the file ends in `.json`, YAML elsewhere.

## Contents
- `documentOf`: the document in a text.
- `load`: the program in a file.
-/

namespace Wireframe.Program

open Document

/-- The format of a file. -/
def formatOf (p : Path) : Format := if Text.lower p.suffix == ".json" then .json else .yaml

/-- The document in the text of a file. -/
def documentOf (p : Path) (text : String) : Except Error Value :=
  match formatOf p with
  | .json =>
    match Json.read text with
    | .ok v => .ok v
    | .error .malformed => .error (.unreadable p.text .json)
    | .error .huge => .error .notNumber
    | .error .deep => .error .endless
  | .yaml =>
    match Yaml.read text with
    | .ok v => .ok v
    | .error .malformed => .error (.unreadable p.text .yaml)
    | .error (.faulty e) => .error e

/-- The record of a program that was read. -/
def loadedRecord (count : Nat) (p : Path) : Record :=
  ⟨.debug, "mdl.loader", s!"loaded {count} opcodes from {p.text}"⟩

/-- The program in a file, with what there is to report. -/
def load (fs : Files) (p : Path) : Except Error (List (Opcode Float) × Record) := do
  let text ← fs.readText p
  let ops ← parseProgram (← documentOf p text)
  return (ops, loadedRecord ops.length p)

end Wireframe.Program
