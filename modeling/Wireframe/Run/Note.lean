import Wireframe.Opcode.Basic
import Wireframe.Path
import Wireframe.Log

/-!
# `Wireframe.Run.Note` — what a run reports

While a program runs it is reported which instruction failed, what was saved and, for those who want to
know more, every instruction and the knobs of every frame. Records of those outside who save, show and
assemble stand between the notes of the run itself.
-/

namespace Wireframe.Run

open Document

/-- What there is to report of a run. -/
inductive Note where
  | traced (index : Nat) (line : String)
  | failed (frame index : Nat) (line : String)
  | knobs (frame : Nat) (table : String)
  | passedOver (material : Name)
  | saved (path : Path)
  | frameWritten (number : Nat) (count : Int) (path : Path)
  | outside (record : Record)

namespace Note

/-- The importance of a note. -/
def level : Note → Level
  | traced .. | knobs .. | passedOver _ => .debug
  | saved _ | frameWritten .. => .info
  | failed .. => .error
  | outside record => record.level

/-- The text of a note. -/
def text : Note → String
  | traced index line => s!"{index}: {line}"
  | failed frame index line => s!"frame {frame}: opcode {index} ({line}) の実行に失敗しました"
  | knobs frame table => s!"frame {frame} knobs\n{table}"
  | passedOver material => s!"material {material.text} is ignored"
  | saved path => s!"saved {path.text}"
  | frameWritten number count path => s!"frame {number}/{count} -> {path.text}"
  | outside record => record.text

/-- The record of a note. -/
def record (n : Note) : Record :=
  match n with
  | outside record => record
  | n => ⟨n.level, "mdl.executor", n.text⟩

end Note

end Wireframe.Run
