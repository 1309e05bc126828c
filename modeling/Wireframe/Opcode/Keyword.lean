import Wireframe.Opcode.Basic
import Wireframe.Registry

/-!
# `Wireframe.Opcode.Keyword` — keywords of instructions

A keyword is looked up in a registry, so that case, hyphens and blanks inside it do not matter.
-/

namespace Wireframe

open Document

/-- The kinds of instructions under their keywords. -/
def keywords : Registry Form :=
  ⟨.ofList (Form.all.map fun f => (f.keyword, f))⟩

/-- The kind of instruction that a keyword stands for; blanks inside count as underscores. -/
def Form.ofKeyword (keyword : String) : Except Error Form :=
  keywords.get (.str (String.ofList (keyword.toList.map fun c => if c == ' ' then '_' else c)))

end Wireframe
