import Wireframe.Document.Yaml.Parser
import Wireframe.Document.Yaml.Meaning

/-!
# `Wireframe.Document.Yaml` — reading YAML

Programs and settings are written in YAML 1.1. A text is cut into tokens, the tokens are read as nodes, and
the nodes are read as a value.
-/

namespace Wireframe.Document.Yaml

/-- The value of a YAML text; a text without a document is null. -/
def read (text : String) : Except Failure Value := do
  match ← Graph.ofTokens? (tokens text) with
  | none => return .null
  | some g => g.value

end Wireframe.Document.Yaml
