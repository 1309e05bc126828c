import Wireframe.Document.Yaml.Basic

/-!
# `Wireframe.Document.Yaml.Token` — the tokens of YAML

Besides the tokens that are written there are three that indentation makes: the beginning of a sequence or
table that is laid out in lines, and its end. A key without a sign of its own gets one in front of it.

Tokens are read only as far as they are asked for: a fault of the text behind the last token that is looked
at does not matter.
-/

namespace Wireframe.Document.Yaml

/-- The tokens. -/
inductive Token where
  | version (major : Nat)
  | tagHandle (handle target : String)
  | otherDirective
  | documentStart
  | documentEnd
  | streamEnd
  | blockSequence
  | blockMapping
  | blockEnd
  | openSequence
  | closeSequence
  | openMapping
  | closeMapping
  | comma
  | entry
  | key
  | value
  | alias (name : String)
  | anchor (name : String)
  | tag (handle : Option String) (suffix : String)
  | scalar (text : String) (plain : Bool)
  deriving BEq

/-- The tokens of a text up to its end or to a fault, which is met behind the last of them. -/
structure Tokens where
  ready : List Token
  fault : Option Failure := none

end Wireframe.Document.Yaml
