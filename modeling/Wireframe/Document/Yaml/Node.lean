import Wireframe.Document.Yaml.Timestamp

/-!
# `Wireframe.Document.Yaml.Node` — documents before their scalars are read

A node is a scalar, a sequence or a table, and has a tag that says what it stands for. A plain scalar
without a tag gets one from its spelling. Nodes have numbers, and sequences and tables hold the numbers of
their parts, because an alias may stand for a node that it is a part of.

## Contents
- `Tag`, `Tag.ofName`: the tags.
- `Content`, `Node`, `Graph`: the nodes.
- `implicitTag`: the tag of a plain scalar.
-/

namespace Wireframe.Document.Yaml

/-- What a node stands for. -/
inductive Tag where
  | null | bool | int | float | binary | timestamp | text
  | sequence | mapping | set | ordered | pairs
  -- A key whose value is taken over, and a key for a value of its own.
  | merge | default
  | unknown
  deriving DecidableEq

/-- What the names of the common tags begin with. -/
def commonTags : String := "tag:yaml.org,2002:"

/-- The tag with a name. -/
def Tag.ofName (name : String) : Tag :=
  let named : List (String × Tag) :=
    [("null", .null), ("bool", .bool), ("int", .int), ("float", .float), ("binary", .binary),
     ("timestamp", .timestamp), ("str", .text), ("seq", .sequence), ("map", .mapping), ("set", .set),
     ("omap", .ordered), ("pairs", .pairs), ("merge", .merge), ("value", .default)]
  match named.find? fun e => commonTags ++ e.1 == name with
  | some (_, tag) => tag
  | none => .unknown

/-- What a node is made of; its parts are given by number. -/
inductive Content where
  | scalar (text : String)
  | sequence (items : List Nat)
  | mapping (entries : List (Nat × Nat))

/-- A node. -/
structure Node where
  tag : Tag
  content : Content

/-- The scalar where nothing is written. -/
def Node.nothing : Node := ⟨.null, .scalar ""⟩

instance : Inhabited Node := ⟨.nothing⟩

/-- The nodes of a document by number, the number of the outermost one, and whether an alias stands for a
node around it. -/
structure Graph where
  nodes : Array Node
  root : Nat
  isLooped : Bool

/-! ## Plain scalars -/

/-- A text without the sign before it. -/
def withoutSign : List Char → List Char
  | '-' :: rest => rest
  | '+' :: rest => rest
  | cs => cs

/-- Digits and underscores. -/
def isDigitOrBar (c : Char) : Bool := c.isDigit || c == '_'

/-- What follows one or more groups of a colon and a number below sixty. -/
def afterSixties : List Char → Option (List Char)
  | ':' :: a :: b :: rest =>
    if !a.isDigit then none
    else if b.isDigit then
      if a ≤ '5' then (if rest.head? == some ':' then afterSixties rest else some rest) else none
    else if b == ':' then afterSixties (b :: rest)
    else some (b :: rest)
  | [':', a] => if a.isDigit then some [] else none
  | _ => none

/-- An exponent with its sign, or nothing. -/
def isExponent : List Char → Bool
  | [] => true
  | e :: sign :: ds =>
    (e == 'e' || e == 'E') && (sign == '+' || sign == '-') && !ds.isEmpty && ds.all Char.isDigit
  | _ => false

/-- Digits with a point, and perhaps an exponent. -/
def isPointed (cs : List Char) : Bool :=
  match cs.dropWhile isDigitOrBar with
  | '.' :: rest => cs.head?.any Char.isDigit && isExponent (rest.dropWhile isDigitOrBar)
  | _ => false

/-- A point, digits, and perhaps an exponent. -/
def isPlaces : List Char → Bool
  | '.' :: d :: rest => d.isDigit && isExponent (rest.dropWhile isDigitOrBar)
  | _ => false

/-- A number with parts of sixty and a point. -/
def isPointedSixties (cs : List Char) : Bool :=
  cs.head?.any Char.isDigit &&
    match afterSixties (cs.dropWhile isDigitOrBar) with
    | some ('.' :: rest) => rest.all isDigitOrBar
    | _ => false

/-- Whether a plain scalar is a number with a point. -/
def isFloatText (cs : List Char) : Bool :=
  let body := withoutSign cs
  isPointed body || isPlaces cs || isPointedSixties body ||
    [".inf", ".Inf", ".INF"].contains (String.ofList body) ||
    [".nan", ".NaN", ".NAN"].contains (String.ofList cs)

/-- Whether an unsigned plain scalar is a whole number. -/
def isIntBody : List Char → Bool
  | ['0'] => true
  | '0' :: 'b' :: ds => !ds.isEmpty && ds.all fun c => c == '0' || c == '1' || c == '_'
  | '0' :: 'x' :: ds => !ds.isEmpty && ds.all fun c => (Decimal.hexValue? c).isSome || c == '_'
  | '0' :: ds => ds.all fun c => ('0' ≤ c && c ≤ '7') || c == '_'
  | c :: rest =>
    c.isDigit &&
      match rest.dropWhile isDigitOrBar with
      | [] => true
      | more => afterSixties more == some []
  | [] => false

/-- The tag of a plain scalar; a line break at its end does not count. -/
def implicitTag (text : String) : Tag :=
  let cs := match text.toList.reverse with
    | '\n' :: c :: rest => (c :: rest).reverse
    | _ => text.toList
  let word := String.ofList cs
  if ["yes", "Yes", "YES", "no", "No", "NO", "true", "True", "TRUE", "false", "False", "FALSE", "on",
      "On", "ON", "off", "Off", "OFF"].contains word then .bool
  else if isFloatText cs then .float
  else if isIntBody (withoutSign cs) then .int
  else if word == "<<" then .merge
  else if ["", "~", "null", "Null", "NULL"].contains word then .null
  else if Timestamp.isImplicit cs then .timestamp
  else if word == "=" then .default
  else if ["!", "&", "*"].contains word then .unknown
  else .text

end Wireframe.Document.Yaml
