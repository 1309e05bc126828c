import Wireframe.Dict
import Wireframe.Decimal.Layout
import Wireframe.Decimal.Reading
import Wireframe.Text.Quoted
import Wireframe.Document.Calendar

/-!
# `Wireframe.Document.Value` — values of a document

What a document holds: atoms, sequences and tables. A key of a table is a label: an atom, or a sequence of
fixed length of labels. Two atoms are the same key when they are equal as values, where numbers are
compared by their value: `1`, `1.0` and `true` are one key. A number that is not a number is the same key
only as itself. Sequences are the same key when their parts are, one by one.

A sequence or table may contain itself. Such a part of a document has a number: it is written once as a
knot, and inside the knot the number stands for the whole.

## Contents
- `Atom`, `Key`, `Atom.key`: atoms, and atoms up to equality of values.
- `Label`: keys of tables.
- `Value`, `Value.label?`, `Label.value`: documents, and those of them that are labels.
- `Value.opened`: a value whose own form is in sight.
- `Value.quoted`, `Value.text`: a value inside a message, and as a text of its own.
- `Value.isWritable`: whether a value can be shown.
- `Value.typeName`, `Value.isTruthy`: the kind of a value in messages, and its truth.
-/

namespace Wireframe.Document

/-- A value without parts. -/
inductive Atom where
  | null
  | bool (b : Bool)
  | int (n : Int)
  | float (x : Float)
  -- A double that is not a number and differs from others of its kind by its mark.
  | nan (mark : Nat)
  | text (s : String)
  | bytes (b : List UInt8)
  | date (d : Date)
  | moment (m : Moment)
  deriving Inhabited

/-- An atom up to equality of values: a whole number is the same key in each of its forms, and so is a
moment with any offset from the reference clock. -/
inductive Key where
  | null
  | int (n : Int)
  | fraction (bits : UInt64)
  | nan (mark : Nat)
  | text (s : String)
  | bytes (b : List UInt8)
  | date (d : Date)
  | instant (micros : Int)
  | moment (m : Moment)
  deriving DecidableEq

/-- The key that an atom is. -/
def Atom.key : Atom → Key
  | .null => .null
  | .bool b => .int (if b then 1 else 0)
  | .int n => .int n
  | .float x =>
    match Decimal.integer? x with
    | some n => .int n
    | none => .fraction x.toBits
  | .nan mark => .nan mark
  | .text s => .text s
  | .bytes b => .bytes b
  | .date d => .date d
  | .moment m =>
    match m.instant? with
    | some micros => .instant micros
    | none => .moment m

/-- Whether an atom is a number that is not a number. -/
def Atom.isNaN : Atom → Bool
  | .float x => x.isNaN
  | .nan _ => true
  | _ => false

instance : BEq Atom := ⟨fun a b => a.key == b.key⟩

/-- What can be a key of a table: an atom, or a sequence of fixed length of labels. -/
inductive Label where
  | atom (a : Atom)
  | tuple (items : List Label)
  deriving Inhabited

@[match_pattern] abbrev Label.text (s : String) : Label := .atom (.text s)

mutual

/-- Whether two labels are the same key: their atoms are, one by one. -/
def Label.beq : Label → Label → Bool
  | .atom a, .atom b => a == b
  | .tuple items, .tuple others => beqLabels items others
  | _, _ => false

/-- Whether labels are the same keys one by one. -/
def beqLabels : List Label → List Label → Bool
  | [], [] => true
  | k :: rest, l :: others => k.beq l && beqLabels rest others
  | _, _ => false

end

instance : BEq Label := ⟨Label.beq⟩

mutual

/-- The atoms that a label is made of. -/
def Label.atoms : Label → List Atom
  | .atom a => [a]
  | .tuple items => atomsOfLabels items

/-- The atoms that labels are made of. -/
def atomsOfLabels : List Label → List Atom
  | [] => []
  | k :: rest => k.atoms ++ atomsOfLabels rest

end

/-- A document. A tuple is a sequence of fixed length. Inside a knot its number stands for the knot. -/
inductive Value where
  | atom (a : Atom)
  | list (items : List Value)
  | tuple (items : List Value)
  | map (entries : List (Label × Value))
  | set (items : List Label)
  | knot (id : Nat) (content : Value)
  | again (id : Nat)
  deriving Inhabited

namespace Value

@[match_pattern] abbrev null : Value := .atom .null
@[match_pattern] abbrev bool (b : Bool) : Value := .atom (.bool b)
@[match_pattern] abbrev int (n : Int) : Value := .atom (.int n)
@[match_pattern] abbrev float (x : Float) : Value := .atom (.float x)
@[match_pattern] abbrev str (s : String) : Value := .atom (.text s)

/-- Whether the value is null. -/
def isNull : Value → Bool
  | .null => true
  | _ => false

/-- The value, unless it is null. -/
def present? (v : Value) : Option Value := if v.isNull then none else some v

/-- The text that the value is, if it is one. -/
def str? : Value → Option String
  | .str s => some s
  | _ => none

end Value

/-! ## Values as keys -/

mutual

/-- The label that the value is, if it is one: nothing in a label can change. -/
def Value.label? : Value → Option Label
  | .atom a => some (.atom a)
  | .tuple items => (labels? items).map .tuple
  | _ => none

/-- The labels that values are, if all of them are labels. -/
def labels? : List Value → Option (List Label)
  | [] => some []
  | v :: rest =>
    match v.label?, labels? rest with
    | some k, some ks => some (k :: ks)
    | _, _ => none

end

mutual

/-- The value that a label is. -/
def Label.value : Label → Value
  | .atom a => .atom a
  | .tuple items => .tuple (labelValues items)

/-- The values that labels are. -/
def labelValues : List Label → List Value
  | [] => []
  | k :: rest => k.value :: labelValues rest

end

/-! ## Values that contain themselves -/

mutual

/-- A value with another one in place of a number. -/
def Value.tie (id : Nat) (whole : Value) : Value → Value
  | .atom a => .atom a
  | .list items => .list (tieItems id whole items)
  | .tuple items => .tuple (tieItems id whole items)
  | .map entries => .map (tieEntries id whole entries)
  | .set items => .set items
  | .knot i content => .knot i (if i = id then content else Value.tie id whole content)
  | .again i => if i = id then whole else .again i

/-- Items with a value in place of a number. -/
def tieItems (id : Nat) (whole : Value) : List Value → List Value
  | [] => []
  | v :: rest => Value.tie id whole v :: tieItems id whole rest

/-- Entries with a value in place of a number. -/
def tieEntries (id : Nat) (whole : Value) : List (Label × Value) → List (Label × Value)
  | [] => []
  | (k, v) :: rest => (k, Value.tie id whole v) :: tieEntries id whole rest

end

/-- A value that is not a knot: the content of one with the knot in place of its number. -/
def Value.opened : Value → Value
  | .knot id content => Value.tie id (.knot id content) content
  | v => v

/-! ## Values in messages -/

/-- An octet inside quotes of a kind. -/
def quoteByte (mark : Char) (b : UInt8) : List Char :=
  let c := Char.ofNat b.toNat
  if c == mark || c == '\\' then ['\\', c]
  else if c == '\n' then ['\\', 'n']
  else if c == '\r' then ['\\', 'r']
  else if c == '\t' then ['\\', 't']
  else if 0x20 ≤ b && b < 0x7f then [c]
  else '\\' :: 'x' :: Text.hexDigits 2 b.toNat

/-- Octets inside a message; the quotes are those of a text. -/
def bytesQuoted (b : List UInt8) : String :=
  let mark := Text.quoteMark (b.map fun x => Char.ofNat x.toNat)
  String.ofList ('b' :: mark :: b.flatMap (quoteByte mark) ++ [mark])

/-- An offset from the reference clock inside a message. -/
def offsetQuoted (s : Int) : String :=
  if s == 0 then "datetime.timezone.utc"
  else if s < 0 then s!"datetime.timezone(datetime.timedelta(days=-1, seconds={86400 + s}))"
  else s!"datetime.timezone(datetime.timedelta(seconds={s}))"

/-- A moment inside a message: seconds and their fraction only where they are not zero. -/
def momentQuoted (m : Moment) : String :=
  let fields : List Nat := [m.date.year, m.date.month, m.date.day, m.hour, m.minute] ++
    (if m.second != 0 || m.micro != 0 then [m.second] else []) ++
    (if m.micro != 0 then [m.micro] else [])
  let zone := (m.offset.map fun s => ["tzinfo=" ++ offsetQuoted s]).getD []
  "datetime.datetime(" ++ ", ".intercalate (fields.map toString ++ zone) ++ ")"

/-- An atom inside a message. -/
def Atom.quoted : Atom → String
  | .null => "None"
  | .bool b => if b then "True" else "False"
  | .int n => toString n
  | .float x => Decimal.text x
  | .text s => Text.quote s
  | .nan _ => Decimal.text (0.0 / 0.0)
  | .bytes b => bytesQuoted b
  | .date d => s!"datetime.date({d.year}, {d.month}, {d.day})"
  | .moment m => momentQuoted m

/-- An atom as a text of its own. -/
def Atom.asText : Atom → String
  | .text s => s
  | .date d => d.text
  | .moment m => m.text
  | a => a.quoted

/-- A sequence of fixed length inside a message, from its parts. -/
def quoteTuple : List String → String
  | [part] => "(" ++ part ++ ",)"
  | parts => "(" ++ ", ".intercalate parts ++ ")"

mutual

/-- A label inside a message. -/
def Label.quoted : Label → String
  | .atom a => a.quoted
  | .tuple items => quoteTuple (quotedLabels items)

/-- Labels inside a message. -/
def quotedLabels : List Label → List String
  | [] => []
  | k :: rest => k.quoted :: quotedLabels rest

end

/-- A label as a text of its own. -/
def Label.asText : Label → String
  | .atom a => a.asText
  | k => k.quoted

/-- What stands for a value inside itself: the brackets of its kind around three dots. -/
def Value.dots : Value → String
  | .map _ => "\x7b...\x7d"
  | .tuple _ => "(...)"
  | _ => "[...]"

/-- What stands for a number of a knot that is being shown; `path` holds those from the outside in. -/
def dotsOf (path : List (Nat × String)) (id : Nat) : Option String :=
  (path.find? fun e => e.1 == id).map (·.2)

mutual

/-- A value inside a message, inside the knots of a path. -/
def Value.quotedIn (path : List (Nat × String)) : Value → String
  | .atom a => a.quoted
  | .list items => "[" ++ ", ".intercalate (quotedItems path items) ++ "]"
  | .tuple items => quoteTuple (quotedItems path items)
  | .map entries => "\x7b" ++ ", ".intercalate (quotedEntries path entries) ++ "\x7d"
  | .set [] => "set()"
  | .set items => "\x7b" ++ ", ".intercalate (items.map Label.quoted) ++ "\x7d"
  | .knot id content =>
    match dotsOf path id with
    | some dots => dots
    | none => content.quotedIn ((id, content.dots) :: path)
  | .again id => (dotsOf path id).getD "..."

/-- The items of a sequence inside a message. -/
def quotedItems (path : List (Nat × String)) : List Value → List String
  | [] => []
  | v :: rest => v.quotedIn path :: quotedItems path rest

/-- The entries of a table inside a message. -/
def quotedEntries (path : List (Nat × String)) : List (Label × Value) → List String
  | [] => []
  | (k, v) :: rest => (k.quoted ++ ": " ++ v.quotedIn path) :: quotedEntries path rest

end

/-- A value inside a message. -/
def Value.quoted (v : Value) : String := v.quotedIn []

/-- A value as a text of its own. -/
def Value.text : Value → String
  | .atom a => a.asText
  | v => v.quoted

/-- Whether an integer has few enough digits to be shown. -/
def isWritableInt (n : Int) : Bool := (Nat.toDigits 10 n.natAbs).length ≤ Decimal.maxDigits

/-- Whether an atom can be shown. -/
def Atom.isWritable : Atom → Bool
  | .int n => isWritableInt n
  | _ => true

/-- Whether a label can be shown. -/
def Label.isWritable (k : Label) : Bool := k.atoms.all Atom.isWritable

mutual

/-- Whether a value can be shown: no integer in it has too many digits. -/
def Value.isWritable : Value → Bool
  | .atom a => a.isWritable
  | .list items => areWritable items
  | .tuple items => areWritable items
  | .map entries => entriesWritable entries
  | .set items => items.all Label.isWritable
  | .knot _ content => content.isWritable
  | .again _ => true

/-- Whether all items can be shown. -/
def areWritable : List Value → Bool
  | [] => true
  | v :: rest => v.isWritable && areWritable rest

/-- Whether all entries can be shown. -/
def entriesWritable : List (Label × Value) → Bool
  | [] => true
  | (k, v) :: rest => k.isWritable && v.isWritable && entriesWritable rest

end

/-- The kind of a value in messages. -/
def Value.typeName : Value → String
  | .atom .null => "NoneType"
  | .atom (.bool _) => "bool"
  | .atom (.int _) => "int"
  | .atom (.float _) | .atom (.nan _) => "float"
  | .atom (.text _) => "str"
  | .atom (.bytes _) => "bytes"
  | .atom (.date _) => "date"
  | .atom (.moment _) => "datetime"
  | .list _ => "list"
  | .tuple _ => "tuple"
  | .map _ => "dict"
  | .set _ => "set"
  | .knot _ content => content.typeName
  | .again _ => "list"

/-- Whether a value counts as true in a condition: null, false, zero and everything empty do not. -/
def Value.isTruthy : Value → Bool
  | .atom .null => false
  | .atom (.bool b) => b
  | .atom (.int n) => n != 0
  | .atom (.float x) => x != 0.0
  | .atom (.nan _) => true
  | .atom (.text s) => !s.isEmpty
  | .atom (.bytes b) => !b.isEmpty
  | .atom (.date _) => true
  | .atom (.moment _) => true
  | .list items => !items.isEmpty
  | .tuple items => !items.isEmpty
  | .map entries => !entries.isEmpty
  | .set items => !items.isEmpty
  | .knot _ content => content.isTruthy
  | .again _ => true

end Wireframe.Document
