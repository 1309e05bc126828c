import Wireframe.Error
import Wireframe.Decimal.Reading

/-!
# `Wireframe.Document.Json` — reading and writing JSON

A text is cut into tokens, and a machine with a stack of open sequences and tables reads the tokens.
Besides JSON proper the numbers `NaN`, `Infinity` and `-Infinity` are accepted. Of equal keys in a table
the first keeps its place and the last gives the value.

## Contents
- `Token`, `tokens`: the lexical level.
- `State`, `step`, `read`: the machine and the reader.
- `plain`: a value by means of JSON alone.
- `write`: the text of a value.
-/

namespace Wireframe.Document.Json

/-- The tokens; `bad` stands where no token begins, `huge` for an integer of too many digits. -/
inductive Token where
  | openList | closeList | openMap | closeMap | colon | comma
  | text (s : String)
  | value (v : Value)
  | huge
  | bad

/-- The blanks of JSON. -/
def isSpace (c : Char) : Bool := c == ' ' || c == '\t' || c == '\n' || c == '\r'

/-- The value of four hexadecimal digits. -/
def hex4? (a b c d : Char) : Option Nat := do
  let a ← Decimal.hexValue? a
  let b ← Decimal.hexValue? b
  let c ← Decimal.hexValue? c
  let d ← Decimal.hexValue? d
  return ((a * 16 + b) * 16 + c) * 16 + d

/-- The character after a backslash. -/
def escaped? : Char → Option Char
  | '"' => some '"'
  | '\\' => some '\\'
  | '/' => some '/'
  | 'b' => some '\x08'
  | 'f' => some '\x0c'
  | 'n' => some '\n'
  | 'r' => some '\r'
  | 't' => some '\t'
  | _ => none

/-- Joins UTF-16 units to characters; `high` is the first half of a pair that was read just before. -/
def unit (high : Option Nat) (n : Nat) : Option Nat × List Char :=
  let isHigh := 0xd800 ≤ n && n < 0xdc00
  let isLow := 0xdc00 ≤ n && n < 0xe000
  match high with
  | some h =>
    if isLow then (none, [Char.ofNat (0x10000 + (h - 0xd800) * 0x400 + (n - 0xdc00))])
    else if isHigh then (some n, [Text.half h])
    else (none, [Text.half h, Char.ofNat n])
  | none =>
    if isHigh then (some n, [])
    else if isLow then (none, [Text.half n])
    else (none, [Char.ofNat n])

/-- The characters for a first half that nothing completed. -/
def flush (high : Option Nat) : List Char :=
  match high with
  | some h => [Text.half h]
  | none => []

/-- Reads the rest of a text after its opening quote: its characters and what follows it. -/
def scanText (high : Option Nat) (done : List Char) : List Char → Option (List Char × List Char)
  | [] => none
  | '"' :: rest => some ((flush high ++ done).reverse, rest)
  | '\\' :: 'u' :: a :: b :: c :: d :: rest =>
    match hex4? a b c d with
    | none => none
    | some n =>
      let (high, cs) := unit high n
      scanText high (cs.reverse ++ done) rest
  | '\\' :: c :: rest =>
    match escaped? c with
    | none => none
    | some e => scanText none (e :: (flush high ++ done)) rest
  | c :: rest =>
    if c.toNat < 0x20 || c == '\\' then none else scanText none (c :: (flush high ++ done)) rest

/-- Splits off the digits at the front. -/
def takeDigits (s : List Char) : List Char × List Char :=
  (s.takeWhile Text.isAsciiDigit, s.dropWhile Text.isAsciiDigit)

/-- The places after a point, if a point with digits comes next. -/
def takePlaces (s : List Char) : List Char × List Char :=
  match s with
  | '.' :: r =>
    let (ds, rest) := takeDigits r
    if ds.isEmpty then ([], s) else (ds, rest)
  | _ => ([], s)

/-- The exponent, if one with digits comes next. -/
def takeExponent (s : List Char) : Option Int × List Char :=
  match s with
  | c :: r =>
    if c == 'e' || c == 'E' then
      let (negative, r) := Decimal.takeSign r
      let (ds, rest) := takeDigits r
      if ds.isEmpty then (none, s)
      else
        let n : Int := Decimal.digitsValue ds
        (some (if negative then -n else n), rest)
    else (none, s)
  | [] => (none, s)

/-- A number without its sign: a zero or digits that start with another one, places, exponent. -/
def scanNumber (negative : Bool) (s : List Char) : Token × List Char :=
  let (whole, rest) :=
    match s with
    | '0' :: r => (['0'], r)
    | _ => takeDigits s
  if whole.isEmpty then (.bad, [])
  else
    let (places, rest) := takePlaces rest
    let (exponent, rest) := takeExponent rest
    if places.isEmpty && exponent.isNone then
      if whole.length > Decimal.maxDigits then (.huge, rest)
      else
        let n : Int := Decimal.digitsValue whole
        (.value (.int (if negative then -n else n)), rest)
    else
      let x := Decimal.ofDecimal negative (Decimal.digitsValue (whole ++ places))
        (exponent.getD 0 - places.length)
      (.value (.float x), rest)

/-- The words that stand for values. -/
def words : List (List Char × Value) :=
  [("null".toList, .null), ("true".toList, .bool true), ("false".toList, .bool false),
   ("NaN".toList, .float (0.0 / 0.0)), ("Infinity".toList, .float (1.0 / 0.0)),
   ("-Infinity".toList, .float (-1.0 / 0.0))]

/-- The token that starts with a character, and what follows it. -/
def next (s : List Char) : Token × List Char :=
  match s with
  | [] => (.bad, [])
  | '[' :: r => (.openList, r)
  | ']' :: r => (.closeList, r)
  | '{' :: r => (.openMap, r)
  | '}' :: r => (.closeMap, r)
  | ':' :: r => (.colon, r)
  | ',' :: r => (.comma, r)
  | '"' :: r =>
    match scanText none [] r with
    | some (t, rest) => (.text (String.ofList t), rest)
    | none => (.bad, [])
  | c :: r =>
    match words.find? fun w => w.1.isPrefixOf s with
    | some (w, v) => (.value v, s.drop w.length)
    | none => if c == '-' then scanNumber true r else scanNumber false s

/-- Cuts a text into tokens; nothing follows a `bad` one. -/
def tokens (s : List Char) : List Token :=
  match s with
  | [] => []
  | c :: r =>
    if isSpace c then tokens r
    else
      match next (c :: r) with
      | (.bad, _) => [.bad]
      | (t, rest) => if _h : rest.length < (c :: r).length then t :: tokens rest else [.bad]
termination_by s.length
decreasing_by
  · exact Nat.lt_succ_self r.length
  · assumption

/-! ## The machine -/

/-- A sequence or table that is still open, last item first. -/
inductive Frame where
  | list (items : List Value)
  | map (entries : Dict Label Value) (key : String)

/-- What may come next. -/
inductive Expected where
  | value | valueOrClose | key | keyOrClose | colon | separator
  | finished (v : Value)

/-- The open sequences and tables, innermost first, and what may come next. -/
structure State where
  frames : List Frame
  expected : Expected

/-- Why a text is refused: it is not JSON, an integer has too many digits, or too many sequences and
tables lie in one another. -/
inductive Failure where
  | malformed | huge | deep
  deriving DecidableEq

/-- How many sequences and tables may lie in one another. -/
def deepest : Nat := 987

/-- Puts a finished value where it belongs. -/
def State.deliver (v : Value) : List Frame → State
  | [] => ⟨[], .finished v⟩
  | .list items :: fs => ⟨.list (v :: items) :: fs, .separator⟩
  | .map entries k :: fs => ⟨.map (entries.insert (.text k) v) k :: fs, .separator⟩

/-- The value of a closed sequence or table. -/
def Frame.close : Frame → Value
  | .list items => .list items.reverse
  | .map entries _ => .map entries.entries

/-- A value begins or is complete. -/
def State.begin (fs : List Frame) : Token → Except Failure State
  | .openList =>
    if fs.length < deepest then .ok ⟨.list [] :: fs, .valueOrClose⟩ else .error .deep
  | .openMap =>
    if fs.length < deepest then .ok ⟨.map .empty "" :: fs, .keyOrClose⟩ else .error .deep
  | .text s => .ok (deliver (.str s) fs)
  | .value v => .ok (deliver v fs)
  | .huge => .error .huge
  | _ => .error .malformed

/-- One token. -/
def State.step (s : State) (t : Token) : Except Failure State :=
  match s.expected, s.frames, t with
  | .value, fs, t => begin fs t
  | .valueOrClose, .list items :: fs, .closeList => .ok (deliver (Frame.list items).close fs)
  | .valueOrClose, fs, t => begin fs t
  | .keyOrClose, .map entries k :: fs, .closeMap => .ok (deliver (Frame.map entries k).close fs)
  | .keyOrClose, .map entries _ :: fs, .text k => .ok ⟨.map entries k :: fs, .colon⟩
  | .key, .map entries _ :: fs, .text k => .ok ⟨.map entries k :: fs, .colon⟩
  | .colon, fs, .colon => .ok ⟨fs, .value⟩
  | .separator, .list items :: fs, .comma => .ok ⟨.list items :: fs, .value⟩
  | .separator, .list items :: fs, .closeList => .ok (deliver (Frame.list items).close fs)
  | .separator, .map entries k :: fs, .comma => .ok ⟨.map entries k :: fs, .key⟩
  | .separator, .map entries k :: fs, .closeMap => .ok (deliver (Frame.map entries k).close fs)
  | _, _, _ => .error .malformed

/-- Runs the machine over tokens. -/
def State.run (s : State) : List Token → Except Failure State
  | [] => .ok s
  | t :: ts =>
    match s.step t with
    | .ok s' => run s' ts
    | .error e => .error e

/-- The value of a JSON text. -/
def read (s : String) : Except Failure Value :=
  match State.run ⟨[], .value⟩ (tokens s.toList) with
  | .ok ⟨_, .finished v⟩ => .ok v
  | .ok _ => .error .malformed
  | .error e => .error e

/-! ## Plain values -/

/-- A number without value, or an infinite one, by its word. -/
def wordOf? (x : Float) : Option String :=
  if x.isNaN then some "NaN"
  else if x.isInf then some (if x < 0.0 then "-Infinity" else "Infinity")
  else none

/-- An atom by means of JSON: what JSON does not know becomes a text. -/
def plainAtom : Atom → Value
  | .float x => ((wordOf? x).map Value.str).getD (.float x)
  | .nan _ => .str "NaN"
  | .bytes b => .str (Atom.bytes b).asText
  | .date d => .str d.text
  | .moment m => .str m.text
  | a => .atom a

mutual

/-- A value by means of JSON: tuples become sequences, sets become texts, keys become texts of which the
last of equal ones counts. A value that contains itself cannot be written. -/
def plain : Value → Except Error Value
  | .atom a => .ok (plainAtom a)
  | .list items => (plainItems items).map .list
  | .tuple items => (plainItems items).map .list
  | .map entries => (plainEntries entries).map fun es => .map (Dict.ofList es).entries
  | .set items => .ok (.str (Value.set items).text)
  | .knot _ content => plain content
  | .again _ => .error .endless

/-- Items by means of JSON. -/
def plainItems : List Value → Except Error (List Value)
  | [] => .ok []
  | v :: rest => do
    let v ← plain v
    let rest ← plainItems rest
    return v :: rest

/-- Entries by means of JSON. -/
def plainEntries : List (Label × Value) → Except Error (List (Label × Value))
  | [] => .ok []
  | (k, v) :: rest => do
    let v ← plain v
    let rest ← plainEntries rest
    return (.text k.asText, v) :: rest

end

/-! ## Writing -/

/-- One character inside quotes. -/
def writeChar (c : Char) : List Char :=
  if c == '"' || c == '\\' then ['\\', c]
  else if c == '\n' then ['\\', 'n']
  else if c.toNat < 0x20 then '\\' :: 'u' :: Text.hexDigits 4 c.toNat
  else [c]

/-- A text with its quotes. -/
def writeText (s : String) : String :=
  String.ofList ('"' :: s.toList.flatMap writeChar ++ ['"'])

/-- A number; one without value, or an infinite one, by its word. -/
def writeFloat (x : Float) : String := (wordOf? x).getD (Decimal.text x)

/-- A value without parts. -/
def writeAtom : Atom → String
  | .null => "null"
  | .bool b => if b then "true" else "false"
  | .int n => toString n
  | .float x => writeFloat x
  | .nan _ => "NaN"
  | a => writeText a.asText

mutual

/-- The text of a value on one line. -/
def write : Value → String
  | .atom a => writeAtom a
  | .list items => "[" ++ ", ".intercalate (writeItems items) ++ "]"
  | .tuple items => "[" ++ ", ".intercalate (writeItems items) ++ "]"
  | .map entries => "\x7b" ++ ", ".intercalate (writeEntries entries) ++ "\x7d"
  | .set items => writeText (Value.set items).text
  | .knot _ content => write content
  | .again _ => "null"

/-- The texts of the items of a sequence. -/
def writeItems : List Value → List String
  | [] => []
  | v :: rest => write v :: writeItems rest

/-- The texts of the entries of a table; keys are written as texts. -/
def writeEntries : List (Label × Value) → List String
  | [] => []
  | (k, v) :: rest => (writeText k.asText ++ ": " ++ write v) :: writeEntries rest

end

end Wireframe.Document.Json
