import Wireframe.Document.Yaml.Quoted
import Wireframe.Document.Yaml.Tag

/-!
# `Wireframe.Document.Yaml.Lexer` — from characters to tokens

The lexer keeps a stack of indentations, and for every level of brackets the place where a key may have
begun: a key is known only when the colon behind it is seen, and then its sign is put in front of it. A
key without a sign lies on one line and within 1024 characters. A token is settled once no key can begin
with it any more.

## Contents
- `SimpleKey`, `Lexer`: the state.
- `next`: one token, or a few.
- `settledCount`, `run`: the tokens that a reader can ask for.
- `tokens`: the tokens of a text.
-/

namespace Wireframe.Document.Yaml

open Source

/-- A place where a key may have begun: the number of tokens before it, and whether it must be a key. -/
structure SimpleKey where
  before : Nat
  required : Bool
  place : Place

/-- The state: what is left, the tokens so far, the last one first, the indentations, the number of open
brackets, and the places of keys by that number. -/
structure Lexer where
  rest : Source
  done : List Token := []
  count : Nat := 0
  indent : Int := -1
  outer : List Int := []
  depth : Nat := 0
  keyAllowed : Bool := true
  keys : Dict Nat SimpleKey := .empty
  finished : Bool := false

namespace Lexer

/-- The next place. -/
def place (x : Lexer) : Place := x.rest.headD ⟨endMark, 0, 0, 0⟩

/-- The column of the next character. -/
def column (x : Lexer) : Nat := x.place.column

/-- Whether no bracket is open. -/
def inBlock (x : Lexer) : Bool := x.depth == 0

/-- Adds a token. -/
def push (x : Lexer) (t : Token) : Lexer := { x with done := t :: x.done, count := x.count + 1 }

/-- Puts a token in front of those from a number on. -/
def insertAt (x : Lexer) (before : Nat) (t : Token) : Lexer :=
  let later := x.count - before
  { x with done := x.done.take later ++ t :: x.done.drop later, count := x.count + 1 }

/-- Whether a place is too far back for a key. -/
def isStale (x : Lexer) (k : SimpleKey) : Bool :=
  k.place.line != x.place.line || x.place.index > k.place.index + 1024

/-- Gives up the places that are too far back for a key. -/
def dropStale (x : Lexer) : Except Failure Lexer :=
  if x.keys.entries.any fun e => e.2.required && x.isStale e.2 then .error .malformed
  else .ok { x with keys := ⟨x.keys.entries.filter fun e => !x.isStale e.2⟩ }

/-- Gives up the place of the innermost brackets. -/
def dropKey (x : Lexer) : Except Failure Lexer :=
  match x.keys.find? x.depth with
  | some k => if k.required then .error .malformed else .ok { x with keys := x.keys.erase x.depth }
  | none => .ok x

/-- Remembers that a key may begin here. -/
def saveKey (x : Lexer) : Except Failure Lexer :=
  if x.keyAllowed then do
    let required := x.inBlock && x.indent == x.column
    let y ← x.dropKey
    return { y with keys := y.keys.insert y.depth ⟨y.count, required, y.place⟩ }
  else .ok x

/-- Ends the sequences and tables in lines that are indented beyond a column. -/
def unwindTo (x : Lexer) (column : Int) : List Int → Lexer
  | [] => x
  | i :: outer =>
    if x.indent > column then
      unwindTo { x.push .blockEnd with indent := i, outer := outer } column outer
    else x

/-- Ends what is indented beyond a column; between brackets indentation has no meaning. -/
def unwind (x : Lexer) (column : Int) : Lexer := if x.inBlock then x.unwindTo column x.outer else x

/-- Begins an indentation, if the column is beyond the last one. -/
def addIndent (x : Lexer) (column : Nat) : Bool × Lexer :=
  if x.indent < column then (true, { x with indent := column, outer := x.indent :: x.outer })
  else (false, x)

/-- Begins a sequence or table in lines, if the column is beyond the last indentation. -/
def open_ (x : Lexer) (t : Token) : Lexer :=
  match x.addIndent x.column with
  | (true, x) => x.push t
  | (false, x) => x

/-- Skips blanks, comments and line breaks. After a line break a key may begin. -/
def skipSpace : Nat → Lexer → Lexer
  | 0, x => x
  | fuel + 1, x =>
    let s := skip (· == ' ') x.rest
    let s := if peek s == '#' then skip (fun c => !isEnd c) s else s
    match takeBreak s with
    | ([], _) => { x with rest := s }
    | (_, s) => skipSpace fuel { x with rest := s, keyAllowed := x.keyAllowed || x.inBlock }

/-- Ends everything that is open. -/
def close (x : Lexer) : Except Failure Lexer := do
  let x ← (x.unwind (-1)).dropKey
  return { x with keyAllowed := false }

/-- The end of the text. -/
def endStream (x : Lexer) : Except Failure Lexer := do
  let x ← x.close
  return { x.push .streamEnd with keys := .empty, finished := true }

/-- A line that separates documents. -/
def separator (x : Lexer) (t : Token) : Except Failure Lexer := do
  let x ← x.close
  return { x.push t with rest := x.rest.drop 3 }

/-- A directive. -/
def directive (fuel : Nat) (x : Lexer) : Except Failure Lexer := do
  let x ← x.close
  let (t, s) ← scanDirective fuel (x.rest.drop 1)
  return { x.push t with rest := s }

/-- An opening bracket. -/
def openBracket (x : Lexer) (t : Token) : Except Failure Lexer := do
  let x ← x.saveKey
  return { x.push t with rest := x.rest.drop 1, depth := x.depth + 1, keyAllowed := true }

/-- A closing bracket, which must close one. -/
def closeBracket (x : Lexer) (t : Token) : Except Failure Lexer := do
  if x.depth == 0 then throw .malformed
  let x ← x.dropKey
  return { x.push t with rest := x.rest.drop 1, depth := x.depth - 1, keyAllowed := false }

/-- A comma. -/
def comma (x : Lexer) : Except Failure Lexer := do
  let x ← x.dropKey
  return { x.push .comma with rest := x.rest.drop 1, keyAllowed := true }

/-- Begins a sequence or table in lines where one may begin. -/
def beginBlock (x : Lexer) (t : Token) : Except Failure Lexer :=
  if !x.inBlock then .ok x
  else if x.keyAllowed then .ok (x.open_ t)
  else .error .malformed

/-- The sign of an item. -/
def entry (x : Lexer) : Except Failure Lexer := do
  let x ← x.beginBlock .blockSequence
  let x ← x.dropKey
  return { x.push .entry with rest := x.rest.drop 1, keyAllowed := true }

/-- The sign of a key. -/
def key (x : Lexer) : Except Failure Lexer := do
  let x ← x.beginBlock .blockMapping
  let x ← x.dropKey
  return { x.push .key with rest := x.rest.drop 1, keyAllowed := x.inBlock }

/-- The colon behind a key that had no sign of its own. -/
def valueAfter (x : Lexer) (k : SimpleKey) : Lexer :=
  let x := { x with keys := x.keys.erase x.depth, keyAllowed := false }
  let x := x.insertAt k.before .key
  if x.inBlock then
    match x.addIndent k.place.column with
    | (true, x) => x.insertAt k.before .blockMapping
    | (false, x) => x
  else x

/-- A colon. -/
def value (x : Lexer) : Except Failure Lexer := do
  let x ←
    match x.keys.find? x.depth with
    | some k => pure (x.valueAfter k)
    | none => do
      let x ← x.beginBlock .blockMapping
      let x ← x.dropKey
      pure { x with keyAllowed := x.inBlock }
  return { x.push .value with rest := x.rest.drop 1 }

/-- A token that may begin a key: a name, a tag, or a scalar in quotes. -/
def content (x : Lexer) (scan : Source → Except Failure (Token × Source)) : Except Failure Lexer := do
  let x ← x.saveKey
  let (t, s) ← scan x.rest
  return { x.push t with rest := s, keyAllowed := false }

/-- A scalar in lines of its own. -/
def block (fuel : Nat) (folded : Bool) (x : Lexer) : Except Failure Lexer := do
  let x ← x.dropKey
  let (text, s) ← scanBlock folded (x.indent + 1).toNat fuel (x.rest.drop 1)
  return { x.push (.scalar (String.ofList text) false) with rest := s, keyAllowed := true }

/-- A scalar in quotes. -/
def quoted (fuel : Nat) (quote : Char) (s : Source) : Except Failure (Token × Source) := do
  let (text, s) ← scanQuoted quote fuel (s.drop 1)
  return (.scalar (String.ofList text) false, s)

/-- A plain scalar; behind a line break a key may begin. -/
def plain (fuel : Nat) (x : Lexer) : Except Failure Lexer := do
  let x ← x.saveKey
  let (text, crosses, s) := scanPlain (!x.inBlock) (x.indent + 1).toNat fuel x.rest
  return { x.push (.scalar (String.ofList text) true) with rest := s, keyAllowed := crosses }

/-- Whether a plain scalar begins. -/
def startsPlain (x : Lexer) : Bool :=
  let c := peek x.rest
  let next := peekAt 1 x.rest
  !(isGap c || "-?:,[]\x7b\x7d#&*!|>'\"%@`".contains c) ||
    (!isGap next && (c == '-' || (x.inBlock && (c == '?' || c == ':'))))

/-- The token that begins with the next character, behind blanks and comments. -/
def scan (fuel : Nat) (x : Lexer) : Except Failure Lexer :=
  let c := peek x.rest
  let wordEnds := isGap (peekAt 1 x.rest)
  let lineBegins := x.column == 0
  if c == endMark then x.endStream
  else if c == '%' && lineBegins then x.directive fuel
  else if lineBegins && startsWith '-' x.rest then x.separator .documentStart
  else if lineBegins && startsWith '.' x.rest then x.separator .documentEnd
  else if c == '[' then x.openBracket .openSequence
  else if c == '{' then x.openBracket .openMapping
  else if c == ']' then x.closeBracket .closeSequence
  else if c == '}' then x.closeBracket .closeMapping
  else if c == ',' then x.comma
  else if c == '-' && wordEnds then x.entry
  else if c == '?' && (!x.inBlock || wordEnds) then x.key
  else if c == ':' && (!x.inBlock || wordEnds) then x.value
  else if c == '*' then x.content fun s => (scanName (s.drop 1)).map fun r => (.alias r.1, r.2)
  else if c == '&' then x.content fun s => (scanName (s.drop 1)).map fun r => (.anchor r.1, r.2)
  else if c == '!' then x.content (scanTag fuel)
  else if c == '|' && x.inBlock then x.block fuel false
  else if c == '>' && x.inBlock then x.block fuel true
  else if c == '\'' || c == '"' then x.content (quoted fuel c)
  else if x.startsPlain then x.plain fuel
  else .error .malformed

/-- The next token, with the ends of indentation before it. -/
def next (fuel : Nat) (x : Lexer) : Except Failure Lexer := do
  let x ← (x.skipSpace fuel).dropStale
  (x.unwind x.column).scan fuel

/-- The number of tokens before the first one with which a key may still begin. -/
def settledCount (x : Lexer) : Nat := x.keys.entries.foldl (fun n e => min n e.2.before) x.count

/-- The first tokens, and a fault behind them. -/
def stopped (x : Lexer) (settled : Nat) (fault : Failure) : Tokens :=
  ⟨x.done.reverse.take settled, some fault⟩

/-- Runs the lexer to the end or to a fault; `settled` tokens can be asked for already. Places that are
too far back for a key are given up before more of the text is read, and every other step takes a
character at least. -/
def run (limit settled : Nat) : Nat → Lexer → Tokens
  | 0, x => x.stopped settled .malformed
  | fuel + 1, x =>
    if x.finished then ⟨x.done.reverse, none⟩
    else
      let current := if settled < x.count then x.dropStale else .ok x
      match current with
      | .error fault => x.stopped settled fault
      | .ok x =>
        if settled < x.settledCount then run limit x.settledCount fuel x
        else
          match x.next limit with
          | .error fault => x.stopped settled fault
          | .ok x => run limit settled fuel x

end Lexer

/-- The tokens of a text. -/
def tokens (text : String) : Tokens :=
  match Source.ofString text with
  | .error fault => ⟨[], some fault⟩
  | .ok s =>
    Lexer.run (s.length + 1) 0 (2 * s.length + 2) ⟨s, [], 0, -1, [], 0, true, .empty, false⟩

end Wireframe.Document.Yaml
