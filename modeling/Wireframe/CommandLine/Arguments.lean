import Wireframe.Animation.Assembly

/-!
# `Wireframe.CommandLine.Arguments` — the words of a command

A command names one program file and may have options. An option is written out or shortened as long as
only one option starts so; its value follows it as the next word or after an equality sign. After a
double dash no word is an option. A word with a dash before it that is no option is refused, unless it is
a number or holds a blank: then it is a plain word.

## Contents
- `Flag`, `Word`, `Word.ofString`: options, and words by what they are.
- `Arguments`, `Invocation`, `Invocation.ofWords`: what a command asks for.
-/

namespace Wireframe.CommandLine

/-- The options. -/
inductive Flag where
  | help | outputDir | format | logLevel | noDisplay | trace
  deriving DecidableEq, Repr

namespace Flag

/-- Every option. -/
def all : List Flag := [help, outputDir, format, logLevel, noDisplay, trace]

/-- An option written out. -/
def name : Flag → String
  | help => "--help"
  | outputDir => "--output-dir"
  | format => "--format"
  | logLevel => "--log-level"
  | noDisplay => "--no-display"
  | trace => "--trace"

/-- Whether an option has a value. -/
def hasValue : Flag → Bool
  | outputDir | format | logLevel => true
  | help | noDisplay | trace => false

/-- The options that start so; an option that is written out is meant alone. -/
def startingWith (s : List Char) : List Flag :=
  match all.find? fun f => f.name.toList == s with
  | some f => [f]
  | none => all.filter fun f => s.isPrefixOf f.name.toList

end Flag

/-- The words of a command. -/
inductive Word where
  | plain (s : String)
  | doubleDash
  | flag (f : Flag) (value : Option String)
  | unknown
  | ambiguous
  deriving DecidableEq, Repr

namespace Word

/-- Whether a text is a decimal number: digits, or a point and digits after it. -/
def isDecimal (cs : List Char) : Bool :=
  let isDigit := fun c => (Text.digit? c).isSome
  match cs.dropWhile isDigit with
  | [] => !cs.isEmpty
  | '.' :: rest => !rest.isEmpty && rest.all isDigit
  | _ => false

/-- Whether a text without its dash is a decimal number. A line break at its end does not count. -/
def isNumber (cs : List Char) : Bool :=
  isDecimal cs || (cs.getLast? == some '\n' && isDecimal cs.dropLast)

/-- The word of an option, if one starts so. -/
def ofFlags (fs : List Flag) (value : Option String) (otherwise : Word) : Word :=
  match fs with
  | [] => otherwise
  | [f] => .flag f value
  | _ => .ambiguous

/-- A word with a dash before it that is no option. -/
def notFlag (s : String) (cs : List Char) : Word :=
  if isNumber cs || cs.contains ' ' then .plain s else .unknown

/-- The word of a dash, the letter `h` and more letters: a row of options of one letter each, where `h` is the
only one. -/
def ofLetters (cs : List Char) : Word :=
  .flag .help (if !cs.isEmpty && cs.all (· == 'h') then none else some (String.ofList cs))

/-- A word before a double dash. The letter `h` behind a dash asks for help; an equality sign behind it does
not count. -/
def ofString (s : String) : Word :=
  match s.toList with
  | ['-'] => .plain s
  | ['-', '-'] => .doubleDash
  | '-' :: '-' :: cs =>
    let name := '-' :: '-' :: cs.takeWhile (· != '=')
    let value := match cs.dropWhile (· != '=') with
      | [] => none
      | _ :: v => some (String.ofList v)
    ofFlags (Flag.startingWith name) value (notFlag s ('-' :: cs))
  | ['-', 'h'] => .flag .help none
  | '-' :: 'h' :: '=' :: cs => ofLetters cs
  | '-' :: 'h' :: cs => ofLetters cs
  | '-' :: cs => notFlag s cs
  | _ => .plain s

/-- The words of a command. -/
def ofStrings : List String → List Word
  | [] => []
  | s :: rest =>
    match ofString s with
    | .doubleDash => .doubleDash :: rest.map .plain
    | w => w :: ofStrings rest

end Word

/-- What a command says. -/
structure Arguments where
  program : String
  outputDir : Option String
  format : Option Animation.Format
  logLevel : Option String
  noDisplay : Bool
  trace : Bool
  deriving DecidableEq, Repr

/-- What a command asks for. -/
inductive Invocation where
  | help
  | refused
  | run (a : Arguments)
  deriving DecidableEq, Repr

/-- What is known of a command while it is read: the program, if it was named, whether a word is left
over, and the options. -/
structure Draft where
  program : Option String := none
  leftOver : Bool := false
  outputDir : Option String := none
  format : Option Animation.Format := none
  logLevel : Option String := none
  noDisplay : Bool := false
  trace : Bool := false

namespace Draft

/-- Takes an option with a value, if it can have this value. -/
def withValue (d : Draft) (f : Flag) (value : String) : Option Draft :=
  match f with
  | .outputDir => some { d with outputDir := some value }
  | .format => (Animation.Format.ofName? value).map fun format => { d with format := some format }
  | .logLevel => some { d with logLevel := some value }
  | .help | .noDisplay | .trace => none

/-- Takes an option without a value. -/
def withFlag (d : Draft) : Flag → Draft
  | .noDisplay => { d with noDisplay := true }
  | .trace => { d with trace := true }
  | _ => d

/-- Takes a plain word: the first one is the program. -/
def withPlain (d : Draft) (s : String) : Draft :=
  if d.program.isSome then { d with leftOver := true } else { d with program := some s }

/-- A word is left over. -/
def withLeftOver (d : Draft) : Draft := { d with leftOver := true }

/-- The command that was read: a program is named, and no word is left over. -/
def finish (d : Draft) : Invocation :=
  match d.program with
  | some program =>
    if d.leftOver then .refused
    else .run ⟨program, d.outputDir, d.format, d.logLevel, d.noDisplay, d.trace⟩
  | none => .refused

end Draft

/-- Reads words. A double dash belongs to the program that it stands beside; `beside` says whether the word
before was the program. -/
def readWords (d : Draft) (beside : Bool) : List Word → Invocation
  | [] => d.finish
  | .plain s :: rest => readWords (d.withPlain s) d.program.isNone rest
  | .doubleDash :: rest =>
    readWords (if d.program.isNone || beside then d else d.withLeftOver) false rest
  | .unknown :: rest => readWords d.withLeftOver false rest
  | .ambiguous :: _ => .refused
  | .flag f (some value) :: rest =>
    match d.withValue f value with
    | some d => readWords d false rest
    | none => .refused
  | .flag f none :: rest =>
    if f.hasValue then
      match rest with
      | .plain value :: rest =>
        match d.withValue f value with
        | some d => readWords d false rest
        | none => .refused
      | _ => .refused
    else if f = .help then .help
    else readWords (d.withFlag f) false rest

/-- What a command asks for; one with a word that may stand for several options is refused at once. -/
def Invocation.ofWords (words : List String) : Invocation :=
  let ws := Word.ofStrings words
  if ws.contains .ambiguous then .refused else readWords {} false ws

end Wireframe.CommandLine
