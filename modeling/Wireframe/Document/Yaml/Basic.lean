import Wireframe.Error

/-!
# `Wireframe.Document.Yaml.Basic` — characters and where they stand

In YAML the column of a character matters, so a text is first turned into a list of places. The list ends
with a place of its own, whose character stands for the end of the text and can occur nowhere else.

## Contents
- `Failure`: why a text is refused.
- `isBreak`, `isEnd`, `isGap`: classes of characters.
- `Place`, `Source`, `Source.ofString`: a text with positions.
- `peek`, `column`, `span`, `takeBreak`, `atSeparator`: looking at a source.
-/

namespace Wireframe.Document.Yaml

/-- Why a text is refused: it is not YAML, or a scalar of it is not of the type it claims. -/
inductive Failure where
  | malformed
  | faulty (cause : Error)

/-! ## Characters -/

/-- The character that stands for the end of the text. -/
def endMark : Char := '\x00'

/-- Ends of lines. -/
def isBreak (c : Char) : Bool := c == '\n' || c == '\x85' || c == '\u2028' || c == '\u2029'

/-- Ends of lines, and the end of the text. -/
def isEnd (c : Char) : Bool := c == endMark || isBreak c

/-- What separates words. -/
def isGap (c : Char) : Bool := c == ' ' || c == '\t' || isEnd c

/-- A blank inside a line. -/
def isBlankChar (c : Char) : Bool := c == ' ' || c == '\t'

/-- Letters, digits and the two signs of names. -/
def isNameChar (c : Char) : Bool := c.isAlphanum || c == '-' || c == '_'

/-- The mark that may stand before a text. -/
def orderMark : Char := '\ufeff'

/-- The characters that a text may hold. -/
def isAllowed (c : Char) : Bool :=
  c == '\t' || c == '\n' || c == '\r' || (' ' ≤ c && c ≤ '~') || c == '\x85' ||
  ('\xa0' ≤ c && c ≤ '\ufffd') || 0x10000 ≤ c.toNat

/-- One line feed for every way of ending a line with carriage returns. -/
def lineFeeds : List Char → List Char
  | '\r' :: '\n' :: rest => '\n' :: lineFeeds rest
  | '\r' :: rest => '\n' :: lineFeeds rest
  | c :: rest => c :: lineFeeds rest
  | [] => []

/-- What an end of line leaves in a scalar. -/
def keptBreak (c : Char) : Char := if c == '\u2028' || c == '\u2029' then c else '\n'

/-! ## Places -/

/-- A character, its number, and its line and column, all counted from zero. -/
structure Place where
  char : Char
  index : Nat
  line : Nat
  column : Nat

/-- A text with positions, up to and with the place of its end. -/
abbrev Source := List Place

namespace Source

/-- The places of characters, from a position on. -/
def places (index line column : Nat) : List Char → Source
  | [] => [⟨endMark, index, line, column⟩]
  | c :: rest =>
    ⟨c, index, line, column⟩ ::
      (if isBreak c then places (index + 1) (line + 1) 0 rest
       else places (index + 1) line (if c == orderMark then column else column + 1) rest)

/-- The places of a text, without the mark before it. -/
def ofString (s : String) : Except Failure Source :=
  let cs := lineFeeds s.toList
  if cs.all isAllowed then
    .ok (places 0 0 0 (match cs with
      | c :: rest => if c == orderMark then rest else c :: rest
      | [] => []))
  else .error .malformed

/-- The next character. -/
def peek : Source → Char
  | p :: _ => p.char
  | [] => endMark

/-- The character after the next `n`. -/
def peekAt (n : Nat) (s : Source) : Char := peek (s.drop n)

/-- The column of the next character. -/
def column : Source → Nat
  | p :: _ => p.column
  | [] => 0

/-- The longest start of characters of a class, and what follows. -/
def span (p : Char → Bool) (s : Source) : List Char × Source :=
  ((s.takeWhile fun q => p q.char).map (·.char), s.dropWhile fun q => p q.char)

/-- What follows the characters of a class. -/
def skip (p : Char → Bool) (s : Source) : Source := s.dropWhile fun q => p q.char

/-- The end of a line, if it comes next, and what follows. -/
def takeBreak : Source → List Char × Source
  | p :: rest => if isBreak p.char then ([keptBreak p.char], rest) else ([], p :: rest)
  | [] => ([], [])

/-- Whether three equal characters stand as a word of their own. -/
def startsWith (c : Char) (s : Source) : Bool :=
  peek s == c && peekAt 1 s == c && peekAt 2 s == c && isGap (peekAt 3 s)

/-- Whether a line that separates documents begins. -/
def atSeparator (s : Source) : Bool := startsWith '-' s || startsWith '.' s

end Source

end Wireframe.Document.Yaml
