/-!
# `Wireframe.Text.Blank` — blanks and trimming

Blanks are the separators of every script together with the ASCII control characters that separate
text. Names, keywords and numbers are read without the blanks around them.

## Contents
- `isBlank`, `isAsciiBlank`: the two classes.
- `trimBy`, `trim`: a text without the characters of a class at its ends.
-/

namespace Wireframe.Text

/-- The class of blanks of every script. -/
def isBlank (c : Char) : Bool :=
  let n := c.toNat
  (0x9 ≤ n && n ≤ 0xd) || (0x1c ≤ n && n ≤ 0x20) || n == 0x85 || n == 0xa0 || n == 0x1680 ||
  (0x2000 ≤ n && n ≤ 0x200a) || n == 0x2028 || n == 0x2029 || n == 0x202f || n == 0x205f ||
  n == 0x3000

/-- Blanks among the ASCII characters that number texts allow around a number. -/
def isAsciiBlank (c : Char) : Bool :=
  let n := c.toNat
  (0x9 ≤ n && n ≤ 0xd) || n == 0x20

/-- A list without the elements of a class at its ends. -/
def trimBy {α : Type} (p : α → Bool) (s : List α) : List α :=
  ((s.dropWhile p).reverse.dropWhile p).reverse

/-- A text without the blanks at its ends. -/
def trim (s : String) : String := String.ofList (trimBy isBlank s.toList)

end Wireframe.Text
