import Wireframe.Text.Case
import Wireframe.Text.Blank

/-!
# `Wireframe.Text.Snake` — one spelling of names

Names are told apart without regard to hyphens, capitals and the places where capitals begin a word:
`SaveCoordSystem`, `save-coord-system` and `save_coord_system` have one normal form, words in lower case
with underscores between them. Words are looked for only in a name that holds an upper-case character.

## Contents
- `splitWords`: an underscore before a capital that starts a capitalised word.
- `splitCapitals`: an underscore between a small letter or digit and a capital.
- `snake`: the normal form.
-/

namespace Wireframe.Text

/-- ASCII capital. -/
def isCapital (c : Char) : Bool := 'A' ≤ c && c ≤ 'Z'

/-- ASCII small letter. -/
def isSmall (c : Char) : Bool := 'a' ≤ c && c ≤ 'z'

/-- Reads from the left: a character other than a line feed, then a capital with small letters after
it, is taken as a whole and gets an underscore before the capital. -/
def splitWords : List Char → List Char
  | a :: b :: c :: rest =>
    if a != '\n' && isCapital b && isSmall c then
      let word := (c :: rest).takeWhile isSmall
      a :: '_' :: b :: word ++ splitWords ((c :: rest).dropWhile isSmall)
    else a :: splitWords (b :: c :: rest)
  | s => s
termination_by s => s.length
decreasing_by
  · have := (List.dropWhile_sublist (l := c :: rest) isSmall).length_le
    simp at this ⊢
    omega
  · simp

/-- Reads from the left: a small letter or digit with a capital after it is taken as a pair and gets an
underscore inside. -/
def splitCapitals : List Char → List Char
  | a :: b :: rest =>
    if (isSmall a || ('0' ≤ a && a ≤ '9')) && isCapital b then a :: '_' :: b :: splitCapitals rest
    else a :: splitCapitals (b :: rest)
  | s => s

/-- The normal form of a name, without blanks around it. -/
def snake (s : String) : String :=
  let cs := (trim s).toList.map fun c => if c == '-' then '_' else c
  if cs.any isUpper then lower (String.ofList (splitCapitals (splitWords cs)))
  else lower (String.ofList cs)

end Wireframe.Text
