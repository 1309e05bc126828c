/-!
# `Wireframe.Text.Ranges` — classes of characters given by ranges

A class of code points is an array of ranges `(first, last)` in increasing order. Tables that change
characters use runs `(first, last, step, shift)`: every `step`-th code point from `first` to `last`
moves by `shift`.

## Contents
- `inRanges`: membership of a code point.
- `shift?`: where a table of runs sends a code point.
-/

namespace Wireframe.Text

/-- Whether some range holds the code point. -/
def inRanges (table : Array (Nat × Nat)) (n : Nat) : Bool :=
  table.any fun (first, last) => first ≤ n && n ≤ last

/-- The code point to which a table of runs sends `n`, if `n` is on one of them. -/
def shift? (table : Array (Nat × Nat × Nat × Int)) (n : Nat) : Option Nat :=
  (table.find? fun (first, last, step, _) => first ≤ n && n ≤ last && (n - first) % step == 0).map
    fun (_, _, _, shift) => ((n : Int) + shift).toNat

end Wireframe.Text
