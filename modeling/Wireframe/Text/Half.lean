import Wireframe.Power

/-!
# `Wireframe.Text.Half` — halves of pairs that stand alone

Escapes name characters by the units of sixteen bits that they take: one, or a pair of halves. A half that
stands alone names no character. A text keeps it as the character for private use that lies `2 ^ 20` above,
so that it can be shown again.
-/

namespace Wireframe.Text

/-- Whether a unit is half of a pair. -/
def isHalf (n : Nat) : Bool := 0xd800 ≤ n && n ≤ 0xdfff

/-- The character that stands for a half. -/
def half (n : Nat) : Char := Char.ofNat (n + 2 ^ 20)

/-- The half that a character stands for. -/
def half? (c : Char) : Option Nat :=
  if isHalf (c.toNat - 2 ^ 20) then some (c.toNat - 2 ^ 20) else none

end Wireframe.Text
