/-!
# `Wireframe.Text.Base64` — octets as letters

Four letters of an alphabet of 64 stand for three octets; `=` fills up the last group. Characters that are
not in the alphabet are skipped.

## Contents
- `letterValue?`: the alphabet.
- `octets`, `decode`: the reader.
-/

namespace Wireframe.Text.Base64

/-- The value of a letter of the alphabet. -/
def letterValue? (c : Char) : Option Nat :=
  if 'A' ≤ c && c ≤ 'Z' then some (c.toNat - 65)
  else if 'a' ≤ c && c ≤ 'z' then some (c.toNat - 71)
  else if '0' ≤ c && c ≤ '9' then some (c.toNat + 4)
  else if c == '+' then some 62
  else if c == '/' then some 63
  else none

/-- The octet that a letter completes, with the bits of the letter before it. -/
def octet (place left value : Nat) : UInt8 :=
  match place with
  | 1 => UInt8.ofNat (left * 4 + value / 16)
  | 2 => UInt8.ofNat (left % 16 * 16 + value / 4)
  | _ => UInt8.ofNat (left % 4 * 64 + value)

/-- Reads letters: `place` is the place in the group of four, `left` the value of the letter before, and
`pads` the number of fillers just before. Fillers count from the third place on, and a full group of
letters and fillers ends the text. -/
def octets (place left pads : Nat) : List Char → Option (List UInt8)
  | [] => if place == 0 then some [] else none
  | c :: rest =>
    if c == '=' then
      if place ≥ 2 then
        if place + pads + 1 ≥ 4 then some [] else octets place left (pads + 1) rest
      else octets place left pads rest
    else
      match letterValue? c with
      | none => octets place left pads rest
      | some v =>
        if place == 0 then octets 1 v 0 rest
        else (octets ((place + 1) % 4) v 0 rest).map (octet place left v :: ·)

/-- The octets of a text. -/
def decode (s : List Char) : Option (List UInt8) := octets 0 0 0 s

end Wireframe.Text.Base64
