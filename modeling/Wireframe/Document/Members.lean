import Wireframe.Document.Value

/-!
# `Wireframe.Document.Members` — the order of the members of a set

A set has no order of its own, but its members are shown one after the other. They lie in a ring of places,
each as near as can be to the place that its value asks for, and they are shown from the first place to
the last. Equal numbers ask for the same place: a number asks by its remainder to a prime, where a half is
the number that gives one when doubled. What texts, octets and times ask for changes from run to run, so a
set with such a member keeps its members in the order in which they came.

## Contents
- `prime`, `Atom.wish?`, `Label.wish?`: what a member asks for.
- `Ring`, `Ring.free?`, `Ring.seek`, `Ring.add`: places, and how a member finds its own.
- `ringSize`, `inOrder`: the members of a set as they are shown.
-/

namespace Wireframe.Document

/-- The prime to which numbers have remainders. As `2^61` has the remainder one, halving is multiplying by
`2^60`. -/
def prime : Nat := 2 ^ 61 - 1

/-- A remainder with the sign of its number; minus two is in the place of minus one, which is not used. -/
def signedWish (negative : Bool) (remainder : Nat) : Int :=
  if negative then (if remainder == 1 then -2 else -(remainder : Int)) else remainder

/-- What a member asks for, where this is the same in every run. -/
def Atom.wish? : Atom → Option Int
  | .null => some 0xfca86420
  | .bool b => some (if b then 1 else 0)
  | .int n => some (signedWish (n < 0) (n.natAbs % prime))
  | .float x =>
    match Decimal.parts x with
    | .finite negative m q => some (signedWish negative (m * 2 ^ (q % 61).toNat % prime))
    | .infinite negative => some (if negative then -314159 else 314159)
    | .nan => none
  | _ => none

/-- What a member asks for: a sequence asks for what its parts do, which is not told here. -/
def Label.wish? : Label → Option Int
  | .atom a => a.wish?
  | .tuple _ => none

/-- Places with the members that lie there; their number is a power of two. -/
abbrev Ring := Array (Option Label)

namespace Ring

/-- The first free place among some that follow one another. -/
def free? (r : Ring) (place : Nat) : Nat → Option Nat
  | 0 => none
  | count + 1 => if (r.getD place none).isNone then some place else free? r (place + 1) count

/-- How many places after the first one are tried as well, unless the ring ends there. -/
def neighbours : Nat := 9

/-- The place of a member. Where a place and its neighbours are taken the search goes on from another one,
to which the higher digits of what the member asks for lead; once these are used up every place is met. -/
def seek (r : Ring) (place digits : Nat) : Nat → Nat
  | 0 => place
  | fuel + 1 =>
    let count := if place + neighbours < r.size then neighbours + 1 else 1
    match r.free? place count with
    | some found => found
    | none => seek r ((place * 5 + 1 + digits / 32) % r.size) (digits / 32) fuel

/-- Puts a member into the ring. -/
def add (r : Ring) (k : Label) (wish : Int) : Ring :=
  let digits := (wish % 2 ^ 64).toNat
  r.setIfInBounds (r.seek (digits % r.size) digits (r.size + 13)) (some k)

end Ring

/-- The size of the ring for a number of members: eight places for up to four members, and for more of them
the next power of two above twice their number. -/
def ringSize (count : Nat) : Nat := if count < 5 then 8 else 2 ^ (Nat.log2 (2 * count) + 1)

/-- The members of a set as they are shown. -/
def inOrder (members : List Label) : List Label :=
  match members.mapM fun k => k.wish?.map (k, ·) with
  | none => members
  | some wishes =>
    let empty : Ring := Array.replicate (ringSize members.length) none
    (wishes.foldl (fun r w => r.add w.1 w.2) empty).toList.filterMap id

end Wireframe.Document
