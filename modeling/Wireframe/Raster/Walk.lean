import Wireframe.Screen

/-!
# `Wireframe.Raster.Walk` — the pixels of a segment

The walk goes from one pixel to another in steps of one pixel along the longer direction, and follows
the straight line along the other. It keeps twice the deviation from the line as a whole number, and
ends at the goal.

There are two such loops. The plain one computes with whole numbers of any size. The compiled one, which is
the default, keeps every result in 64 bits. They differ in nothing else, so both are given here by the way a
result is kept. A drawing makes the plain walk; the ends that clipping leaves are near the picture, where
the compiled loop makes the same one.

## Contents
- `wrap`: a whole number in 64 bits.
- `Course`, `Walker`: what is fixed during a walk, and what changes.
- `betweenIn`, `startIn`, `stepIn`: the course of either loop, its start, and one step.
- `between`, `step`, `walk`: the plain loop, and all pixels of a walk.
-/

namespace Wireframe.Raster

/-- A whole number as 64 bits keep it, with its sign. -/
def wrap (n : Int) : Int := n.bmod (2 ^ 64)

/-- What is fixed during a walk: the goal, the distances `dx ≥ 0` and `dy ≤ 0` (where they do not wrap
around), and the directions. -/
structure Course where
  goal : Pixel
  dx : Int
  dy : Int
  sx : Int
  sy : Int
  deriving DecidableEq, Repr

/-- Where the walk is, and its deviation from the line. -/
structure Walker where
  here : Pixel
  err : Int
  deriving DecidableEq, Repr

/-- The course from a pixel to another, where `fit` keeps each result. -/
def Course.betweenIn (fit : Int → Int) (p q : Pixel) : Course :=
  ⟨q, fit (fit (q.x - p.x)).natAbs, fit (-fit (fit (q.y - p.y)).natAbs), if p.x < q.x then 1 else -1,
   if p.y < q.y then 1 else -1⟩

/-- A walk before its first step. -/
def Walker.startIn (fit : Int → Int) (p q : Pixel) : Walker :=
  let c := Course.betweenIn fit p q
  ⟨p, fit (c.dx + c.dy)⟩

/-- One step: along `x` if the deviation allows it, and along `y` if it asks for it. -/
def Course.stepIn (fit : Int → Int) (c : Course) (w : Walker) : Walker :=
  let e2 := fit (2 * w.err)
  let w1 : Walker :=
    if e2 ≥ c.dy then ⟨⟨fit (w.here.x + c.sx), w.here.y⟩, fit (w.err + c.dy)⟩ else w
  if e2 ≤ c.dx then ⟨⟨w1.here.x, fit (w1.here.y + c.sy)⟩, fit (w1.err + c.dx)⟩ else w1

/-- The course of the plain loop. -/
def Course.between (p q : Pixel) : Course := Course.betweenIn id p q

/-- One step of the plain loop. -/
def Course.step (c : Course) (w : Walker) : Walker := c.stepIn id w

/-- The pixels from a walker to the goal, at most `fuel` steps on. -/
def Course.run (c : Course) : Nat → Walker → List Pixel
  | 0, w => [w.here]
  | fuel + 1, w => if w.here = c.goal then [w.here] else w.here :: c.run fuel (c.step w)

/-- The pixels from one pixel to another. Each step brings the walk nearer along the longer direction,
so that many steps are enough. -/
def walk (p q : Pixel) : List Pixel :=
  (Course.between p q).run (max (q.x - p.x).natAbs (q.y - p.y).natAbs) (.startIn id p q)

end Wireframe.Raster
