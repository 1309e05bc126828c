import Wireframe.Opcode.Basic
import Wireframe.Document.Same
import Wireframe.Document.Conversion
import Wireframe.Log

/-!
# `Wireframe.Animation.Plan` — the plan of an animation

The number of frames, the base name of the frame files and the values of the knobs in every frame are
settled before anything is drawn. The first `frames` and the first `basename` of a program count, each
`vary` runs a knob from one value to another over a range of frames, and where ranges overlap the later
`vary` wins.

## Contents
- `Vary`, `interpolate`, `interpolateAt`, `interpolateValue`: a knob over a range of frames.
- `Timeline`, `Timeline.build`: the knobs of every frame.
- `Notice`: what planning reports.
- `discover`, `plan`: the settings, and the whole plan.
-/

namespace Wireframe

open Document

/-- A knob that runs from one value to another over a range of frames. -/
structure Vary (α : Type) where
  target : Name
  first : Int
  last : Int
  startVal : α
  endVal : α
  deriving Inhabited

/-- The knob that an instruction sets in motion. -/
def Opcode.vary? {α : Type} : Opcode α → Option (Vary α)
  | .vary target first last startVal endVal => some ⟨target, first, last, startVal, endVal⟩
  | _ => none

/-- The knobs that a program sets in motion. -/
def varies {α : Type} (ops : List (Opcode α)) : List (Vary α) := ops.filterMap Opcode.vary?

namespace Vary

variable {α : Type}

/-- Refuses ranges that start before frame 0 or do not end after their start. -/
def check (v : Vary α) : Except Error Unit :=
  if v.first < 0 then .error (Error.negativeStart v.target v.first).settled
  else if v.last ≤ v.first then .error (Error.emptyRange v.target v.first v.last).settled
  else .ok ()

variable [Scalar α]

/-- The value at a share of the range. -/
def between (v : Vary α) (t : α) : α := v.startVal + t * (v.endVal - v.startVal)

/-- A number, unless it is beyond the greatest one. -/
def bounded (t : α) : Except Error α := if Scalar.isFinite t then .ok t else .error .tooLarge

/-- The value in a frame: exactly the given values at the ends, and in proportion elsewhere. -/
def interpolate (v : Vary α) (frame : Int) : Except Error α :=
  if frame = v.first then .ok v.startVal
  else if frame = v.last then .ok v.endVal
  else if v.last = v.first then .error .divisionByZero
  else (bounded (Scalar.ratio (frame - v.first) (v.last - v.first))).map v.between

/-- The value at a time that need not be a whole frame. -/
def interpolateAt (v : Vary α) (time : α) : Except Error α :=
  let first : α := Scalar.ofInt v.first
  if Scalar.eq time first then .ok v.startVal
  else if Scalar.eq time (Scalar.ofInt v.last) then .ok v.endVal
  else if v.last = v.first then .error .divisionByZero
  else (bounded (Scalar.ofInt (v.last - v.first))).map fun span => v.between ((time - first) / span)

/-- The value in a frame or at a time; only numbers are frames. -/
def interpolateValue (v : Vary Float) (frame : Value) : Except Error Float :=
  match frame.whole with
  | .ok n => v.interpolate n
  | .error _ => frame.toNumber >>= v.interpolateAt

end Vary

/-! ## Timelines -/

/-- The values of knobs by name. -/
abbrev Knobs (α : Type) := Dict Label α

/-- The knobs of every frame. -/
structure Timeline (α : Type) where
  frames : List (Knobs α)
  deriving Inhabited

namespace Timeline

variable {α : Type}

/-- The names of all knobs, in the order in which they come up. -/
def knobNames (t : Timeline α) : List Label :=
  (t.frames.foldl (fun d f => f.keys.foldl (fun d k => d.insert k ()) d) (Dict.empty : Dict Label Unit)).keys

variable [Scalar α]

/-- Writes a knob into the frames of its range; `frame` is the number of the first frame of the list. -/
def write (v : Vary α) (name : Label) (frame : Int) : List (Knobs α) → Except Error (List (Knobs α))
  | [] => .ok []
  | f :: rest => do
    let f ←
      if v.first ≤ frame && frame ≤ v.last then do
        pure (f.insert name (← v.interpolate frame))
      else pure f
    let rest ← write v name (frame + 1) rest
    return f :: rest

/-- Adds a knob to the frames of its range; only a label can name it, once there is such a frame. -/
def add (frames : List (Knobs α)) (v : Vary α) : Except Error (List (Knobs α)) := do
  v.check
  match v.target.label? with
  | some name => write v name 0 frames
  | none => if v.first < frames.length then throw .unhashable else return frames

/-- The knobs of a number of frames. -/
def build (vs : List (Vary α)) (count : Int) : Except Error (Timeline α) :=
  (vs.foldlM add (List.replicate count.toNat .empty)).map Timeline.mk

end Timeline

/-! ## Plans -/

/-- The number of frames and the base name of their files. -/
structure Settings where
  frameCount : Int
  basename : Name
  deriving Inhabited

/-- The plan of a run: settings, and the knobs of every frame of an animation. -/
structure Plan (α : Type) where
  settings : Settings
  timeline : Option (Timeline α)
  deriving Inhabited

/-- More than one frame. -/
def Settings.animated (s : Settings) : Bool := s.frameCount > 1

/-- What planning reports. -/
inductive Notice where
  | framesIgnored (count first : Int)
  | basenameIgnored (name first : Name)
  | beyondLast (target : Name) (start stop last : Int)
  | basenameMissing (default : Name)
  | planned (settings : Settings) (knobs : List Label)

/-- The record of a notice. -/
def Notice.record : Notice → Record
  | framesIgnored count first =>
    ⟨.warning, "mdl.knobs",
      s!"frames {count} は無視されます（先に frames {first} が指定済み）"⟩
  | basenameIgnored name first =>
    ⟨.warning, "mdl.knobs",
      s!"basename {name.quoted} は無視されます（先に {first.quoted} が指定済み）"⟩
  | beyondLast target start stop last =>
    ⟨.warning, "mdl.knobs",
      s!"vary {target.text}: 範囲 {start}..{stop} は最終フレーム {last} を超えています"⟩
  | basenameMissing default =>
    ⟨.warning, "mdl.knobs",
      s!"basename が指定されていません。{default.quoted} を使用します"⟩
  | planned settings knobs =>
    let names := (Value.list (knobs.map Label.value)).quoted
    ⟨.debug, "mdl.knobs",
      s!"animation plan: frames={settings.frameCount} basename={settings.basename.text} knobs={names}"⟩

/-- What has been found so far: the first number of frames, the first base name, and notices. -/
structure Found where
  frames : Option Int := none
  basename : Option Name := none
  notices : List Notice := []

/-- Looks at one instruction; two base names that contain themselves may be impossible to compare. -/
def Found.see {α : Type} (f : Found) : Opcode α → Except Error Found
  | .frames count =>
    match f.frames with
    | none => .ok { f with frames := some count }
    | some first =>
      if count = first then .ok f
      else .ok { f with notices := f.notices ++ [.framesIgnored count first] }
  | .basename name =>
    match f.basename with
    | none => .ok { f with basename := name.present? }
    | some first =>
      (name.same first).map fun same =>
        if same then f else { f with notices := f.notices ++ [.basenameIgnored name first] }
  | _ => .ok f

/-- Looks at instructions one after the other, up to the first failure. -/
def Found.seeAll {α : Type} (f : Found) : List (Opcode α) → Found × Except Error Unit
  | [] => (f, .ok ())
  | op :: rest =>
    match f.see op with
    | .ok f => seeAll f rest
    | .error e => (f, .error e)

/-- Checks the ranges of knobs, and notices those that go beyond the last frame. -/
def checkRanges {α : Type} (last : Int) : List (Vary α) → List Notice × Except Error Unit
  | [] => ([], .ok ())
  | v :: rest =>
    match v.check with
    | .error e => ([], .error e)
    | .ok () =>
      let here := if v.last > last then [.beyondLast v.target v.first v.last last] else []
      let (notices, r) := checkRanges last rest
      (here ++ notices, r)

/-- The settings of a program, and what there is to report on the way to them or to a failure. -/
def discover {α : Type} (default : Name) (ops : List (Opcode α)) :
    List Notice × Except Error Settings :=
  let (f, looked) := Found.seeAll {} ops
  let vs := varies ops
  match looked, f.frames with
  | .error e, _ => (f.notices, .error e)
  | .ok (), none =>
    if vs.isEmpty then
      let name := match f.basename with
        | some name => if name.isTruthy then name else default
        | none => default
      (f.notices, .ok ⟨1, name⟩)
    else (f.notices, .error .varyWithoutFrames)
  | .ok (), some count =>
    if count < 1 then (f.notices, .error (.tooFewFrames count))
    else
      match checkRanges (count - 1) vs with
      | (notices, .error e) => (f.notices ++ notices, .error e)
      | (notices, .ok ()) =>
        match f.basename with
        | some name => (f.notices ++ notices, .ok ⟨count, name⟩)
        | none => (f.notices ++ notices ++ [.basenameMissing default], .ok ⟨count, default⟩)

/-- The knobs of the frames, if there is an animation. -/
def timelineFor {α : Type} [Scalar α] (settings : Settings) (ops : List (Opcode α)) :
    Except Error (Option (Timeline α)) :=
  if settings.animated then (Timeline.build (varies ops) settings.frameCount).map some
  else .ok none

/-- The plan of a program. -/
def plan {α : Type} [Scalar α] (default : Name) (ops : List (Opcode α)) :
    List Notice × Except Error (Plan α) :=
  match discover default ops with
  | (notices, .error e) => (notices, .error e)
  | (notices, .ok settings) =>
    match timelineFor settings ops with
    | .error e => (notices, .error e)
    | .ok timeline =>
      let knobs := (timeline.map Timeline.knobNames).getD []
      (notices ++ [.planned settings knobs], .ok ⟨settings, timeline⟩)

end Wireframe
