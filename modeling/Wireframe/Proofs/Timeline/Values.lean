import Wireframe.Proofs.Decimal.Ratio
import Wireframe.Proofs.Timeline

/-!
# `Wireframe.Proofs.Timeline.Values` — the values of knobs in every frame

A timeline is built one `vary` at a time, over all frames of its range that there are. Seen from one frame,
the varies whose ranges have it write their knobs one after the other, so the last of them decides. Building
fails only at a range that is none, or at a name that cannot be a key of a frame that there is, and it fails
at the first such `vary`.

## Contents
- `Vary.Proper`, `Vary.valueAt`, `interpolate_eq`: ranges, and the value of a knob in each frame of its own.
- `Vary.Moves`, `Vary.writeTo`, `find_writeTo`: one `vary` in one frame.
- `knobsAt`, `contains_knobsAt`, `find_knobsAt_last`: all of them in one frame.
- `Vary.Fits`, `write_eq`, `add_eq`, `build_eq`: timelines that can be built.
- `Vary.rangeError`, `add_improper`, `add_unnameable`, `build_misfit`, `build_improper`: those that cannot.
- `timeline_values`: all of it; `listed_target_refused`: a range that is one, and no timeline.
-/

namespace Wireframe

open Document

/-! ## Ranges and values -/

/-- The double of a share of a whole is finite. -/
theorem Decimal.isFinite_share {n d : Int} (h0 : 0 ≤ n) (h1 : n ≤ d) (hd : 0 < d) :
    (ofQuotient n d).isFinite = true := by
  have hbelow : Below (1 + 4) (ofQuotient n d) := ofRatio_below (by omega) (by omega) _
  exact hbelow.isFinite (by decide)

namespace Vary

/-- The range starts at frame 0 or later and ends after its start. -/
def Proper {α : Type} (v : Vary α) : Prop := 0 ≤ v.first ∧ v.first < v.last

/-- The value in a frame of the range: the given values at the ends, and in proportion between them. -/
def valueAt (v : Vary Float) (frame : Int) : Float :=
  if frame = v.first then v.startVal
  else if frame = v.last then v.endVal
  else v.startVal + Decimal.ofQuotient (frame - v.first) (v.last - v.first) * (v.endVal - v.startVal)

theorem interpolate_eq {v : Vary Float} (hv : v.Proper) {frame : Int} (hfirst : v.first ≤ frame)
    (hlast : frame ≤ v.last) : v.interpolate frame = .ok (v.valueAt frame) := by
  have hne : v.last ≠ v.first := hv.2.ne'
  have hshare := Decimal.isFinite_share (sub_nonneg.mpr hfirst) (sub_le_sub_right hlast v.first)
    (sub_pos.mpr hv.2)
  unfold interpolate valueAt
  -- between the ends only the quotient could fail: its divisor is not zero, and it is finite
  split
  · rfl
  · split
    · rfl
    · rw [bounded]
      exact congrArg (Except.map v.between) (if_pos hshare)

end Vary

/-! ## One frame -/

namespace Vary

/-- Whether a knob is in motion in a frame. -/
def Moves {α : Type} (v : Vary α) (x : Label) (frame : Int) : Prop :=
  (∃ name, v.target.label? = some name ∧ (name == x) = true) ∧ v.first ≤ frame ∧ frame ≤ v.last

/-- Writes a knob into a frame, if that is in its range. -/
def writeTo (v : Vary Float) (frame : Int) (knobs : Knobs Float) : Knobs Float :=
  match v.target.label? with
  | some name =>
    if v.first ≤ frame ∧ frame ≤ v.last then knobs.insert name (v.valueAt frame) else knobs
  | none => knobs

theorem find_writeTo {v : Vary Float} {x : Label} {frame : Int} (h : v.Moves x frame)
    (knobs : Knobs Float) : (v.writeTo frame knobs).find? x = some (v.valueAt frame) := by
  obtain ⟨⟨name, hname, hx⟩, hrange⟩ := h
  rw [writeTo, hname]
  dsimp only
  rw [if_pos hrange, Dict.find_insert_eq hx]

theorem find_writeTo_of_not {v : Vary Float} {x : Label} {frame : Int} (h : ¬ v.Moves x frame)
    (knobs : Knobs Float) : (v.writeTo frame knobs).find? x = knobs.find? x := by
  unfold writeTo
  split
  · next name hname =>
    split
    · next hrange =>
      have hx : (name == x) = false := by
        rw [Bool.eq_false_iff]
        intro heq
        exact h ⟨⟨name, hname, heq⟩, hrange⟩
      rw [Dict.find_insert_ne hx]
    · rfl
  · rfl

end Vary

namespace Timeline

/-- The knobs of a frame, written one after the other. -/
def knobsAt (vs : List (Vary Float)) (frame : Int) (knobs : Knobs Float) : Knobs Float :=
  vs.foldl (fun knobs v => v.writeTo frame knobs) knobs

theorem find_knobsAt_of_not {vs : List (Vary Float)} {x : Label} {frame : Int}
    (h : ∀ v ∈ vs, ¬ v.Moves x frame) (knobs : Knobs Float) :
    (knobsAt vs frame knobs).find? x = knobs.find? x := by
  induction vs generalizing knobs with
  | nil => rfl
  | cons v vs ih =>
    obtain ⟨hv, hvs⟩ := List.forall_mem_cons.mp h
    exact (ih hvs _).trans (Vary.find_writeTo_of_not hv knobs)

/-- **The last one decides.** -/
theorem find_knobsAt_last {before after : List (Vary Float)} {v : Vary Float} {x : Label} {frame : Int}
    (h : v.Moves x frame) (hafter : ∀ u ∈ after, ¬ u.Moves x frame) (knobs : Knobs Float) :
    (knobsAt (before ++ v :: after) frame knobs).find? x = some (v.valueAt frame) := by
  rw [knobsAt, List.foldl_append, List.foldl_cons]
  exact (find_knobsAt_of_not hafter _).trans (Vary.find_writeTo h _)

theorem contains_knobsAt (vs : List (Vary Float)) (x : Label) (frame : Int) (knobs : Knobs Float) :
    (knobsAt vs frame knobs).contains x = true ↔
      knobs.contains x = true ∨ ∃ v ∈ vs, v.Moves x frame := by
  induction vs generalizing knobs with
  | nil => simp [knobsAt]
  | cons v vs ih =>
    refine (ih (v.writeTo frame knobs)).trans ?_
    rw [List.exists_mem_cons_iff, ← or_assoc]
    refine or_congr_left ?_
    unfold Dict.contains
    by_cases h : v.Moves x frame
    · simp [Vary.find_writeTo h, h]
    · simp [Vary.find_writeTo_of_not h, h]

end Timeline

/-! ## Timelines that can be built -/

/-- The range is one, and the knob has a name that can be a key, or is in motion in none of the frames. -/
def Vary.Fits {α : Type} (v : Vary α) (count : Int) : Prop :=
  v.Proper ∧ (v.target.label?.isSome = true ∨ count ≤ v.first)

namespace Timeline

/-- The frames from one number on. -/
def framesFrom (first count : Nat) (knobs : Nat → Knobs Float) : List (Knobs Float) :=
  (List.range' first count).map knobs

theorem write_cons_eq {v : Vary Float} (hv : v.Proper) {name : Label} (hname : v.target.label? = some name)
    {frame : Int} {f : Knobs Float} {rest rest' : List (Knobs Float)}
    (hrest : write v name (frame + 1) rest = .ok rest') :
    write v name frame (f :: rest) = .ok (v.writeTo frame f :: rest') := by
  rw [write, Vary.writeTo, hname]
  dsimp only
  by_cases hrange : v.first ≤ frame ∧ frame ≤ v.last
  · rw [if_pos hrange, if_pos (by simpa using hrange), Vary.interpolate_eq hv hrange.1 hrange.2, hrest]
    rfl
  · rw [if_neg hrange, if_neg (by simpa using hrange), hrest]
    rfl

theorem write_eq {v : Vary Float} (hv : v.Proper) {name : Label} (hname : v.target.label? = some name)
    (first count : Nat) (knobs : Nat → Knobs Float) :
    write v name first (framesFrom first count knobs) =
      .ok (framesFrom first count fun j => v.writeTo j (knobs j)) := by
  induction count generalizing first with
  | zero => rfl
  | succ count ih =>
    rw [framesFrom, framesFrom, List.range'_succ, List.map_cons, List.map_cons]
    exact write_cons_eq hv hname (ih (first + 1))

theorem length_framesFrom (first count : Nat) (knobs : Nat → Knobs Float) :
    (framesFrom first count knobs).length = count := by
  rw [framesFrom, List.length_map, List.length_range']

theorem of_getElem?_framesFrom {count f : Nat} {knobs : Nat → Knobs Float} {found : Knobs Float}
    (h : (framesFrom 0 count knobs)[f]? = some found) : found = knobs f := by
  rw [framesFrom, ← List.range_eq_range', List.getElem?_map, Option.map_eq_some_iff] at h
  obtain ⟨j, hj, rfl⟩ := h
  rw [(List.getElem?_eq_some_iff.mp hj).2.symm, List.getElem_range]

theorem check_ok {v : Vary Float} (hv : v.Proper) : v.check = .ok () := by
  rw [Vary.check, if_neg (not_lt.mpr hv.1), if_neg (not_le.mpr hv.2)]

/-- A name that cannot be a key does no harm if it is in no frame. -/
theorem add_eq {v : Vary Float} {count : Nat} (hv : v.Fits count) (knobs : Nat → Knobs Float) :
    add (framesFrom 0 count knobs) v = .ok (framesFrom 0 count fun j => v.writeTo j (knobs j)) := by
  rw [add, check_ok hv.1]
  cases hname : v.target.label? with
  | some name => exact write_eq hv.1 hname 0 count knobs
  | none =>
    have hlate : ¬ v.first < (framesFrom 0 count knobs).length := by
      have hnone : ¬ (none : Option Label).isSome = true := Bool.false_ne_true
      rw [length_framesFrom, not_lt]
      exact (hname ▸ hv.2).resolve_left hnone
    have hsame : (fun j : Nat => v.writeTo j (knobs j)) = knobs := by
      funext j
      rw [Vary.writeTo, hname]
    rw [hsame]
    exact if_neg hlate

theorem foldlM_add_eq {vs : List (Vary Float)} {count : Nat} (h : ∀ v ∈ vs, v.Fits count)
    (knobs : Nat → Knobs Float) :
    vs.foldlM add (framesFrom 0 count knobs) = .ok (framesFrom 0 count fun j => knobsAt vs j (knobs j)) := by
  induction vs generalizing knobs with
  | nil => rfl
  | cons v vs ih =>
    obtain ⟨hv, hvs⟩ := List.forall_mem_cons.mp h
    rw [List.foldlM_cons, add_eq hv]
    exact ih hvs _

theorem replicate_eq_framesFrom (count : Nat) :
    List.replicate count (.empty : Knobs Float) = framesFrom 0 count fun _ => .empty := by
  rw [framesFrom, List.map_const', List.length_range']

/-- A frame is not before the first one, so it is the same to count none and to count fewer. -/
theorem fits_toNat {v : Vary Float} {count : Int} : v.Fits count.toNat ↔ v.Fits count := by
  refine and_congr_right fun hv => or_congr_right ?_
  have hfirst := hv.1
  omega

/-- **Timelines that can be built.** -/
theorem build_eq {vs : List (Vary Float)} {count : Int} (h : ∀ v ∈ vs, v.Fits count) :
    build vs count = .ok ⟨framesFrom 0 count.toNat fun j => knobsAt vs j .empty⟩ := by
  rw [build, replicate_eq_framesFrom, foldlM_add_eq fun v hv => fits_toNat.mpr (h v hv)]
  rfl

end Timeline

/-! ## Timelines that cannot be built -/

/-- Where a property does not hold throughout a list, there is a first element without it. -/
theorem exists_first_failing {β : Type} {p : β → Prop} {xs : List β} (h : ¬ ∀ x ∈ xs, p x) :
    ∃ before x after, xs = before ++ x :: after ∧ (∀ u ∈ before, p u) ∧ ¬ p x := by
  induction xs with
  | nil => exact absurd nofun h
  | cons x xs ih =>
    by_cases hx : p x
    · have hrest : ¬ ∀ u ∈ xs, p u := by
        intro hall
        exact h (List.forall_mem_cons.mpr ⟨hx, hall⟩)
      obtain ⟨before, u, after, rfl, hbefore, hu⟩ := ih hrest
      exact ⟨x :: before, u, after, rfl, List.forall_mem_cons.mpr ⟨hx, hbefore⟩, hu⟩
    · exact ⟨[], x, xs, rfl, nofun, hx⟩

/-- What is wrong with a range that is none. -/
def Vary.rangeError {α : Type} (v : Vary α) : Error :=
  if v.first < 0 then .negativeStart v.target v.first else .emptyRange v.target v.first v.last

theorem Vary.kind_rangeError {α : Type} (v : Vary α) : v.rangeError.kind = .range := by
  unfold rangeError
  split <;> rfl

theorem Vary.settled_rangeError {α : Type} (v : Vary α) :
    v.rangeError.settled = if v.target.isWritable = true then v.rangeError else .unwritable := by
  have hvalues : v.rangeError.values = [v.target] := by
    unfold rangeError
    split <;> rfl
  rw [Error.settled, hvalues, List.all_cons, List.all_nil, Bool.and_true]

namespace Timeline

/-- A range that is none is refused. -/
theorem check_improper {v : Vary Float} (hv : ¬ v.Proper) : v.check = .error v.rangeError.settled := by
  unfold Vary.check Vary.rangeError
  split
  · rfl
  · next hfirst =>
    have hlast : v.last ≤ v.first := by
      by_contra hlast
      exact hv ⟨not_lt.mp hfirst, not_le.mp hlast⟩
    exact if_pos hlast

theorem add_improper {v : Vary Float} (hv : ¬ v.Proper) (frames : List (Knobs Float)) :
    add frames v = .error (if v.target.isWritable = true then v.rangeError else .unwritable) := by
  rw [add, check_improper hv, Vary.settled_rangeError]
  rfl

theorem add_unnameable {v : Vary Float} {count : Int} (hv : v.Proper) (hfits : ¬ v.Fits count)
    {frames : List (Knobs Float)} (hlength : frames.length = count.toNat) :
    add frames v = .error .unhashable := by
  rw [← fits_toNat, ← hlength] at hfits
  obtain ⟨hname, hearly⟩ := not_or.mp fun h => hfits ⟨hv, h⟩
  rw [Bool.not_eq_true, Option.isSome_eq_false_iff, Option.isNone_iff_eq_none] at hname
  rw [add, check_ok hv, hname]
  exact if_pos (not_le.mp hearly)

/-- **The first vary that cannot be added decides.** -/
theorem build_error {before after : List (Vary Float)} {v : Vary Float} {count : Int} {e : Error}
    (hbefore : ∀ u ∈ before, u.Fits count)
    (hv : ∀ frames, frames.length = count.toNat → add frames v = .error e) :
    build (before ++ v :: after) count = .error e := by
  have hadd := hv _ (length_framesFrom 0 count.toNat fun j => knobsAt before j .empty)
  rw [build, replicate_eq_framesFrom, List.foldlM_append,
    foldlM_add_eq fun u hu => fits_toNat.mpr (hbefore u hu)]
  show Except.map Timeline.mk ((v :: after).foldlM add _) = _
  rw [List.foldlM_cons, hadd]
  rfl

/-- The first vary that does not fit is refused for its range or for its name. -/
theorem build_misfit {before : List (Vary Float)} {count : Int}
    (hbefore : ∀ u ∈ before, u.Fits count) (v : Vary Float) (after : List (Vary Float)) :
    (¬ v.Proper → build (before ++ v :: after) count =
      .error (if v.target.isWritable = true then v.rangeError else .unwritable)) ∧
    (v.Proper → ¬ v.Fits count → build (before ++ v :: after) count = .error .unhashable) :=
  ⟨fun hrange => build_error hbefore fun frames _ => add_improper hrange frames,
    fun hrange hname => build_error hbefore fun _ hlength => add_unnameable hrange hname hlength⟩

/-- A range that is none is never passed over. Where all targets are texts, only ranges can be at fault. -/
theorem build_improper {vs : List (Vary Float)} (himproper : ∃ v ∈ vs, ¬ v.Proper) (count : Int) :
    ∃ e, build vs count = .error e ∧ ((∀ v ∈ vs, ∃ s, v.target = .str s) → e.kind = .range) := by
  have hmisfit : ¬ ∀ v ∈ vs, v.Fits count := by
    intro hall
    obtain ⟨v, hmem, hv⟩ := himproper
    exact hv (hall v hmem).1
  obtain ⟨before, v, after, rfl, hbefore, hv⟩ := exists_first_failing hmisfit
  by_cases hrange : v.Proper
  · refine ⟨_, (build_misfit hbefore v after).2 hrange hv, fun htexts => ?_⟩
    -- a text can be a key, so the range would be at fault
    obtain ⟨s, htarget⟩ := htexts v (List.mem_append_right _ List.mem_cons_self)
    exact absurd ⟨hrange, .inl (by rw [htarget]; rfl)⟩ hv
  · refine ⟨_, (build_misfit hbefore v after).1 hrange, fun htexts => ?_⟩
    obtain ⟨s, htarget⟩ := htexts v (List.mem_append_right _ List.mem_cons_self)
    rw [htarget]
    exact v.kind_rangeError

end Timeline

/-- **The values of a timeline.** If every `vary` of a program fits, there is a timeline of so many frames.
    A knob stands in a frame exactly if some `vary` moves it there, and the last one that does gives it its
    value. Otherwise the first `vary` that does not fit is refused: for its range, with a message that shows
    its target if that can be shown, or because its target cannot be a key. So a range that is none is never
    passed over, and where all targets are texts it is what is reported. -/
theorem timeline_values (ops : List (Opcode Float)) (count : Int) :
    ((∀ v ∈ varies ops, v.Fits count) → ∃ t, Timeline.build (varies ops) count = .ok t ∧
      (t.frames.length : Int) = max count 0 ∧
      ∀ (f : Nat) (knobs : Knobs Float), t.frames[f]? = some knobs → ∀ x : Label,
        (knobs.contains x = true ↔ ∃ v ∈ varies ops, v.Moves x f) ∧
        ∀ (before : List (Vary Float)) (v : Vary Float) (after : List (Vary Float)),
          varies ops = before ++ v :: after → v.Moves x f → (∀ u ∈ after, ¬ u.Moves x f) →
          knobs.find? x = some (v.valueAt f)) ∧
    (∀ (before : List (Vary Float)) (v : Vary Float) (after : List (Vary Float)),
      varies ops = before ++ v :: after → (∀ u ∈ before, u.Fits count) →
      (¬ v.Proper → v.rangeError.kind = .range ∧ Timeline.build (varies ops) count =
        .error (if v.target.isWritable = true then v.rangeError else .unwritable)) ∧
      (v.Proper → ¬ v.Fits count → Timeline.build (varies ops) count = .error .unhashable)) ∧
    ((∃ v ∈ varies ops, ¬ v.Proper) → ∃ e, Timeline.build (varies ops) count = .error e ∧
      ((∀ v ∈ varies ops, ∃ s, v.target = .str s) → e.kind = .range)) := by
  refine ⟨?built, ?refused, fun himproper => Timeline.build_improper himproper count⟩
  case built =>
    intro hfits
    refine ⟨_, Timeline.build_eq hfits, ?_, ?_⟩
    · rw [Timeline.length_framesFrom]
      omega
    · intro f knobs hknobs x
      obtain rfl := Timeline.of_getElem?_framesFrom hknobs
      constructor
      · rw [Timeline.contains_knobsAt]
        exact or_iff_right Bool.false_ne_true
      · intro before v after hops hv hafter
        rw [hops]
        exact Timeline.find_knobsAt_last hv hafter _
  case refused =>
    intro before v after hops hbefore
    obtain ⟨hrange, hname⟩ := Timeline.build_misfit hbefore v after
    rw [hops]
    exact ⟨fun hv => ⟨v.kind_rangeError, hrange hv⟩, hname⟩

/-- Two ranges of one knob overlap in a frame: the later `vary` gives the value. -/
theorem timeline_values_overlap :
    ∃ t, Timeline.build (varies
        [(.vary (.str "x") 0 2 0 1 : Opcode Float), .vary (.str "x") 1 3 5 7]) 3 = .ok t ∧
      (t.frames.length : Int) = 3 ∧
      ∀ knobs, t.frames[1]? = some knobs → knobs.find? (.text "x") = some 5 := by
  have hfits : ∀ v ∈ varies [(.vary (.str "x") 0 2 0 1 : Opcode Float), .vary (.str "x") 1 3 5 7],
      v.Fits 3 := by
    simp [varies, Opcode.vary?, Vary.Fits, Vary.Proper, Value.label?]
  obtain ⟨t, ht, hlength, hvalues⟩ := (timeline_values _ 3).1 hfits
  refine ⟨t, ht, hlength, ?_⟩
  intro knobs hknobs
  exact (hvalues 1 knobs hknobs (.text "x")).2 [_] _ [] rfl
    ⟨⟨.text "x", rfl, Label.text_beq.mpr rfl⟩, by decide, by decide⟩ nofun

/-- A target that is a list cannot be a key, and a timeline with a frame for it cannot be built. -/
theorem listed_target_refused :
    (∀ v ∈ varies [(.vary (.list [.int 1]) 0 1 0 1 : Opcode Float)], v.Proper) ∧
    Timeline.build (varies [(.vary (.list [.int 1]) 0 1 0 1 : Opcode Float)]) 2 =
      .error .unhashable := by
  refine ⟨?_, rfl⟩
  simp [varies, Opcode.vary?, Vary.Proper]

end Wireframe
