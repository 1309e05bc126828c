import Wireframe.Proofs.Timeline.Values

/-!
# `Wireframe.Proofs.Timeline.Outcome` — what planning decides and reports

Planning goes through a program with two accumulators, the number of frames and the base name, and reports on
the way. What comes of it can be said without the way: the first number of frames and the first base name of
the program count, and every instruction that asks for others is reported. Knobs in motion need frames, and
there has to be one at least; then ranges have to be ranges, and the first one that is none is refused. All
that is left to go wrong is a knob whose name cannot be a key.

## Contents
- `firstFrames`, `firstBasename`, `Opcode.ignored?`, `seeAll_eq`: one pass over the instructions.
- `Vary.beyond?`, `checkRanges_eq`, `checkRanges_error`: the ranges.
- `Unsettled`, `frameCount`, `chosenBasename`, `warnings`: settings, and what is reported.
- `discover_unsettled`, `discover_improper`, `discover_eq`: the settings of a program.
- `Nameable`, `plan_eq`, `plan_unnameable`, `plan_improper`: its plan.
- `planned_outcome`: all of it; `listed_target_unplanned`: proper ranges, and no plan.
-/

namespace Wireframe

open Document

variable {α : Type}

/-! ## Frames and base names -/

namespace Opcode

/-- The number of frames that an instruction asks for. -/
def frames? : Opcode α → Option Int
  | .frames count => some count
  | _ => none

/-- The base name that an instruction gives. -/
def basename? : Opcode α → Option Name
  | .basename name => some name
  | _ => none

/-- What is reported of an instruction that asks for another number of frames or another base name than the
    ones that count. -/
def ignored? (frames : Option Int) (basename : Option Name) : Opcode α → Option Notice
  | .frames count => frames.bind fun first =>
      if count = first then none else some (.framesIgnored count first)
  | .basename name => basename.bind fun first =>
      if name.str? = first.str? then none else some (.basenameIgnored name first)
  | _ => none

end Opcode

/-- The number of frames that counts. -/
def firstFrames (ops : List (Opcode α)) : Option Int := ops.findSome? Opcode.frames?

/-- The base name that counts. -/
def firstBasename (ops : List (Opcode α)) : Option Name := ops.findSome? Opcode.basename?

/-- All base names are texts. -/
def TextBasenames (ops : List (Opcode α)) : Prop := ∀ op ∈ ops, ∀ name ∈ op.basename?, ∃ s, name = .str s

/-- Texts are the same values exactly if they are the same texts. -/
theorem same_texts (s t : String) : (Value.str s).same (.str t) = .ok (decide (s = t)) := by
  by_cases h : s = t
  · rw [decide_eq_true h]
    exact congrArg Except.ok (Label.text_beq.mpr h)
  · rw [decide_eq_false h]
    exact congrArg Except.ok (Bool.eq_false_iff.mpr (mt Label.text_beq.mp h))

namespace Found

/-- One instruction: what counts stays, and what does not is reported. -/
theorem see_eq {f : Found} {op : Opcode α} (hfound : ∀ name ∈ f.basename, ∃ s, name = .str s)
    (hop : ∀ name ∈ op.basename?, ∃ s, name = .str s) :
    f.see op = .ok ⟨f.frames.or op.frames?, f.basename.or op.basename?,
      f.notices ++ (op.ignored? (f.frames.or op.frames?) (f.basename.or op.basename?)).toList⟩ := by
  obtain ⟨frames, basename, notices⟩ := f
  cases op
  case frames count =>
    cases frames with
    | none => simp [see, Opcode.frames?, Opcode.basename?, Opcode.ignored?]
    | some first =>
      by_cases hsame : count = first <;>
        simp [see, Opcode.frames?, Opcode.basename?, Opcode.ignored?, hsame]
  case basename name =>
    obtain ⟨s, rfl⟩ := hop name rfl
    cases basename with
    | none => simp [see, Opcode.frames?, Opcode.basename?, Opcode.ignored?, Value.present?, Value.isNull]
    | some first =>
      obtain ⟨t, rfl⟩ := hfound first rfl
      by_cases hsame : s = t <;>
        simp [see, Opcode.frames?, Opcode.basename?, Opcode.ignored?, same_texts, Except.map, Value.str?, hsame]
  all_goals simp [see, Opcode.frames?, Opcode.basename?, Opcode.ignored?]

/-- What an instruction is reported for is settled once the instruction itself has been seen. -/
theorem ignored_or (op : Opcode α) (frames later : Option Int) (basename other : Option Name) :
    op.ignored? ((frames.or op.frames?).or later) ((basename.or op.basename?).or other) =
      op.ignored? (frames.or op.frames?) (basename.or op.basename?) := by
  cases op
  case frames count => cases frames <;> rfl
  case basename name => cases basename <;> rfl
  all_goals rfl

/-- **All instructions.** The first number of frames and the first base name count, and everything that
    differs from them is reported. -/
theorem seeAll_eq {f : Found} {ops : List (Opcode α)} (hfound : ∀ name ∈ f.basename, ∃ s, name = .str s)
    (hops : TextBasenames ops) :
    f.seeAll ops = (⟨f.frames.or (firstFrames ops), f.basename.or (firstBasename ops),
      f.notices ++ ops.filterMap (Opcode.ignored? (f.frames.or (firstFrames ops))
        (f.basename.or (firstBasename ops)))⟩, .ok ()) := by
  induction ops generalizing f with
  | nil => simp [seeAll, firstFrames, firstBasename]
  | cons op ops ih =>
    obtain ⟨hop, hrest⟩ := List.forall_mem_cons.mp hops
    have hframes : firstFrames (op :: ops) = op.frames?.or (firstFrames ops) := by
      rw [firstFrames, List.findSome?_cons]
      cases op.frames? <;> rfl
    have hbasename : firstBasename (op :: ops) = op.basename?.or (firstBasename ops) := by
      rw [firstBasename, List.findSome?_cons]
      cases op.basename? <;> rfl
    have hseen : ∀ name ∈ f.basename.or op.basename?, ∃ s, name = .str s := by
      intro name hname
      rcases Option.or_eq_some_iff.mp hname with h | ⟨-, h⟩
      · exact hfound name h
      · exact hop name h
    rw [seeAll, see_eq hfound hop]
    dsimp only
    rw [ih hseen hrest, hframes, hbasename, ← Option.or_assoc, ← Option.or_assoc, List.filterMap_cons,
      ignored_or, List.append_assoc]
    cases op.ignored? (f.frames.or op.frames?) (f.basename.or op.basename?) <;> rfl

end Found

/-! ## Ranges -/

/-- What is reported of a range that goes beyond the last frame. -/
def Vary.beyond? (last : Int) (v : Vary α) : Option Notice :=
  if v.last > last then some (.beyondLast v.target v.first v.last last) else none

/-- Ranges that are ranges are only reported. -/
theorem checkRanges_eq {vs : List (Vary Float)} (h : ∀ v ∈ vs, v.Proper) (last : Int) :
    checkRanges last vs = (vs.filterMap (Vary.beyond? last), .ok ()) := by
  induction vs with
  | nil => rfl
  | cons v vs ih =>
    obtain ⟨hv, hvs⟩ := List.forall_mem_cons.mp h
    rw [checkRanges, Timeline.check_ok hv, ih hvs, List.filterMap_cons, Vary.beyond?]
    dsimp only
    by_cases hlast : v.last > last
    · rw [if_pos hlast, if_pos hlast]
      rfl
    · rw [if_neg hlast, if_neg hlast]
      rfl

/-- The first range that is none is refused. -/
theorem checkRanges_error {before after : List (Vary Float)} {v : Vary Float}
    (hbefore : ∀ u ∈ before, u.Proper) (hv : ¬ v.Proper) (last : Int) :
    (checkRanges last (before ++ v :: after)).2 = .error v.rangeError.settled := by
  induction before with
  | nil =>
    rw [List.nil_append, checkRanges, Timeline.check_improper hv]
  | cons u before ih =>
    obtain ⟨hu, hrest⟩ := List.forall_mem_cons.mp hbefore
    rw [List.cons_append, checkRanges, Timeline.check_ok hu]
    exact ih hrest

/-! ## Settings -/

/-- Knobs in motion without frames, or fewer frames than one. -/
def Unsettled (ops : List (Opcode α)) : Prop :=
  (varies ops ≠ [] ∧ firstFrames ops = none) ∨ ∃ n ∈ firstFrames ops, n < 1

/-- The number of frames that a program has. -/
def frameCount (ops : List (Opcode α)) : Int := (firstFrames ops).getD 1

/-- The base name that a program has: an empty one does not count where there are no frames. -/
def chosenBasename (default : Name) (ops : List (Opcode α)) : Name :=
  match firstBasename ops with
  | none => default
  | some name => if firstFrames ops = none ∧ name.str? = some "" then default else name

/-- All that is reported of a program with settings: what does not count, ranges beyond the last frame, and
    frames without a base name. -/
def warnings (default : Name) (ops : List (Opcode α)) : List Notice :=
  ops.filterMap (Opcode.ignored? (firstFrames ops) (firstBasename ops)) ++
    (varies ops).filterMap (Vary.beyond? (frameCount ops - 1)) ++
    if (firstFrames ops).isSome ∧ (firstBasename ops).isNone then [.basenameMissing default] else []

section

variable (default : Name) {ops : List (Opcode Float)}

/-- What is found in all instructions. -/
theorem found_eq (hops : TextBasenames ops) : Found.seeAll {} ops =
    (⟨firstFrames ops, firstBasename ops,
      ops.filterMap (Opcode.ignored? (firstFrames ops) (firstBasename ops))⟩, .ok ()) := by
  have hseen := Found.seeAll_eq (f := {}) nofun hops
  simpa only [Option.none_or, List.nil_append] using hseen

theorem text_firstBasename (hops : TextBasenames ops) : ∀ name ∈ firstBasename ops, ∃ s, name = .str s := by
  intro name hname
  obtain ⟨op, hop, hfirst⟩ := List.exists_of_findSome?_eq_some hname
  exact hops op hop name hfirst

theorem discover_unsettled (hops : TextBasenames ops) (h : Unsettled ops) :
    ∃ e, (discover default ops).2 = .error e ∧ e.kind = .config := by
  rw [discover, found_eq hops]
  rcases h with ⟨hvaries, hframes⟩ | ⟨n, hframes, hn⟩
  · rw [hframes]
    dsimp only
    rw [if_neg (by simpa using hvaries)]
    exact ⟨_, rfl, rfl⟩
  · rw [Option.mem_def.mp hframes]
    dsimp only
    rw [if_pos hn]
    exact ⟨_, rfl, rfl⟩

/-- The first range that is none is what a program with frames is refused for. -/
theorem discover_improper (hops : TextBasenames ops) (h : ¬ Unsettled ops) {before after : List (Vary Float)}
    {v : Vary Float} (hvaries : varies ops = before ++ v :: after) (hbefore : ∀ u ∈ before, u.Proper)
    (hv : ¬ v.Proper) : (discover default ops).2 = .error v.rangeError.settled := by
  rw [discover, found_eq hops]
  cases hframes : firstFrames ops with
  | none => exact absurd (.inl ⟨by simp [hvaries], hframes⟩) h
  | some n =>
    have hn : ¬ n < 1 := fun hn => h (.inr ⟨n, hframes, hn⟩)
    have hrefused : (checkRanges (n - 1) (before ++ v :: after)).2 = .error v.rangeError.settled :=
      checkRanges_error hbefore hv (n - 1)
    dsimp only
    rw [if_neg hn, hvaries]
    split
    · next heq =>
      rw [heq] at hrefused
      cases hrefused
      rfl
    · next heq =>
      rw [heq] at hrefused
      cases hrefused

/-- **The settings of a program**, and all that is reported on the way to them. -/
theorem discover_eq (hops : TextBasenames ops) (h : ¬ Unsettled ops) (hproper : ∀ v ∈ varies ops, v.Proper) :
    discover default ops = (warnings default ops, .ok ⟨frameCount ops, chosenBasename default ops⟩) := by
  rw [discover, found_eq hops, warnings, frameCount, chosenBasename]
  cases hframes : firstFrames ops with
  | none =>
    have hvaries : varies ops = [] := by
      by_contra hvaries
      exact h (.inl ⟨hvaries, hframes⟩)
    rw [hvaries]
    cases hbasename : firstBasename ops with
    | none => simp
    | some name =>
      obtain ⟨s, rfl⟩ := text_firstBasename hops name hbasename
      by_cases hs : s = "" <;> simp [Value.isTruthy, Value.str?, hs]
  | some n =>
    have hn : ¬ n < 1 := fun hn => h (.inr ⟨n, hframes, hn⟩)
    dsimp only
    rw [if_neg hn, checkRanges_eq hproper]
    cases firstBasename ops with
    | none => simp
    | some name => simp

/-! ## Plans -/

/-- In an animation, every knob in motion has a name that can be a key, or moves in none of the frames. -/
def Nameable (ops : List (Opcode α)) : Prop :=
  1 < frameCount ops → ∀ v ∈ varies ops, v.target.label?.isSome = true ∨ frameCount ops ≤ v.first

theorem plan_of_error {e : Error} (h : (discover default ops).2 = .error e) :
    (plan default ops).2 = .error e := by
  unfold plan
  split
  · next heq =>
    rw [heq] at h
    cases h
    rfl
  · next heq =>
    rw [heq] at h
    cases h

/-- **Plans that are made.** They have a timeline exactly if there is more than one frame. -/
theorem plan_eq (hops : TextBasenames ops) (h : ¬ Unsettled ops) (hproper : ∀ v ∈ varies ops, v.Proper)
    (hnames : Nameable ops) : ∃ timeline knobs,
      plan default ops = (warnings default ops ++ [.planned ⟨frameCount ops, chosenBasename default ops⟩ knobs],
        .ok ⟨⟨frameCount ops, chosenBasename default ops⟩, timeline⟩) ∧
      (timeline.isSome = true ↔ 1 < frameCount ops) ∧
      ∀ t, timeline = some t → (t.frames.length : Int) = frameCount ops := by
  unfold plan timelineFor Settings.animated
  rw [discover_eq default hops h hproper]
  dsimp only
  by_cases hcount : 1 < frameCount ops
  · have hfits : ∀ v ∈ varies ops, v.Fits (frameCount ops) := fun v hv => ⟨hproper v hv, hnames hcount v hv⟩
    rw [if_pos (decide_eq_true hcount), Timeline.build_eq hfits]
    refine ⟨_, _, rfl, by simpa using hcount, ?_⟩
    rintro t ⟨⟩
    rw [Timeline.length_framesFrom]
    omega
  · rw [if_neg (by simpa using hcount)]
    exact ⟨none, [], rfl, by simpa using hcount, nofun⟩

/-- A name that cannot be a key is refused once all ranges are ranges. -/
theorem plan_unnameable (hops : TextBasenames ops) (h : ¬ Unsettled ops) (hproper : ∀ v ∈ varies ops, v.Proper)
    (hnames : ¬ Nameable ops) : (plan default ops).2 = .error .unhashable := by
  obtain ⟨hcount, hmisfit⟩ := Classical.not_imp.mp hnames
  have hfits : ¬ ∀ v ∈ varies ops, v.Fits (frameCount ops) := fun hall =>
    hmisfit fun v hv => (hall v hv).2
  obtain ⟨before, v, after, hvaries, hbefore, hv⟩ := exists_first_failing hfits
  have hrange : v.Proper := hproper v (hvaries ▸ List.mem_append_right _ List.mem_cons_self)
  unfold plan timelineFor Settings.animated
  rw [discover_eq default hops h hproper]
  dsimp only
  rw [if_pos (decide_eq_true hcount), hvaries, (Timeline.build_misfit hbefore v after).2 hrange hv]
  rfl

/-- The first range that is none is what a settled program is refused for. -/
theorem plan_improper (hops : TextBasenames ops) (h : ¬ Unsettled ops) {before after : List (Vary Float)}
    {v : Vary Float} (hvaries : varies ops = before ++ v :: after) (hbefore : ∀ u ∈ before, u.Proper)
    (hv : ¬ v.Proper) :
    (plan default ops).2 = .error (if v.target.isWritable = true then v.rangeError else .unwritable) := by
  rw [plan_of_error default (discover_improper default hops h hvaries hbefore hv), Vary.settled_rangeError]

/-- Where some range is none, a settled program is refused for one. -/
theorem plan_some_improper (hops : TextBasenames ops) (h : ¬ Unsettled ops)
    (himproper : ∃ v ∈ varies ops, ¬ v.Proper) : ∃ v ∈ varies ops, (plan default ops).2 =
      .error (if v.target.isWritable = true then v.rangeError else .unwritable) := by
  obtain ⟨before, v, after, hvaries, hbefore, hv⟩ :=
    exists_first_failing (p := Vary.Proper) (by simpa using himproper)
  refine ⟨v, ?_, plan_improper default hops h hvaries hbefore hv⟩
  rw [hvaries]
  exact List.mem_append_right _ List.mem_cons_self

/-- A program with settings is refused for a range or for a name, never for its settings. -/
theorem not_config_of_settled (hops : TextBasenames ops) (h : ¬ Unsettled ops) {e : Error}
    (he : (plan default ops).2 = .error e) : e.kind ≠ .config := by
  by_cases hproper : ∀ v ∈ varies ops, v.Proper
  · by_cases hnames : Nameable ops
    · obtain ⟨timeline, knobs, hplan, -⟩ := plan_eq default hops h hproper hnames
      rw [hplan] at he
      cases he
    · rw [plan_unnameable default hops h hproper hnames] at he
      cases he
      exact nofun
  · obtain ⟨v, -, hv⟩ := plan_some_improper default hops h (by simpa using hproper)
    rw [hv] at he
    cases he
    split
    · rw [v.kind_rangeError]
      exact nofun
    · exact nofun

theorem plan_unsettled (hops : TextBasenames ops) (h : Unsettled ops) :
    ∃ e, (plan default ops).2 = .error e ∧ e.kind = .config := by
  obtain ⟨e, he, hkind⟩ := discover_unsettled default hops h
  exact ⟨e, plan_of_error default he, hkind⟩

/-- Where there is a plan, or a range is refused, there are settings. -/
theorem settled_of_plan (hops : TextBasenames ops) {p : Plan Float} (hp : (plan default ops).2 = .ok p) :
    ¬ Unsettled ops := by
  intro h
  obtain ⟨e, he, -⟩ := plan_unsettled default hops h
  cases he.symm.trans hp

theorem settled_of_range (hops : TextBasenames ops) {e : Error} (he : (plan default ops).2 = .error e)
    (hkind : e.kind = .range) : ¬ Unsettled ops := by
  intro h
  obtain ⟨e', he', hkind'⟩ := plan_unsettled default hops h
  cases he.symm.trans he'
  cases hkind.symm.trans hkind'

/-- Texts can be keys. -/
theorem nameable_of_texts (htexts : ∀ v ∈ varies ops, ∃ s, v.target = .str s) : Nameable ops := by
  intro _ v hv
  obtain ⟨s, hs⟩ := htexts v hv
  exact .inl (by rw [hs]; rfl)

/-- A target that is a text can be shown. -/
theorem plan_range_of_texts (hops : TextBasenames ops) (htexts : ∀ v ∈ varies ops, ∃ s, v.target = .str s)
    (h : ¬ Unsettled ops) (himproper : ∃ v ∈ varies ops, ¬ v.Proper) :
    ∃ e, (plan default ops).2 = .error e ∧ e.kind = .range := by
  obtain ⟨v, hv, hplan⟩ := plan_some_improper default hops h himproper
  obtain ⟨s, hs⟩ := htexts v hv
  have hwritable : v.target.isWritable = true := by
    rw [hs]
    rfl
  exact ⟨v.rangeError, by rw [hplan, if_pos hwritable], v.kind_rangeError⟩

theorem plan_of_texts (hops : TextBasenames ops) (htexts : ∀ v ∈ varies ops, ∃ s, v.target = .str s)
    (h : ¬ Unsettled ops) (hproper : ∀ v ∈ varies ops, v.Proper) : ∃ p, (plan default ops).2 = .ok p := by
  obtain ⟨timeline, knobs, hplan, -⟩ := plan_eq default hops h hproper (nameable_of_texts htexts)
  exact ⟨_, congrArg Prod.snd hplan⟩

/-- All that is reported of a program with settings are warnings. -/
theorem level_of_warnings : ∀ n ∈ warnings default ops, n.record.level = .warning := by
  intro n hn
  rcases List.mem_append.mp hn with hn | hn
  · rcases List.mem_append.mp hn with hn | hn
    · obtain ⟨op, -, hn⟩ := List.mem_filterMap.mp hn
      cases op
      case frames count =>
        obtain ⟨first, -, hn⟩ := Option.bind_eq_some_iff.mp hn
        split at hn <;> cases hn
        rfl
      case basename name =>
        obtain ⟨first, -, hn⟩ := Option.bind_eq_some_iff.mp hn
        split at hn <;> cases hn
        rfl
      all_goals cases hn
    · obtain ⟨v, -, hn⟩ := List.mem_filterMap.mp hn
      unfold Vary.beyond? at hn
      split at hn <;> cases hn
      rfl
  · split at hn
    · rw [List.mem_singleton.mp hn]
      rfl
    · cases hn

end

/-- **What planning decides and reports.** A program whose base names are texts has no settings exactly if knobs
    move without frames, or there are fewer frames than one. With settings, the first range that is none is
    refused, with a message that shows its target if that can be shown. With all ranges ranges, a plan
    fails at most for a knob of an animation whose name cannot be a key. Otherwise there is a plan, with the
    first number of frames and the first base name, with a timeline of so many frames exactly if there is
    more than one, and with these warnings. So where all targets are texts, ranges alone decide. -/
theorem planned_outcome (default : Name) {ops : List (Opcode Float)} (hops : TextBasenames ops) :
    ((∃ e, (plan default ops).2 = .error e ∧ e.kind = .config) ↔ Unsettled ops) ∧
    (¬ Unsettled ops → ∀ (before : List (Vary Float)) (v : Vary Float) (after : List (Vary Float)),
      varies ops = before ++ v :: after → (∀ u ∈ before, u.Proper) → ¬ v.Proper →
      v.rangeError.kind = .range ∧
        (plan default ops).2 = .error (if v.target.isWritable = true then v.rangeError else .unwritable)) ∧
    (¬ Unsettled ops → (∀ v ∈ varies ops, v.Proper) → ¬ Nameable ops →
      (plan default ops).2 = .error .unhashable) ∧
    (¬ Unsettled ops → (∀ v ∈ varies ops, v.Proper) → Nameable ops →
      ∃ p, (plan default ops).2 = .ok p ∧
        p.settings = ⟨frameCount ops, chosenBasename default ops⟩ ∧
        (p.timeline.isSome = true ↔ 1 < frameCount ops) ∧
        (∀ t, p.timeline = some t → (t.frames.length : Int) = frameCount ops) ∧
        (plan default ops).1.filter (fun n => n.record.level = .warning) = warnings default ops) ∧
    ((∀ v ∈ varies ops, ∃ s, v.target = .str s) →
      ((∃ e, (plan default ops).2 = .error e ∧ e.kind = .range) ↔
        ¬ Unsettled ops ∧ ∃ v ∈ varies ops, ¬ v.Proper) ∧
      ((∃ p, (plan default ops).2 = .ok p) ↔ ¬ Unsettled ops ∧ ∀ v ∈ varies ops, v.Proper)) := by
  refine ⟨⟨?settled, plan_unsettled default hops⟩, ?ranges, fun h => plan_unnameable default hops h,
    ?planned, fun htexts => ⟨?refused, ?accepted⟩⟩
  case settled =>
    rintro ⟨e, he, hkind⟩
    by_contra h
    exact not_config_of_settled default hops h he hkind
  case ranges =>
    intro h before v after hvaries hbefore hv
    exact ⟨v.kind_rangeError, plan_improper default hops h hvaries hbefore hv⟩
  case planned =>
    intro h hproper hnames
    obtain ⟨timeline, knobs, hplan, hanimated, hlength⟩ := plan_eq default hops h hproper hnames
    refine ⟨_, congrArg Prod.snd hplan, rfl, hanimated, hlength, ?_⟩
    have hall : (warnings default ops).filter (fun n => n.record.level = .warning) = warnings default ops :=
      List.filter_eq_self.mpr fun n hn => decide_eq_true (level_of_warnings default n hn)
    rw [hplan, List.filter_append, hall]
    exact List.append_nil _
  case refused =>
    constructor
    · rintro ⟨e, he, hkind⟩
      have h := settled_of_range default hops he hkind
      refine ⟨h, ?_⟩
      by_contra hproper
      obtain ⟨p, hp⟩ := plan_of_texts default hops htexts h (by simpa using hproper)
      cases he.symm.trans hp
    · rintro ⟨h, himproper⟩
      exact plan_range_of_texts default hops htexts h himproper
  case accepted =>
    constructor
    · rintro ⟨p, hp⟩
      have h := settled_of_plan default hops hp
      refine ⟨h, ?_⟩
      by_contra hproper
      obtain ⟨e, he, -⟩ := plan_range_of_texts default hops htexts h (by simpa using hproper)
      cases he.symm.trans hp
    · rintro ⟨h, hproper⟩
      exact plan_of_texts default hops htexts h hproper

/-- The first number of frames and the first base name count; another base name and a range beyond the last
    frame are reported. -/
theorem planned_outcome_reel :
    let ops : List (Opcode Float) :=
      [.basename (.str "a"), .frames 2, .vary (.str "x") 0 3 0 1, .basename (.str "b"), .frames 2]
    ∃ p, (plan (.str "default") ops).2 = .ok p ∧ p.settings = ⟨2, .str "a"⟩ ∧ p.timeline.isSome = true ∧
      (plan (.str "default") ops).1.filter (fun n => n.record.level = .warning) =
        [.basenameIgnored (.str "b") (.str "a"), .beyondLast (.str "x") 0 3 1] := by
  intro ops
  have hops : TextBasenames ops := by
    simp [TextBasenames, ops, Opcode.basename?]
  have hframes : firstFrames ops = some 2 := rfl
  have hsettled : ¬ Unsettled ops := by
    simp [Unsettled, hframes]
  have hproper : ∀ v ∈ varies ops, v.Proper := by
    simp [varies, ops, Opcode.vary?, Vary.Proper]
  have hnames : Nameable ops := by
    simp [Nameable, varies, ops, Opcode.vary?, Value.label?]
  obtain ⟨p, hp, hsettings, hanimated, -, hwarnings⟩ :=
    (planned_outcome (.str "default") hops).2.2.2.1 hsettled hproper hnames
  exact ⟨p, hp, hsettings, hanimated.mpr (by decide), hwarnings⟩

/-- A range that is one, in a program with settings, and no plan: a list cannot be a key of a frame. -/
theorem listed_target_unplanned :
    let ops : List (Opcode Float) := [.frames 2, .vary (.list [.int 1]) 0 1 0 1]
    TextBasenames ops ∧ ¬ Unsettled ops ∧ (∀ v ∈ varies ops, v.Proper) ∧
      (plan (.str "default") ops).2 = .error .unhashable := by
  intro ops
  have hframes : firstFrames ops = some 2 := rfl
  refine ⟨?_, ?_, ?_, rfl⟩
  · simp [TextBasenames, ops, Opcode.basename?]
  · simp [Unsettled, hframes]
  · simp [varies, ops, Opcode.vary?, Vary.Proper]

end Wireframe
