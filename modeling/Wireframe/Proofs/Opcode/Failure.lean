import Wireframe.Opcode.Parse
import Wireframe.Proofs.Dict
import Wireframe.Proofs.Document.Atoms
import Wireframe.Proofs.Failure

/-!
# `Wireframe.Proofs.Opcode.Failure` — how reading a program fails

Whatever is wrong with an item is reported for the item, with its place at the head of the message. The one
thing that is not is the size of integers: one beyond the doubles overflows where a number is read, and
one with too many digits cannot be shown in the report. A program is read item by item, and the first
item that cannot be read decides.

## Contents
- `toFloat_within_of`, `toVec3_within`, `toWhole_within`, `axis_within`: the kinds of failures of values.
- `Fields.All`, `Fields.Readable`, `build_within`, `cornerFromSize_within`: those of fields.
- `Error.NamesItem`, `Reports`: failures that are reported for an item.
- `withArguments_reports`, `ofFields_reports`, `inItem_reports`: parts of items.
- `Escapes`, `parseItem_fails`: items.
- `parseItems_ok`, `FirstFailure`, `parseItems_error`: items one after the other.
- `Lists`, `parseProgram_unlisted`, `parseProgram_fails`: documents.
- `reading_failures`: how items and programs fail.
-/

namespace Wireframe

open Document

variable {β γ : Type}

/-! ## Failures of values -/

section
variable {kinds : List Kind} (hkinds : [Kind.type, Kind.value] ⊆ kinds)
include hkinds

/-- A number fails to be read for its kind or its text, or because it is beyond the doubles. -/
theorem toFloat_within_of {v : Value} (h : Kind.overflow ∈ kinds ∨ v.Readable) : Within kinds v.toFloat := by
  intro e he
  have hkind := toFloat_within v e he
  simp only [List.mem_cons, List.not_mem_nil, or_false] at hkind
  rcases hkind with hkind | hkind | hkind
  · rw [hkind]
    exact hkinds (by decide)
  · rw [hkind]
    exact hkinds (by decide)
  · rw [hkind]
    refine h.resolve_right ?_
    intro hread
    -- only an integer beyond the doubles is too large
    obtain ⟨n, rfl, rfl⟩ := (toFloat_kind he).mp hkind
    have hfinite : (Decimal.ofInt n).isFinite = true := hread (.int n) (.atom _)
    rw [toFloat_large.mp he] at hfinite
    cases hfinite

theorem toFloats_within_of {items : List Value} (h : Kind.overflow ∈ kinds ∨ ∀ v ∈ items, v.Readable) :
    Within kinds (Value.toFloats items) := by
  rw [toFloats_eq_mapM]
  apply Within.mapM
  intro v hv
  exact toFloat_within_of hkinds (h.imp_right fun hread => hread v hv)

theorem toVec3_within (name : String) {v : Value} (h : Kind.overflow ∈ kinds ∨ v.Readable) :
    Within kinds (v.toVec3 name) := by
  have hvector : Within kinds (.error (Error.notVector name v).settled : Except Error (Vec3 Float)) :=
    .settled (show Kind.value ∈ kinds from hkinds (by decide)) (hkinds (by decide))
  unfold Value.toVec3
  split
  · exact hvector
  · next items hitems =>
    have hparts := toFloats_within_of hkinds (h.imp_right fun h => h.items hitems)
    split
    · exact .ok _
    · exact .error (show Kind.value ∈ kinds from hkinds (by decide))
    · next e he =>
      -- a part that is no number makes it no vector; one that is too large is told as such
      split
      · exact hvector
      · exact .error (hparts e he)

theorem toWhole_within (name : String) {v : Value} (h : Kind.overflow ∈ kinds ∨ v.Readable) :
    Within kinds (v.toWhole name) := by
  have hwhole : ∀ v, Within kinds (.error (Error.notWhole name v).settled : Except Error Int) := fun v =>
    .settled (show Kind.value ∈ kinds from hkinds (by decide)) (hkinds (by decide))
  unfold Value.toWhole
  split
  · exact hwhole _
  · refine (toFloat_within_of hkinds h).bind fun x _ => ?_
    split
    · exact .ok _
    · exact hwhole _

theorem axis_within {v : Value} (h : Kind.overflow ∈ kinds ∨ v.Readable) : Within kinds (Axis.ofValue v) := by
  unfold Axis.ofValue
  dsimp only
  split
  · next e he =>
    -- only an integer is refused before it is compared
    split at he
    · next n =>
      split at he
      · cases he
      · next hinfinite =>
        cases he
        exact .error (h.resolve_right fun hread => hinfinite (hread (.int n) (.atom _)))
    · cases he
    · cases he
    · cases he
  · exact .ok _
  · exact .settled (show Kind.value ∈ kinds from hkinds (by decide)) (hkinds (by decide))

end

/-! ## Fields -/

namespace Fields

variable {fs : Fields} {P : Atom → Prop}

/-- All atoms in the contents of the fields have a property. -/
def All (P : Atom → Prop) (fs : Fields) : Prop := ∀ e ∈ fs.entries, e.2.All P

/-- The contents of all fields are readable. -/
def Readable (fs : Fields) : Prop := fs.All Atom.Readable

theorem All.content (h : fs.All P) (hnull : P .null) (name : String) : (fs.content name).All P := by
  rw [Fields.content]
  cases hfind : fs.find? (.text name) with
  | none => exact Value.all_atom hnull
  | some v =>
    obtain ⟨e, he, -, rfl⟩ := Dict.exists_of_find hfind
    exact h e he

theorem Readable.content (h : fs.Readable) (name : String) : (fs.content name).Readable :=
  All.content h trivial name

theorem All.erase (h : fs.All P) (k : Label) : All P (Dict.erase fs k) :=
  fun e he => h e (List.mem_filter.mp he).1

theorem Readable.insert (h : fs.Readable) (k : Label) {v : Value} (hv : v.Readable) :
    Readable (Dict.insert fs k v) := by
  obtain ⟨entries⟩ := fs
  intro e he
  change e ∈ Dict.insertIn k v entries at he
  induction entries with
  | nil =>
    rw [List.mem_singleton.mp he]
    exact hv
  | cons entry rest ih =>
    simp only [Dict.insertIn] at he
    split at he
    · rcases List.mem_cons.mp he with rfl | he
      · exact hv
      · exact h e (List.mem_cons_of_mem _ he)
    · rcases List.mem_cons.mp he with rfl | he
      · exact h _ List.mem_cons_self
      · exact ih (fun e he => h e (List.mem_cons_of_mem _ he)) he

end Fields

/-- The fields of an item hold what the item holds, or the keyword that it is. -/
theorem all_itemFields {P : Atom → Prop} {item : Value} {fs : Fields} (htext : ∀ s, P (.text s))
    (h : item.All P) (hfs : itemFields? item = some fs) : fs.All P := by
  have hopened := h.opened
  unfold itemFields? at hfs
  split at hfs
  · cases hfs
    intro e he
    rw [List.mem_singleton.mp he]
    exact Value.all_atom (htext _)
  · next entries heq =>
    split at hfs
    · cases hfs
      rw [heq] at hopened
      exact fun e he a ha => hopened a (.entry he ha)
    · cases hfs
  · cases hfs

section
variable {kinds : List Kind} (hkinds : [Kind.type, Kind.value] ⊆ kinds)
include hkinds

theorem build_within (form : Form) {fs : Fields} (h : Kind.overflow ∈ kinds ∨ fs.Readable) :
    Within kinds (form.build fs) := by
  have hcontent : ∀ name, Kind.overflow ∈ kinds ∨ (fs.content name).Readable := fun name =>
    h.imp_right fun h => h.content name
  have hpoint : ∀ name, Within kinds (fs.point name) := fun name => toVec3_within hkinds name (hcontent name)
  have hnumber : ∀ name, Within kinds (fs.number name) := fun name => toFloat_within_of hkinds (hcontent name)
  have hwhole : ∀ name, Within kinds (fs.whole name) := fun name => toWhole_within hkinds name (hcontent name)
  cases form with
  | move => exact (hpoint _).bind fun _ _ => .ok _
  | scale => exact (hpoint _).bind fun _ _ => .ok _
  | rotate => exact (axis_within hkinds (hcontent _)).bind fun _ _ => (hnumber _).bind fun _ _ => .ok _
  | box => exact (hpoint _).bind fun _ _ => (hpoint _).bind fun _ _ => .ok _
  | sphere => exact (hpoint _).bind fun _ _ => (hnumber _).bind fun _ _ => .ok _
  | torus =>
    exact (hpoint _).bind fun _ _ => (hnumber _).bind fun _ _ => (hnumber _).bind fun _ _ => .ok _
  | line => exact (hpoint _).bind fun _ _ => (hpoint _).bind fun _ _ => .ok _
  | set => exact (hnumber _).bind fun _ _ => .ok _
  | setKnobs => exact (hnumber _).bind fun _ _ => .ok _
  | frames => exact (hwhole _).bind fun _ _ => .ok _
  | vary =>
    exact (hwhole _).bind fun _ _ => (hwhole _).bind fun _ _ => (hnumber _).bind fun _ _ =>
      (hnumber _).bind fun _ _ => .ok _
  | _ => exact .ok _

theorem partCount_within (v : Value) : Within kinds (partCount v) := by
  unfold partCount
  split
  · exact .ok _
  · exact .error (show Kind.type ∈ kinds from hkinds (by decide))

theorem partNumbers_within {v : Value} (h : Kind.overflow ∈ kinds ∨ v.Readable) :
    Within kinds (partNumbers v) := by
  refine toFloats_within_of hkinds (h.imp_right fun h => ?_)
  cases hitems : v.items? with
  | none => exact fun u hu => absurd hu List.not_mem_nil
  | some items => exact h.items hitems

theorem cornerFromSize_within {fs : Fields} (h : Kind.overflow ∈ kinds ∨ fs.Readable) :
    Within kinds (cornerFromSize fs) := by
  have hsize : Within kinds (.error Error.boxSize : Except Error Fields) :=
    .error (show Kind.value ∈ kinds from hkinds (by decide))
  have hcorner : Kind.overflow ∈ kinds ∨
      (Fields.content (Dict.erase fs (.text "size")) "corner0").Readable :=
    h.imp_right fun h => Fields.Readable.content (Fields.All.erase h _) _
  unfold cornerFromSize
  dsimp only
  split
  · exact hsize
  · refine (partCount_within hkinds _).bind fun n _ => ?_
    split
    · exact hsize
    · refine (partCount_within hkinds _).bind fun n _ => ?_
      split
      · exact hsize
      · refine (partNumbers_within hkinds hcorner).bind fun xs _ => ?_
        refine (partNumbers_within hkinds (h.imp_right fun h => h.content _)).bind fun ys _ => ?_
        split
        · exact .ok _
        · exact hsize

end

/-- The opposite corner of a box is readable, as all numbers are that were read. -/
theorem readable_cornerFromSize {fs fs' : Fields} (h : fs.Readable) (hfs : cornerFromSize fs = .ok fs') :
    fs'.Readable := by
  unfold cornerFromSize at hfs
  dsimp only at hfs
  split at hfs
  · cases hfs
  · obtain ⟨n, -, hfs⟩ := bind_ok hfs
    split at hfs
    · cases hfs
    · obtain ⟨n, -, hfs⟩ := bind_ok hfs
      split at hfs
      · cases hfs
      · obtain ⟨xs, -, hfs⟩ := bind_ok hfs
        obtain ⟨ys, -, hfs⟩ := bind_ok hfs
        split at hfs
        · cases hfs
          refine Fields.Readable.insert (Fields.All.erase h _) _ fun a ha => ?_
          obtain ⟨v, hv, ha⟩ : ∃ v, v ∈ _ ∧ Value.Has v a := by
            cases ha with
            | tuple hv h => exact ⟨_, hv, h⟩
          simp only [List.mem_cons, List.not_mem_nil, or_false] at hv
          rcases hv with rfl | rfl | rfl <;> cases ha <;> trivial
        · cases hfs

/-! ## Reports -/

namespace Error

/-- The failure is reported for an item, with its place at the head of the message. -/
def NamesItem (index : Int) (e : Error) : Prop :=
  e.kind = .opcode ∧ ∃ rest, e.message? = some ("#" ++ toString index ++ rest)

/-- The place of the item that a cause is about. -/
def place? : Error → Option Int
  | itemWithoutOp index _ | unknownOpcode index _ | badArguments index _ _ _ | givenTwice index _ _
  | unknownFields index _ _ | badField index _ _ => some index
  | _ => none

theorem namesItem_of_place {e : Error} {index : Int} (h : e.place? = some index) : e.NamesItem index := by
  unfold place? at h
  split at h <;> cases h
  all_goals
    refine ⟨rfl, ?_, ?_⟩
    on_goal 2 =>
      simp only [message?, String.append_assoc]
      rfl

end Error

/-- A failure, if there is one, is reported for the item, or it is of one of these kinds. -/
def Reports (index : Int) (kinds : List Kind) (r : Except Error β) : Prop :=
  ∀ e, r = .error e → e.NamesItem index ∨ e.kind ∈ kinds

namespace Reports

variable {index : Int} {kinds : List Kind}

theorem ok (b : β) : Reports index kinds (.ok b : Except Error β) := nofun

theorem error {e : Error} (h : e.place? = some index) : Reports index kinds (.error e : Except Error β) := by
  intro e' he
  cases he
  exact .inl (Error.namesItem_of_place h)

theorem of_within {r : Except Error β} (h : Within kinds r) : Reports index kinds r :=
  fun e he => .inr (h e he)

theorem bind {r : Except Error β} {f : β → Except Error γ} (hr : Reports index kinds r)
    (hf : ∀ b, r = .ok b → Reports index kinds (f b)) : Reports index kinds (r >>= f) := by
  cases r with
  | error e =>
    intro e' he
    cases he
    exact hr e rfl
  | ok b => exact hf b rfl

/-- A cause whose values can be shown can be written. -/
theorem settled {e : Error} (h : e.place? = some index)
    (hvalues : Kind.value ∈ kinds ∨ ∀ v ∈ e.values, v.isWritable = true) :
    Reports index kinds (.error e.settled : Except Error β) := by
  unfold Error.settled
  split
  · exact error h
  · next hlong =>
    rcases hvalues with hvalue | hvalues
    · exact of_within (.error (show Kind.value ∈ kinds from hvalue))
    · exact absurd (List.all_eq_true.mpr hvalues) hlong

end Reports

/-- The kind of a failure. -/
def failure? (r : Except Error β) : Option Kind :=
  match r with
  | .error e => some e.kind
  | .ok _ => none

theorem exists_of_failure {r : Except Error β} {k : Kind} (h : failure? r = some k) :
    ∃ e, r = .error e ∧ e.kind = k := by
  cases r with
  | error e => exact ⟨e, rfl, Option.some.inj h⟩
  | ok b => cases h

/-! ## Items -/

theorem checkUnknown_reports (index : Int) (kinds : List Kind) (keyword : String) (form : Form) (fs : Fields) :
    Reports index kinds (checkUnknown index keyword form fs) := by
  unfold checkUnknown
  dsimp only
  split
  · exact .ok _
  · split
    · exact .error rfl
    · exact .error rfl

theorem ofFields_reports {kinds : List Kind} (hkinds : [Kind.type, Kind.value] ⊆ kinds) (form : Form)
    (index : Int) (keyword : String) {fs : Fields} (h : Kind.overflow ∈ kinds ∨ fs.Readable) :
    Reports index kinds (form.ofFields index keyword fs) := by
  -- once the size of a box is replaced, its fields are checked as all others
  have hrest : ∀ fs : Fields, (Kind.overflow ∈ kinds ∨ fs.Readable) →
      Reports index kinds (do
        checkUnknown index keyword form fs
        if form.required.any fun n => !fs.contains (.text n) then throw .wrongArguments
        form.build fs) := by
    intro fs h
    refine (checkUnknown_reports index kinds keyword form fs : Reports index kinds _).bind fun _ _ => ?_
    split
    · exact .of_within (.error (show Kind.type ∈ kinds from hkinds (by decide)))
    · exact .of_within (build_within hkinds form h)
  unfold Form.ofFields
  dsimp only
  split
  · refine (Reports.of_within (cornerFromSize_within hkinds h)).bind fun fs' hfs' => ?_
    exact hrest fs' (h.imp_right fun h => readable_cornerFromSize h hfs')
  · exact hrest fs h

theorem addArguments_reports (index : Int) (kinds : List Kind) (keyword : String) (fs : Fields)
    (args : List (String × Value)) : Reports index kinds (addArguments index keyword fs args) := by
  induction args generalizing fs with
  | nil => exact .ok fs
  | cons arg args ih =>
    rw [addArguments]
    split
    · exact .error rfl
    · exact ih _

theorem readable_addArguments {index : Int} {keyword : String} {fs fs' : Fields} {args : List (String × Value)}
    (h : fs.Readable) (hargs : ∀ arg ∈ args, arg.2.Readable)
    (hfs : addArguments index keyword fs args = .ok fs') : fs'.Readable := by
  induction args generalizing fs with
  | nil =>
    cases hfs
    exact h
  | cons arg args ih =>
    rw [addArguments] at hfs
    split at hfs
    · cases hfs
    · exact ih (h.insert _ (hargs arg List.mem_cons_self))
        (fun arg harg => hargs arg (List.mem_cons_of_mem _ harg)) hfs

theorem withArguments_reports {kinds : List Kind} (form : Form) (index : Int) (keyword : String) {fs : Fields}
    (h : Kind.value ∈ kinds ∨ fs.All (·.isWritable = true)) :
    Reports index kinds (withArguments form index keyword fs) := by
  have hrefused : Reports index kinds
      (.error (Error.badArguments index keyword form.fieldNames.length (fs.content "args")).settled :
        Except Error Fields) := by
    refine .settled rfl (h.imp_right fun h v hv => ?_)
    rw [List.mem_singleton.mp hv]
    exact Value.isWritable_of_all (h.content rfl _)
  unfold withArguments
  dsimp only
  split
  · exact .ok _
  · split
    · exact hrefused
    · exact addArguments_reports index kinds keyword _ _
  · split
    · exact hrefused
    · exact addArguments_reports index kinds keyword _ _
  · exact hrefused

theorem readable_withArguments {form : Form} {index : Int} {keyword : String} {fs fs' : Fields}
    (h : fs.Readable) (hfs : withArguments form index keyword fs = .ok fs') : fs'.Readable := by
  have hargs : ∀ vs : List Value, (∀ v ∈ vs, v.Readable) →
      ∀ arg ∈ form.fieldNames.zip vs, arg.2.Readable := fun vs hvs arg harg =>
    hvs _ (List.of_mem_zip harg).2
  have hopened := Value.All.opened (h.content "args")
  unfold withArguments at hfs
  dsimp only at hfs
  split at hfs
  · cases hfs
    exact Fields.All.erase h _
  · next vs heq =>
    rw [heq] at hopened
    split at hfs
    · cases hfs
    · exact readable_addArguments (Fields.All.erase h _) (hargs vs fun v hv a ha => hopened a (.list hv ha)) hfs
  · next vs heq =>
    rw [heq] at hopened
    split at hfs
    · cases hfs
    · exact readable_addArguments (Fields.All.erase h _) (hargs vs fun v hv a ha => hopened a (.tuple hv ha)) hfs
  · cases hfs

/-- Failures of the fields are reported for the item, unless a number is too large. -/
theorem inItem_reports {index : Int} {kinds : List Kind} (keyword : String) {e : Error}
    (h : e.NamesItem index ∨ e.kind ∈ Kind.type :: Kind.value :: kinds) :
    Reports index kinds (.error (inItem index keyword e) : Except Error β) := by
  unfold inItem
  split
  · exact .error rfl
  · next hkind =>
    rw [Bool.or_eq_true, beq_iff_eq, beq_iff_eq, not_or] at hkind
    intro e' he
    cases he
    refine h.imp_right fun h => ?_
    exact List.mem_of_ne_of_mem hkind.2 (List.mem_of_ne_of_mem hkind.1 h)

theorem parseItem_reports {kinds : List Kind} {item : Value} (index : Int)
    (hoverflow : Kind.overflow ∈ kinds ∨ item.Readable)
    (hvalue : Kind.value ∈ kinds ∨ item.isWritable = true) : Reports index kinds (parseItem item index) := by
  have hshown := hvalue.imp_right Value.all_of_isWritable
  unfold parseItem
  split
  · next fs hfs =>
    have hshown := hshown.imp_right fun h => all_itemFields (fun _ => rfl) h hfs
    dsimp only
    split
    · next hlong =>
      rcases hshown with hkind | hshown
      · exact .of_within (.error (show Kind.value ∈ kinds from hkind))
      · simp [Value.isWritable_of_all (hshown.content rfl "op")] at hlong
    · split
      · exact .error rfl
      · next form _ =>
        have hothers := hshown.imp_right fun h => h.erase (.text "op")
        refine (withArguments_reports form index _ hothers).bind fun fs' hfs' => ?_
        split
        · exact .ok _
        · next e he =>
          have hfields : Kind.overflow ∈ Kind.type :: Kind.value :: kinds ∨ fs'.Readable := by
            refine hoverflow.imp (fun h => ?_) fun h => ?_
            · exact List.mem_cons_of_mem _ (List.mem_cons_of_mem _ h)
            · have hreadable : fs.Readable := all_itemFields (fun _ => trivial) h hfs
              exact readable_withArguments (hreadable.erase (.text "op")) hfs'
          have hpair : [Kind.type, Kind.value] ⊆ Kind.type :: Kind.value :: kinds :=
            List.cons_subset_cons _ (List.cons_subset_cons _ (List.nil_subset _))
          exact inItem_reports _ (ofFields_reports hpair form index _ hfields e he)
  · refine .settled rfl (hvalue.imp_right fun h v hv => ?_)
    rw [List.mem_singleton.mp hv]
    exact h

/-- The failure is not reported for an item: an integer in the value has no double, or too many digits to
    be shown. -/
def Escapes (e : Error) (v : Value) : Prop :=
  e.kind = .overflow ∧ ¬ v.Readable ∨ e.kind = .value ∧ v.isWritable = false

/-- An item fails with a report for it, unless an integer in it is too large. -/
theorem parseItem_fails {item : Value} {index : Int} {e : Error} (he : parseItem item index = .error e) :
    e.NamesItem index ∨ Escapes e item := by
  have hreports : Reports index [.overflow, .value] (parseItem item index) :=
    parseItem_reports index (.inl (by decide)) (.inl (by decide))
  refine (hreports e he).imp_right fun hkind => ?_
  -- each of the two kinds is left out where the item gives no cause for it
  rcases List.mem_cons.mp hkind with hkind | hkind
  · refine .inl ⟨hkind, fun hreadable => ?_⟩
    have hrest : Reports index [.value] (parseItem item index) :=
      parseItem_reports index (.inr hreadable) (.inl (by decide))
    rcases hrest e he with hnames | hother
    · cases hkind.symm.trans hnames.1
    · cases hkind.symm.trans (List.mem_singleton.mp hother)
  · have hkind := List.mem_singleton.mp hkind
    refine .inr ⟨hkind, Bool.eq_false_iff.mpr fun hwritable => ?_⟩
    have hrest : Reports index [.overflow] (parseItem item index) :=
      parseItem_reports index (.inl (by decide)) (.inr hwritable)
    rcases hrest e he with hnames | hother
    · cases hkind.symm.trans hnames.1
    · cases hkind.symm.trans (List.mem_singleton.mp hother)

/-! ## Programs -/

theorem parseItems_cons_ok {index : Int} {item : Value} {rest : List Value} {ops : List (Opcode Float)} :
    parseItems index (item :: rest) = .ok ops ↔
      ∃ op ops', parseItem item index = .ok op ∧ parseItems (index + 1) rest = .ok ops' ∧
        ops = op :: ops' := by
  rw [parseItems]
  constructor
  · intro h
    obtain ⟨op, hop, h⟩ := bind_ok h
    obtain ⟨ops', hops, h⟩ := bind_ok h
    cases h
    exact ⟨op, ops', hop, hops, rfl⟩
  · rintro ⟨op, ops', hop, hops, rfl⟩
    rw [hop]
    show (parseItems (index + 1) rest >>= fun ops => pure (op :: ops)) = _
    rw [hops]
    rfl

theorem parseItems_cons_error {index : Int} {item : Value} {rest : List Value} {e : Error} :
    parseItems index (item :: rest) = .error e ↔
      parseItem item index = .error e ∨
        ∃ op, parseItem item index = .ok op ∧ parseItems (index + 1) rest = .error e := by
  rw [parseItems]
  cases parseItem item index with
  | error e' => simp [Bind.bind, Except.bind]
  | ok op =>
    cases parseItems (index + 1) rest with
    | error e' => simp [Bind.bind, Except.bind]
    | ok ops => simp [Bind.bind, Except.bind, pure, Except.pure]

theorem place_succ (index : Int) (i : Nat) : index + ((i + 1 : Nat) : Int) = index + 1 + i := by
  omega

/-- Items are read if each of them is, with its own place. -/
theorem parseItems_ok {index : Int} {items : List Value} {ops : List (Opcode Float)} :
    parseItems index items = .ok ops ↔ ops.length = items.length ∧
      ∀ (i : Nat) item op, items[i]? = some item → ops[i]? = some op →
        parseItem item (index + i) = .ok op := by
  induction items generalizing index ops with
  | nil =>
    cases ops with
    | nil => simp [parseItems]
    | cons op ops => simp [parseItems]
  | cons item rest ih =>
    rw [parseItems_cons_ok]
    constructor
    · rintro ⟨op, ops', hop, hops, rfl⟩
      obtain ⟨hlength, hall⟩ := ih.mp hops
      refine ⟨by rw [List.length_cons, List.length_cons, hlength], fun i => ?_⟩
      -- the item at the head has this place, and those after it count from the next one
      cases i with
      | zero =>
        intro item' op' hitem hop'
        cases hitem
        cases hop'
        simpa using hop
      | succ i =>
        intro item' op' hitem hop'
        have hrest := hall i item' op' hitem hop'
        rwa [place_succ]
    · rintro ⟨hlength, hall⟩
      cases ops with
      | nil => cases hlength
      | cons op ops =>
        refine ⟨op, ops, by simpa using hall 0 item op rfl rfl, ih.mpr ⟨Nat.succ.inj hlength, ?_⟩, rfl⟩
        intro i item' op' hitem hop'
        have hrest := hall (i + 1) item' op' hitem hop'
        rwa [place_succ] at hrest

/-- The first item that cannot be read, and its failure. -/
def FirstFailure (index : Int) (items : List Value) (i : Nat) (e : Error) : Prop :=
  (∃ item, items[i]? = some item ∧ parseItem item (index + i) = .error e) ∧
    ∀ j < i, ∀ item, items[j]? = some item → ∃ op, parseItem item (index + j) = .ok op

/-- Items fail to be read for the first one that does. -/
theorem parseItems_error {index : Int} {items : List Value} {e : Error} :
    parseItems index items = .error e ↔ ∃ i, FirstFailure index items i e := by
  induction items generalizing index with
  | nil => simp [parseItems, FirstFailure]
  | cons item rest ih =>
    rw [parseItems_cons_error, ih]
    constructor
    · rintro (he | ⟨op, hop, i, ⟨item', hitem, he⟩, hbefore⟩)
      · exact ⟨0, ⟨item, rfl, by simpa using he⟩, fun j hj => absurd hj (Nat.not_lt_zero j)⟩
      · refine ⟨i + 1, ⟨item', hitem, ?_⟩, fun j hj => ?_⟩
        · rwa [place_succ]
        · cases j with
          | zero =>
            intro item' hitem
            cases hitem
            exact ⟨op, by simpa using hop⟩
          | succ j =>
            intro item' hitem
            rw [place_succ]
            exact hbefore j (Nat.lt_of_succ_lt_succ hj) item' hitem
    · rintro ⟨i, ⟨item', hitem, he⟩, hbefore⟩
      cases i with
      | zero =>
        cases hitem
        exact .inl (by simpa using he)
      | succ i =>
        obtain ⟨op, hop⟩ := hbefore 0 (Nat.succ_pos i) item rfl
        refine .inr ⟨op, by simpa using hop, i, ⟨item', hitem, ?_⟩, fun j hj item' hitem => ?_⟩
        · rwa [place_succ] at he
        · have hrest := hbefore (j + 1) (Nat.succ_lt_succ hj) item' hitem
          rwa [place_succ] at hrest

/-- The part of a document where the items of a program stand. -/
def bodyOf (document : Value) : Option Value :=
  match document.opened with
  | .map entries => (Dict.mk entries).find? (Label.text "ops")
  | v => some v

/-- The document has these items, one after the other; null stands for none. -/
def Lists (document : Value) (items : List Value) : Prop :=
  ∃ body, bodyOf document = some body ∧ (body.opened = .null ∧ items = [] ∨ body.opened = .list items)

theorem parseProgram_eq (document : Value) :
    parseProgram document =
      match bodyOf document with
      | none => .error .withoutOps
      | some body =>
        match body.opened with
        | .null => .ok []
        | .list items => parseItems 0 items
        | v => .error (.notProgram v.typeName) := by
  unfold parseProgram bodyOf
  generalize document.opened = v
  cases v with
  | map entries =>
    dsimp only
    cases (Dict.mk entries).find? (Label.text "ops") <;> rfl
  | _ => rfl

theorem Lists.parseProgram {document : Value} {items : List Value} (h : Lists document items) :
    parseProgram document = parseItems 0 items := by
  obtain ⟨body, hbody, h⟩ := h
  rw [parseProgram_eq, hbody]
  rcases h with ⟨hnull, rfl⟩ | hlist
  · simp only [hnull, parseItems]
  · simp only [hlist]

/-- The items of a document hold what the document holds. -/
theorem Lists.all {P : Atom → Prop} {document : Value} {items : List Value} (h : Lists document items)
    (hall : document.All P) : ∀ item ∈ items, item.All P := by
  obtain ⟨body, hbody, h⟩ := h
  have hopened := hall.opened
  have hpart : body.All P := by
    unfold bodyOf at hbody
    split at hbody
    · next entries heq =>
      obtain ⟨e, he, -, rfl⟩ := Dict.exists_of_find hbody
      rw [heq] at hopened
      exact fun a ha => hopened a (.entry he ha)
    · cases hbody
      exact hopened
  have hitems := hpart.opened
  rcases h with ⟨-, rfl⟩ | hlist
  · exact fun item hitem => absurd hitem List.not_mem_nil
  · rw [hlist] at hitems
    exact fun item hitem a ha => hitems a (.list hitem ha)

/-- What is too large in an item is in the document. -/
theorem Escapes.document {e : Error} {document item : Value} {items : List Value} (h : Escapes e item)
    (hlists : Lists document items) (hitem : item ∈ items) : Escapes e document := by
  refine h.imp (fun ⟨hkind, hreadable⟩ => ⟨hkind, fun hall => ?_⟩) fun ⟨hkind, hlong⟩ => ⟨hkind, ?_⟩
  · exact hreadable (hlists.all hall item hitem)
  · refine Bool.eq_false_iff.mpr fun hwritable => Bool.eq_false_iff.mp hlong ?_
    exact Value.isWritable_of_all (hlists.all (Value.all_of_isWritable hwritable) item hitem)

theorem parseProgram_unlisted {document : Value} (h : ∀ items, ¬ Lists document items) :
    ∃ e, parseProgram document = .error e ∧ e.kind = .opcode := by
  rw [parseProgram_eq]
  split
  · exact ⟨_, rfl, rfl⟩
  · next body hbody =>
    split
    · next hnull => exact absurd ⟨body, hbody, .inl ⟨hnull, rfl⟩⟩ (h [])
    · next items hlist => exact absurd ⟨body, hbody, .inr hlist⟩ (h items)
    · exact ⟨_, rfl, rfl⟩

/-- A program fails with a report, unless an integer in it is too large. -/
theorem parseProgram_fails {document : Value} {e : Error} (he : parseProgram document = .error e) :
    e.kind = .opcode ∨ Escapes e document := by
  by_cases hlists : ∃ items, Lists document items
  · obtain ⟨items, hlists⟩ := hlists
    rw [hlists.parseProgram] at he
    obtain ⟨i, ⟨item, hitem, he⟩, -⟩ := parseItems_error.mp he
    refine (parseItem_fails he).imp (fun h => h.1) fun h => ?_
    exact h.document hlists (List.mem_of_getElem? hitem)
  · obtain ⟨e', he', hkind⟩ := parseProgram_unlisted fun items h => hlists ⟨items, h⟩
    cases he'.symm.trans he
    exact .inl hkind

/-- **Reading failures.** An item that cannot be read is reported with its place, and a program whose items
    cannot be read is reported too, unless an integer in them is too large: one beyond the doubles
    overflows where a number is read, and one with too many digits cannot be shown. A program has one
    instruction for each of its items, which is what the item is read as in its place, or it fails as the
    first of its items does that cannot be read. -/
theorem reading_failures (item document : Value) (index : Int) :
    (∀ e, parseItem item index = .error e → e.NamesItem index ∨ Escapes e item) ∧
    (∀ e, parseProgram document = .error e → e.kind = .opcode ∨ Escapes e document) ∧
    (∀ items, Lists document items →
      (∀ ops, parseProgram document = .ok ops ↔ ops.length = items.length ∧
        ∀ (i : Nat) item op, items[i]? = some item → ops[i]? = some op → parseItem item i = .ok op) ∧
      (∀ e, parseProgram document = .error e ↔ ∃ i, FirstFailure 0 items i e)) ∧
    ((∀ items, ¬ Lists document items) → ∃ e, parseProgram document = .error e ∧ e.kind = .opcode) := by
  refine ⟨fun e => parseItem_fails, fun e => parseProgram_fails, ?_, parseProgram_unlisted⟩
  intro items hlists
  rw [hlists.parseProgram]
  refine ⟨fun ops => ?_, fun e => parseItems_error⟩
  rw [parseItems_ok]
  simp only [Int.zero_add]

theorem reading_failures_turn :
    ∃ e, parseProgram (.list [.str "push", .str "turn"]) = .error e ∧ e.NamesItem 1 := by
  have hlists : Lists (.list [.str "push", .str "turn"]) [.str "push", .str "turn"] :=
    ⟨_, rfl, .inr rfl⟩
  have hkind : failure? (parseItem (.str "turn") 1) = some .opcode := by decide
  obtain ⟨e, he, -⟩ := exists_of_failure hkind
  have hfirst : FirstFailure 0 [.str "push", .str "turn"] 1 e := by
    refine ⟨⟨_, rfl, he⟩, fun j hj item hitem => ?_⟩
    obtain rfl : j = 0 := by omega
    cases hitem
    exact ⟨.push, rfl⟩
  have hfailures := reading_failures (.str "turn") (.list [.str "push", .str "turn"]) 1
  refine ⟨e, ((hfailures.2.2.1 _ hlists).2 e).mpr ⟨1, hfirst⟩, ?_⟩
  refine (hfailures.1 e he).resolve_right fun h => ?_
  rcases h with ⟨-, hreadable⟩ | ⟨-, hlong⟩
  · exact hreadable (Value.readable_str _)
  · cases hlong

/-- The item for a ball whose radius is too large for a double. -/
def hugeBall : Value :=
  .map [(.text "op", .str "sphere"), (.text "center", .list [.int 0, .int 0, .int 0]),
    (.text "radius", .int (10 ^ 400))]

/-- The overflow of a radius is not reported for its item. -/
theorem reading_escaped_radius :
    ∃ e, parseItem hugeBall 3 = .error e ∧ e.kind = .overflow ∧ ¬ e.NamesItem 3 := by
  have hkind : failure? (parseItem hugeBall 3) = some .overflow := by decide +kernel
  obtain ⟨e, he, hkind⟩ := exists_of_failure hkind
  refine ⟨e, he, hkind, fun hnames => ?_⟩
  rw [hnames.1] at hkind
  cases hkind

end Wireframe
