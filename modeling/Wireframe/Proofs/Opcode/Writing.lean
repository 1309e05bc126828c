import Wireframe.Proofs.Decimal.Whole
import Wireframe.Proofs.Opcode.Keyword

/-!
# `Wireframe.Proofs.Opcode.Writing` — instructions written and read again

An instruction can be written as an item: its keyword, and its fields either by name or by position. What
was read once is read from both as the same instruction, since every reading is the identity on what it
yields: a point is a list of three doubles, a whole number is that of its double, an axis has a name, a
field that was left out is null, and no box has a size.

## Contents
- `Field.value`, `Opcode.table`, `Opcode.listed`: instructions as items.
- `point_value`, `number_value`, `whole_value`, `axis_value`, `name_value`: contents of fields.
- `Opcode.Written`, `build_written`: instructions from fields that hold their contents.
- `Fields.named`: fields with different names.
- `withArguments_named`, `withArguments_listed`, `ofFields_named`: items.
- `Form.Prepared`, `ofFields_ok`, `parseFields_ok`, `parseItem_ok`: instructions that were read.
- `parseItem_written`: instructions that were read.
-/

namespace Wireframe

open Document Text

/-! ## Instructions as items -/

/-- A content as a value: a point as the list of its coordinates, an axis by its name. -/
def Field.value : Field Float → Value
  | .point v => .list (v.toList.map .float)
  | .number x => .float x
  | .count n => .int n
  | .axis a => .str a.name
  | .name v => v

/-- Fields with their names. -/
def Fields.named (entries : List (String × Value)) : Fields := ⟨entries.map fun e => (.text e.1, e.2)⟩

namespace Opcode

/-- The fields of an instruction with their values. -/
def entries (op : Opcode Float) : List (String × Value) := op.fields.map fun f => (f.1, f.2.value)

/-- An instruction as an item with its fields by name. -/
def table (op : Opcode Float) : Value :=
  .map ((.text "op", .str op.keyword) :: (Fields.named op.entries).entries)

/-- An instruction as an item with its fields by position. -/
def listed (op : Opcode Float) : Value :=
  .map [(.text "op", .str op.keyword), (.text "args", .list (op.contents.map Field.value))]

end Opcode

/-! ## Contents of fields -/

theorem Document.Value.isNull_iff {v : Value} : v.isNull = true ↔ v = .null := by
  constructor
  · intro h
    unfold isNull at h
    split at h
    · rfl
    · cases h
  · rintro rfl
    rfl

section

variable {fs : Fields} {name : String}

theorem point_value {v : Vec3 Float} (h : fs.content name = (Field.point v).value) :
    fs.point name = .ok v := by
  rw [Fields.point, h]
  rfl

theorem number_value {x : Float} (h : fs.content name = (Field.number x).value) :
    fs.number name = .ok x := by
  rw [Fields.number, h]
  rfl

/-- A whole number that was read came from a double. -/
theorem whole_integer {n : Int} (h : fs.whole name = .ok n) : ∃ x, Decimal.integer? x = some n := by
  unfold Fields.whole Value.toWhole at h
  split at h
  · cases h
  · obtain ⟨x, -, h⟩ := bind_ok h
    split at h
    · next m hm =>
      cases h
      exact ⟨x, hm⟩
    · cases h

theorem whole_value {n : Int} {x : Float} (hn : Decimal.integer? x = some n)
    (h : fs.content name = (Field.count n).value) : fs.whole name = .ok n := by
  obtain ⟨y, hy, hinteger⟩ := Decimal.floatOfInt_of_integer hn
  rw [Fields.whole, h]
  simp only [Field.value, Value.toWhole, Value.toFloat, hy, bind, Except.bind, hinteger]

theorem axis_value {a : Axis} (h : fs.content name = (Field.axis a).value) :
    Axis.ofValue (fs.content name) = .ok a := by
  rw [h]
  cases a <;> exact ok_of_toOption (by decide)

/-- A name that may be left out is not null. -/
theorem name_ne_null : fs.name? name ≠ some .null := by
  unfold Fields.name? Value.present?
  split
  · exact nofun
  · next hnull =>
    intro h
    exact hnull (Value.isNull_iff.mpr (Option.some.inj h))

theorem name_value {n : Option Name} (hn : n ≠ some .null)
    (h : fs.content name = (Opcode.optionalName n : Field Float).value) : fs.name? name = n := by
  rw [Fields.name?, h]
  cases n with
  | none => rfl
  | some v =>
    apply if_neg
    intro hnull
    exact hn (congrArg some (Value.isNull_iff.mp hnull))

end

/-! ## Instructions from fields that hold their contents -/

/-- The fields hold what an instruction consists of. -/
def Opcode.Written (op : Opcode Float) (fs : Fields) : Prop :=
  op.fields.Forall fun f => fs.content f.1 = f.2.value

/-- **Building is the identity on what it yields.** Fields that hold the contents of an instruction that was
    built give that instruction. -/
theorem build_written {form : Form} {fs fs' : Fields} {op : Opcode Float} (h : form.build fs = .ok op)
    (hw : op.Written fs') : op.form = form ∧ form.build fs' = .ok op := by
  cases form with
  | push | pop | display =>
    cases h
    exact ⟨rfl, rfl⟩
  | move | scale =>
    obtain ⟨delta, -, h⟩ := bind_ok h
    cases h
    obtain ⟨hdelta, hknob⟩ := hw
    refine ⟨rfl, ?_⟩
    simp only [Form.build, point_value hdelta, name_value name_ne_null hknob]
    rfl
  | rotate =>
    obtain ⟨axis, -, h⟩ := bind_ok h
    obtain ⟨degrees, -, h⟩ := bind_ok h
    cases h
    obtain ⟨haxis, hdegrees, hknob⟩ := hw
    refine ⟨rfl, ?_⟩
    simp only [Form.build, axis_value haxis, number_value hdegrees, name_value name_ne_null hknob]
    rfl
  | box =>
    obtain ⟨corner0, -, h⟩ := bind_ok h
    obtain ⟨corner1, -, h⟩ := bind_ok h
    cases h
    obtain ⟨hcorner0, hcorner1, hmaterial, hframe⟩ := hw
    refine ⟨rfl, ?_⟩
    simp only [Form.build, point_value hcorner0, point_value hcorner1, name_value name_ne_null hmaterial,
      name_value name_ne_null hframe]
    rfl
  | sphere =>
    obtain ⟨center, -, h⟩ := bind_ok h
    obtain ⟨radius, -, h⟩ := bind_ok h
    cases h
    obtain ⟨hcenter, hradius, hmaterial, hframe⟩ := hw
    refine ⟨rfl, ?_⟩
    simp only [Form.build, point_value hcenter, number_value hradius, name_value name_ne_null hmaterial,
      name_value name_ne_null hframe]
    rfl
  | torus =>
    obtain ⟨center, -, h⟩ := bind_ok h
    obtain ⟨r0, -, h⟩ := bind_ok h
    obtain ⟨r1, -, h⟩ := bind_ok h
    cases h
    obtain ⟨hcenter, hr0, hr1, hmaterial, hframe⟩ := hw
    refine ⟨rfl, ?_⟩
    simp only [Form.build, point_value hcenter, number_value hr0, number_value hr1,
      name_value name_ne_null hmaterial, name_value name_ne_null hframe]
    rfl
  | line =>
    obtain ⟨p0, -, h⟩ := bind_ok h
    obtain ⟨p1, -, h⟩ := bind_ok h
    cases h
    obtain ⟨hp0, hp1, hmaterial, hframe0, hframe1⟩ := hw
    refine ⟨rfl, ?_⟩
    simp only [Form.build, point_value hp0, point_value hp1, name_value name_ne_null hmaterial,
      name_value name_ne_null hframe0, name_value name_ne_null hframe1]
    rfl
  | save =>
    cases h
    exact ⟨rfl, congrArg (Except.ok ∘ Opcode.save) hw⟩
  | set =>
    obtain ⟨value, -, h⟩ := bind_ok h
    cases h
    obtain ⟨htarget, hvalue⟩ := hw
    refine ⟨rfl, ?_⟩
    simp only [Form.build, number_value hvalue, bind, Except.bind]
    exact congrArg (fun target => Except.ok (Opcode.set target value)) htarget
  | setKnobs =>
    obtain ⟨value, -, h⟩ := bind_ok h
    cases h
    refine ⟨rfl, ?_⟩
    simp only [Form.build, number_value hw]
    rfl
  | frames =>
    obtain ⟨count, hcount, h⟩ := bind_ok h
    cases h
    obtain ⟨x, hx⟩ := whole_integer hcount
    refine ⟨rfl, ?_⟩
    simp only [Form.build, whole_value hx hw]
    rfl
  | basename =>
    cases h
    exact ⟨rfl, congrArg (Except.ok ∘ Opcode.basename) hw⟩
  | vary =>
    obtain ⟨first, hfirst, h⟩ := bind_ok h
    obtain ⟨last, hlast, h⟩ := bind_ok h
    obtain ⟨startVal, -, h⟩ := bind_ok h
    obtain ⟨endVal, -, h⟩ := bind_ok h
    cases h
    obtain ⟨x, hx⟩ := whole_integer hfirst
    obtain ⟨y, hy⟩ := whole_integer hlast
    obtain ⟨htarget, hfirst, hlast, hstart, hend⟩ := hw
    refine ⟨rfl, ?_⟩
    simp only [Form.build, whole_value hx hfirst, whole_value hy hlast, number_value hstart,
      number_value hend, bind, Except.bind]
    exact congrArg (fun target => Except.ok (Opcode.vary target first last startVal endVal)) htarget
  | saveCoordSystem =>
    cases h
    exact ⟨rfl, congrArg (Except.ok ∘ Opcode.saveCoordSystem) hw⟩

/-! ## Fields with names -/

namespace Fields

variable {entries : List (String × Value)} {name : String}

theorem find_named_of_not_mem (h : name ∉ entries.map (·.1)) :
    (named entries).find? (.text name) = none := by
  induction entries with
  | nil => rfl
  | cons entry rest ih =>
    rw [List.map_cons, List.mem_cons, not_or] at h
    have hother : (Label.text entry.1 == Label.text name) = false := Label.text_beq_false (Ne.symm h.1)
    show Dict.findIn? (.text name) ((.text entry.1, entry.2) :: (named rest).entries) = none
    simp only [Dict.findIn?, hother, Bool.false_eq_true, if_false]
    exact ih h.2

/-- Only a field that is there is taken out. -/
theorem erase_named (h : name ∉ entries.map (·.1)) :
    Dict.erase (named entries) (.text name) = named entries := by
  refine congrArg Dict.mk (List.filter_eq_self.mpr fun e he => ?_)
  obtain ⟨entry, hentry, rfl⟩ := List.mem_map.mp he
  rw [Bool.not_eq_true', Bool.eq_false_iff, Ne, Label.text_beq]
  rintro rfl
  exact h (List.mem_map.mpr ⟨entry, hentry, rfl⟩)

/-- A field is found among fields with different names. -/
theorem content_named (hnodup : (entries.map (·.1)).Nodup) {v : Value} (h : (name, v) ∈ entries) :
    (named entries).content name = v := by
  induction entries with
  | nil => cases h
  | cons entry rest ih =>
    rw [List.map_cons, List.nodup_cons] at hnodup
    show (Dict.findIn? (.text name) ((.text entry.1, entry.2) :: (named rest).entries)).getD .null = v
    rcases List.mem_cons.mp h with rfl | h
    · simp only [Dict.findIn?, BEq.rfl, if_true, Option.getD_some]
    · have hother : (Label.text entry.1 == Label.text name) = false := by
        apply Label.text_beq_false
        intro heq
        exact hnodup.1 (List.mem_map.mpr ⟨_, h, heq.symm⟩)
      simp only [Dict.findIn?, hother, Bool.false_eq_true, if_false]
      exact ih hnodup.2 h

/-- Fields by position come behind those that are there, if their names are new. -/
theorem addArguments_named (index : Int) (keyword : String) {fs : Fields}
    (hnodup : (entries.map (·.1)).Nodup) (hnew : ∀ e ∈ entries, fs.find? (.text e.1) = none) :
    addArguments index keyword fs entries = .ok ⟨fs.entries ++ (named entries).entries⟩ := by
  induction entries generalizing fs with
  | nil =>
    show Except.ok fs = .ok ⟨fs.entries ++ []⟩
    rw [List.append_nil]
  | cons entry rest ih =>
    obtain ⟨name, v⟩ := entry
    rw [List.map_cons, List.nodup_cons] at hnodup
    have hfind := hnew (name, v) List.mem_cons_self
    have hrest : ∀ e ∈ rest, (fs.insert (.text name) v).find? (.text e.1) = none := by
      intro e he
      rw [Dict.find_insert, if_neg]
      · exact hnew e (List.mem_cons_of_mem _ he)
      · rw [Label.text_beq]
        rintro rfl
        exact hnodup.1 (List.mem_map.mpr ⟨e, he, rfl⟩)
    simp only [addArguments, Dict.contains, hfind, Option.isSome_none, Bool.false_eq_true, if_false]
    rw [ih hnodup.2 hrest, Dict.insert_entries hfind, List.append_assoc]
    rfl

theorem contains_named (h : name ∈ entries.map (·.1)) : (named entries).contains (.text name) = true := by
  induction entries with
  | nil => cases h
  | cons entry rest ih =>
    show (Dict.findIn? (.text name) ((.text entry.1, entry.2) :: (named rest).entries)).isSome = true
    simp only [Dict.findIn?]
    split
    · rfl
    · next hother =>
      rw [Label.text_beq] at hother
      rw [List.map_cons, List.mem_cons] at h
      exact ih (h.resolve_left fun heq => hother heq.symm)

end Fields

/-! ## Items -/

/-- The names of fields differ, and none of them is taken for something else in an item. -/
theorem Form.fieldNames_plain (form : Form) : form.fieldNames.Nodup ∧ "op" ∉ form.fieldNames ∧
    "args" ∉ form.fieldNames ∧ "size" ∉ form.fieldNames := by
  cases form <;> decide

theorem Form.ofKeyword_keyword (form : Form) : Form.ofKeyword (trim form.keyword) = .ok form := by
  rw [ofKeyword_iff]
  cases form <;> decide

namespace Opcode

variable (op : Opcode Float)

theorem ofKeyword_keyword : Form.ofKeyword (trim op.keyword) = .ok op.form := op.form.ofKeyword_keyword

theorem length_contents : op.contents.length = op.form.fieldNames.length := by
  cases op <;> rfl

theorem entries_names : op.entries.map (·.1) = op.form.fieldNames := by
  show (op.fields.map fun f => (f.1, f.2.value)).map (·.1) = _
  rw [List.map_map]
  exact List.map_fst_zip (Nat.le_of_eq op.length_contents.symm)

theorem entries_zip : op.entries = op.form.fieldNames.zip (op.contents.map Field.value) :=
  (List.zip_map_right ..).symm

/-- The fields of an instruction hold what it consists of. -/
theorem written_entries : op.Written (Fields.named op.entries) := by
  rw [Written, List.forall_iff_forall_mem]
  intro f hf
  apply Fields.content_named
  · rw [op.entries_names]
    exact op.form.fieldNames_plain.1
  · exact List.mem_map.mpr ⟨f, hf, rfl⟩

end Opcode

section

variable (form : Form) (index : Int) (keyword : String) {entries : List (String × Value)}

/-- Without a list of arguments the fields of an item stay as they are. -/
theorem withArguments_named (h : "args" ∉ entries.map (·.1)) :
    withArguments form index keyword (Fields.named entries) = .ok (Fields.named entries) := by
  have hargs : (Fields.named entries).content "args" = .null := by
    rw [Fields.content, Fields.find_named_of_not_mem h]
    rfl
  simp only [withArguments, hargs, Fields.erase_named h]
  rfl

/-- A list of arguments gives the fields in order. -/
theorem withArguments_listed {values : List Value} (h : values.length = form.fieldNames.length) :
    withArguments form index keyword ⟨[(.text "args", .list values)]⟩ =
      .ok (Fields.named (form.fieldNames.zip values)) := by
  have hnodup : ((form.fieldNames.zip values).map (·.1)).Nodup := by
    rw [List.map_fst_zip (Nat.le_of_eq h.symm)]
    exact form.fieldNames_plain.1
  show (if values.length > form.fieldNames.length then .error _
    else addArguments index keyword ⟨[]⟩ (form.fieldNames.zip values)) = _
  rw [if_neg (Nat.not_lt.mpr (Nat.le_of_eq h)), Fields.addArguments_named index keyword hnodup fun _ _ => rfl]
  rfl

/-- An item with the fields of its kind is built from them. -/
theorem ofFields_named (h : entries.map (·.1) = form.fieldNames) :
    form.ofFields index keyword (Fields.named entries) = form.build (Fields.named entries) := by
  obtain ⟨-, -, -, hsize⟩ := form.fieldNames_plain
  rw [← h] at hsize
  have hnoSize : (Fields.named entries).contains (.text "size") = false := by
    rw [Dict.contains, Fields.find_named_of_not_mem hsize]
    rfl
  have hknown : checkUnknown index keyword form (Fields.named entries) = .ok () := by
    unfold checkUnknown
    rw [List.filter_eq_nil_iff.mpr]
    · rfl
    intro k hk
    obtain ⟨e, he, rfl⟩ := List.mem_map.mp hk
    obtain ⟨entry, hentry, rfl⟩ := List.mem_map.mp he
    rw [Bool.not_eq_true', Bool.not_eq_false, List.any_eq_true]
    exact ⟨entry.1, h ▸ List.mem_map.mpr ⟨entry, hentry, rfl⟩, BEq.rfl⟩
  have hrequired : (form.required.any fun n => !(Fields.named entries).contains (.text n)) = false := by
    rw [List.any_eq_false]
    intro n hn
    rw [Fields.contains_named (h ▸ List.mem_append_left _ hn)]
    exact Bool.false_ne_true
  simp only [Form.ofFields, hnoSize, Bool.and_false, Bool.false_eq_true, if_false, pure_bind, hknown,
    hrequired]
  rfl

end

/-! ## Instructions that were read -/

theorem checkUnknown_ok {form : Form} {index : Int} {keyword : String} {fs : Fields}
    (h : checkUnknown index keyword form fs = .ok ()) :
    ∀ k ∈ fs.keys, ∃ name ∈ form.fieldNames, k = .text name := by
  unfold checkUnknown at h
  dsimp only at h
  split at h
  · next hnone =>
    intro k hk
    have hknown := List.filter_eq_nil_iff.mp hnone k hk
    rw [Bool.not_eq_true', Bool.not_eq_false, List.any_eq_true] at hknown
    obtain ⟨name, hname, hkey⟩ := hknown
    exact ⟨name, hname, Label.eq_of_text_beq (BEq.symm hkey)⟩
  · split at h <;> cases h

/-- A box that is given its size. -/
def Form.IsSized (form : Form) (fs : Fields) : Prop := form = .box ∧ fs.contains (.text "size") = true

/-- Fields as they are read: those of an item, or with the second corner in place of the size. -/
structure Form.Prepared (form : Form) (fs fs' : Fields) : Prop where
  sized : form.IsSized fs → cornerFromSize fs = .ok fs'
  plain : ¬ form.IsSized fs → fs' = fs
  known : ∀ k ∈ fs'.keys, ∃ name ∈ form.fieldNames, k = .text name
  required : ∀ name ∈ form.required, fs'.contains (.text name) = true

/-- An instruction is built from the fields of its item once they are prepared. -/
theorem ofFields_ok {form : Form} {index : Int} {keyword : String} {fs : Fields} {op : Opcode Float}
    (h : form.ofFields index keyword fs = .ok op) : ∃ fs', form.Prepared fs fs' ∧ form.build fs' = .ok op := by
  have hchecked : ∀ fs' : Fields, (do
      checkUnknown index keyword form fs'
      if form.required.any fun n => !fs'.contains (.text n) then throw Error.wrongArguments
      form.build fs') = .ok op →
      (∀ k ∈ fs'.keys, ∃ name ∈ form.fieldNames, k = .text name) ∧
        (∀ name ∈ form.required, fs'.contains (.text name) = true) ∧ form.build fs' = .ok op := by
    intro fs' h
    obtain ⟨u, hknown, h⟩ := bind_ok h
    dsimp only at h
    split at h
    · cases h
    · next hrequired =>
      refine ⟨checkUnknown_ok hknown, ?_, h⟩
      intro name hname
      by_contra hmissing
      exact hrequired (List.any_eq_true.mpr ⟨name, hname, by simpa using hmissing⟩)
  have hsized : (form == .box && fs.contains (.text "size")) = true ↔ form.IsSized fs := by
    rw [Bool.and_eq_true, beq_iff_eq, Form.IsSized]
  unfold Form.ofFields at h
  dsimp only at h
  split at h
  · next hbox =>
    obtain ⟨fs', hfs', h⟩ := bind_ok h
    obtain ⟨hknown, hrequired, hbuild⟩ := hchecked fs' h
    exact ⟨fs', ⟨fun _ => hfs', fun hplain => absurd (hsized.mp hbox) hplain, hknown, hrequired⟩, hbuild⟩
  · next hbox =>
    obtain ⟨hknown, hrequired, hbuild⟩ := hchecked fs h
    exact ⟨fs, ⟨fun hbox' => absurd (hsized.mpr hbox') hbox, fun _ => rfl, hknown, hrequired⟩, hbuild⟩

/-- The keyword of an item, without blanks around it. -/
def keywordOf (fs : Fields) : String := trim (fs.content "op").text

/-- An item that is read is a table whose keyword is known, and whose fields are read. -/
theorem parseItem_ok {item : Value} {index : Int} {op : Opcode Float} (h : parseItem item index = .ok op) :
    ∃ fs form, itemFields? item = some fs ∧
      parseFields form index (keywordOf fs) (fs.erase (.text "op")) = .ok op := by
  unfold parseItem at h
  split at h
  · next fs hitem =>
    simp only at h
    split at h
    · cases h
    · split at h
      · cases h
      · next form _ => exact ⟨fs, form, hitem, h⟩
  · cases h

theorem parseFields_ok {form : Form} {index : Int} {keyword : String} {fs : Fields} {op : Opcode Float}
    (h : parseFields form index keyword fs = .ok op) :
    ∃ fs', withArguments form index keyword fs = .ok fs' ∧ form.ofFields index keyword fs' = .ok op := by
  obtain ⟨fs', hfs', h⟩ := bind_ok h
  split at h
  · next hop =>
    cases h
    exact ⟨fs', hfs', hop⟩
  · cases h

/-- An instruction that was read was built from fields. -/
theorem build_of_parseItem {item : Value} {index : Int} {op : Opcode Float}
    (h : parseItem item index = .ok op) : ∃ form fs, Form.build form fs = .ok op := by
  obtain ⟨fs, form, -, h⟩ := parseItem_ok h
  obtain ⟨fs', -, h⟩ := parseFields_ok h
  obtain ⟨fs'', -, hbuild⟩ := ofFields_ok h
  exact ⟨form, fs'', hbuild⟩

/-- **Instructions survive writing.** An instruction that was read, and is written as an item with its fields
    by name or by position, is read from that item as the same instruction. -/
theorem parseItem_written {item : Value} {index : Int} {op : Opcode Float}
    (h : parseItem item index = .ok op) (index' : Int) :
    parseItem op.table index' = .ok op ∧ parseItem op.listed index' = .ok op := by
  obtain ⟨form, fs, hbuild⟩ := build_of_parseItem h
  obtain ⟨rfl, hbuilt⟩ := build_written hbuild op.written_entries
  obtain ⟨-, hop, hargs, -⟩ := op.form.fieldNames_plain
  have hfields : parseFields op.form index' (trim op.keyword) (Fields.named op.entries) = .ok op := by
    rw [← op.entries_names] at hargs
    simp only [parseFields, withArguments_named op.form index' _ hargs, bind, Except.bind,
      ofFields_named op.form index' _ op.entries_names, hbuilt]
    rfl
  have hlisted : parseFields op.form index' (trim op.keyword)
      ⟨[(.text "args", .list (op.contents.map Field.value))]⟩ = .ok op := by
    have hlength : (op.contents.map Field.value).length = op.form.fieldNames.length := by
      rw [List.length_map, op.length_contents]
    simp only [parseFields, withArguments_listed op.form index' _ hlength, ← op.entries_zip, bind, Except.bind,
      ofFields_named op.form index' _ op.entries_names, hbuilt]
    rfl
  have htable : Named op.table op.keyword (Fields.named op.entries) := by
    refine ⟨_, rfl, rfl, ?_⟩
    rw [← op.entries_names] at hop
    exact Fields.erase_named hop
  constructor
  · rw [parseItem_eq htable, op.ofKeyword_keyword]
    exact hfields
  · rw [parseItem_eq ⟨_, rfl, rfl, rfl⟩, op.ofKeyword_keyword]
    exact hlisted

/-- A box by its size, with blanks, texts and truth values for what is read. -/
def looseBox : Value :=
  .map [(.text "op", .str " BOX "), (.text "args", .list [.list [.int 1, .str " 2.5 ", .bool true]]),
    (.text "size", .tuple [.float 0.5, .int 3, .str "1e2"]), (.text "material", .str "glass")]

theorem form_looseBox : (parseItem looseBox 0).toOption.map Opcode.form = some .box := by decide +kernel

/-- It is read as a box with two corners, and so is what is written of it. -/
theorem parseItem_written_box : ∃ op, parseItem looseBox 0 = .ok op ∧ op.form = .box ∧
    parseItem op.table 1 = .ok op ∧ parseItem op.listed 2 = .ok op := by
  obtain ⟨op, hop, hbox⟩ := Option.map_eq_some_iff.mp form_looseBox
  have hread : parseItem looseBox 0 = .ok op := ok_of_toOption hop
  exact ⟨op, hread, hbox, (parseItem_written hread 1).1, (parseItem_written hread 2).2⟩

end Wireframe
