import Wireframe.Proofs.Opcode.Writing

/-!
# `Wireframe.Proofs.Opcode.Reading` — what the entries of an item become

An item supplies entries: those under its keys, and those in its list of arguments, which are named after the
leading fields. An instruction that is read from it has been read from these entries: every entry is that of
one field and determines it, no field is named twice, and a field without an entry is one that may be left
out. There are two exceptions. A box may have a size, which takes the place of its second corner, also where
that corner has an entry of its own. And a whole number is read by way of the doubles, so that it is kept
exactly if it is one.

## Contents
- `Field.ReadFrom`, `build_reads`: instructions and the fields that they are built from.
- `Fields.Distinct`, `supplied`: the entries of an item.
- `addArguments_ok`, `withArguments_ok`: entries by position.
- `cornerFromSize_ok`, `Form.Prepared.find_eq`: the size of a box, and the other fields.
- `Opcode.Holds`, `holds_of_ofFields`: instructions and all entries.
- `faithful_reading`: all of it; `entries_lost`: a corner that is not read, and a number that is rounded.
-/

namespace Wireframe

open Document Text

/-! ## Instructions from fields -/

/-- What a field has been read from. -/
def Field.ReadFrom (v : Value) : Field Float → Prop
  | .point p => ∃ items, v.items? = some items ∧ Value.toFloats items = .ok p.toList
  | .number x => v.toFloat = .ok x
  | .count n => (∀ b, v ≠ .bool b) ∧ ∃ x, v.toFloat = .ok x ∧ Decimal.integer? x = some n
  | .axis a => Axis.ofValue v = .ok a
  | .name n => n = v

section

variable {fs : Fields} {name : String}

theorem point_read {p : Vec3 Float} (h : fs.point name = .ok p) :
    (Field.point p).ReadFrom (fs.content name) := by
  unfold Fields.point Value.toVec3 at h
  split at h
  · cases h
  · next items hitems =>
    split at h
    · next hfloats =>
      cases h
      exact ⟨items, hitems, hfloats⟩
    · cases h
    · cases h

theorem count_read {n : Int} (h : fs.whole name = .ok n) : (Field.count n).ReadFrom (fs.content name) := by
  unfold Fields.whole Value.toWhole at h
  split at h
  · cases h
  · next hbool =>
    obtain ⟨x, hx, h⟩ := bind_ok h
    split at h
    · next hn =>
      cases h
      exact ⟨hbool, x, hx, hn⟩
    · cases h

theorem name_read : (Opcode.optionalName (fs.name? name)).ReadFrom (fs.content name) := by
  show (fs.name? name).getD .null = fs.content name
  unfold Fields.name? Value.present?
  split
  · next hnull => exact (Value.isNull_iff.mp hnull).symm
  · rfl

/-- Only a name can be read from nothing. -/
theorem readFrom_null {f : Field Float} (h : f.ReadFrom .null) : f = .name .null := by
  cases f with
  | point p =>
    obtain ⟨items, hitems, -⟩ := h
    cases hitems
  | number x => cases h
  | count n =>
    obtain ⟨-, x, hx, -⟩ := h
    cases hx
  | axis a => cases h
  | name n => exact congrArg Field.name h

/-- **Building reads every field.** -/
theorem build_reads {form : Form} {op : Opcode Float} (h : form.build fs = .ok op) :
    op.form = form ∧ op.fields.Forall fun f => f.2.ReadFrom (fs.content f.1) := by
  cases form with
  | push | pop | display =>
    cases h
    exact ⟨rfl, trivial⟩
  | move | scale =>
    obtain ⟨delta, hdelta, h⟩ := bind_ok h
    cases h
    exact ⟨rfl, point_read hdelta, name_read⟩
  | rotate =>
    obtain ⟨axis, haxis, h⟩ := bind_ok h
    obtain ⟨degrees, hdegrees, h⟩ := bind_ok h
    cases h
    exact ⟨rfl, haxis, hdegrees, name_read⟩
  | box =>
    obtain ⟨corner0, hcorner0, h⟩ := bind_ok h
    obtain ⟨corner1, hcorner1, h⟩ := bind_ok h
    cases h
    exact ⟨rfl, point_read hcorner0, point_read hcorner1, name_read, name_read⟩
  | sphere =>
    obtain ⟨center, hcenter, h⟩ := bind_ok h
    obtain ⟨radius, hradius, h⟩ := bind_ok h
    cases h
    exact ⟨rfl, point_read hcenter, hradius, name_read, name_read⟩
  | torus =>
    obtain ⟨center, hcenter, h⟩ := bind_ok h
    obtain ⟨r0, hr0, h⟩ := bind_ok h
    obtain ⟨r1, hr1, h⟩ := bind_ok h
    cases h
    exact ⟨rfl, point_read hcenter, hr0, hr1, name_read, name_read⟩
  | line =>
    obtain ⟨p0, hp0, h⟩ := bind_ok h
    obtain ⟨p1, hp1, h⟩ := bind_ok h
    cases h
    exact ⟨rfl, point_read hp0, point_read hp1, name_read, name_read, name_read⟩
  | set =>
    obtain ⟨value, hvalue, h⟩ := bind_ok h
    cases h
    exact ⟨rfl, rfl, hvalue⟩
  | setKnobs =>
    obtain ⟨value, hvalue, h⟩ := bind_ok h
    cases h
    exact ⟨rfl, hvalue⟩
  | frames =>
    obtain ⟨count, hcount, h⟩ := bind_ok h
    cases h
    exact ⟨rfl, count_read hcount⟩
  | vary =>
    obtain ⟨first, hfirst, h⟩ := bind_ok h
    obtain ⟨last, hlast, h⟩ := bind_ok h
    obtain ⟨startVal, hstart, h⟩ := bind_ok h
    obtain ⟨endVal, hend, h⟩ := bind_ok h
    cases h
    exact ⟨rfl, rfl, count_read hfirst, count_read hlast, hstart, hend⟩
  | save | basename | saveCoordSystem =>
    cases h
    exact ⟨rfl, rfl⟩

end

/-- A whole number is kept exactly if it is a double. -/
theorem count_kept {n k : Int} (h : (Field.count n).ReadFrom (.int k)) : n = k ↔ Decimal.Fits k.natAbs := by
  obtain ⟨-, x, hx, hn⟩ := h
  constructor
  · rintro rfl
    exact Decimal.fits_of_integer hn
  · intro hfits
    obtain ⟨hfinite, hk⟩ := Decimal.integer_ofInt hfits
    have hx : floatOfInt k = .ok x := hx
    rw [floatOfInt, if_pos hfinite] at hx
    cases hx
    exact Option.some.inj (hn.symm.trans hk)

/-! ## The entries of an item -/

/-- The keys of the fields differ. -/
def Fields.Distinct (fs : Fields) : Prop := fs.entries.Pairwise fun a b => (a.1 == b.1) = false

instance (fs : Fields) : Decidable fs.Distinct :=
  inferInstanceAs (Decidable (fs.entries.Pairwise fun a b => (a.1 == b.1) = false))

namespace Fields

variable {fs : Fields} {name : String} {v : Value}

/-- The content of a field is that of its entry. -/
theorem Distinct.content_of_mem (h : fs.Distinct) (hv : (.text name, v) ∈ fs.entries) : fs.content name = v := by
  rw [content, Dict.find_of_mem h hv]
  rfl

/-- What is found under a name is an entry of that name. -/
theorem mem_of_find (h : fs.find? (.text name) = some v) : (.text name, v) ∈ fs.entries := by
  obtain ⟨⟨k, u⟩, he, hkey, rfl⟩ := Dict.exists_of_find h
  obtain rfl : k = .text name := Label.eq_of_text_beq (BEq.symm hkey)
  exact he

theorem content_of_not_mem (h : ∀ v, (.text name, v) ∉ fs.entries) : fs.content name = .null := by
  rw [content]
  cases hfind : fs.find? (.text name) with
  | none => rfl
  | some v => exact absurd (mem_of_find hfind) (h v)

theorem contains_iff : fs.contains (.text name) = true ↔ ∃ v, (.text name, v) ∈ fs.entries := by
  constructor
  · intro h
    obtain ⟨v, hfind⟩ := Option.isSome_iff_exists.mp h
    exact ⟨v, mem_of_find hfind⟩
  · rintro ⟨v, hv⟩
    exact Dict.find_isSome_of_mem hv

theorem Distinct.erase (h : fs.Distinct) (k : Label) : Distinct (Dict.erase fs k) := List.Pairwise.filter _ h

/-- A new key differs from those that are there. -/
theorem Distinct.insert (h : fs.Distinct) {k : Label} (hk : fs.find? k = none) (v : Value) :
    Distinct (Dict.insert fs k v) := by
  rw [Distinct, Dict.insert_entries hk, List.pairwise_append]
  refine ⟨h, List.pairwise_singleton _ _, ?_⟩
  intro a ha b hb
  rw [List.mem_singleton.mp hb]
  exact Dict.ne_of_find_none hk a ha

end Fields

/-- The values in the list of arguments of an item. -/
def positional (fs : Fields) : List Value :=
  match (fs.content "args").opened with
  | .list vs | .tuple vs => vs
  | _ => []

/-- The values in the list of arguments with the names of the fields that they are for. -/
def byPosition (form : Form) (fs : Fields) : List (String × Value) := form.fieldNames.zip (positional fs)

/-- The entries that an item supplies: those under its other keys, and its arguments. -/
def supplied (form : Form) (fs : Fields) : List (Label × Value) :=
  ((fs.erase (.text "op")).erase (.text "args")).entries ++
    (byPosition form fs).map fun e => (.text e.1, e.2)

/-- Arguments come behind the other entries, and none of them has an entry before. -/
theorem addArguments_ok {index : Int} {keyword : String} {fs fs' : Fields} {args : List (String × Value)}
    (h : addArguments index keyword fs args = .ok fs') :
    fs'.entries = fs.entries ++ args.map (fun e => (.text e.1, e.2)) ∧ (fs.Distinct → fs'.Distinct) := by
  induction args generalizing fs with
  | nil =>
    cases h
    exact ⟨(List.append_nil _).symm, id⟩
  | cons arg args ih =>
    obtain ⟨name, v⟩ := arg
    simp only [addArguments] at h
    split at h
    · cases h
    · next hnew =>
      have hnone : fs.find? (.text name) = none := by
        rwa [Dict.contains, Option.not_isSome_iff_eq_none] at hnew
      obtain ⟨hentries, hdistinct⟩ := ih h
      refine ⟨?_, fun hfs => hdistinct (hfs.insert hnone v)⟩
      rw [hentries, Dict.insert_entries hnone, List.append_assoc]
      rfl

/-- Taking out one field leaves the others. -/
theorem content_erase (fs : Fields) {name other : String} (h : name ≠ other) :
    Fields.content (fs.erase (.text name)) other = fs.content other := by
  rw [Fields.content, Fields.content, Dict.find_erase_ne (Label.text_beq_false h)]

/-- The arguments of an item are added to its other entries. -/
theorem withArguments_ok {form : Form} {index : Int} {keyword : String} {fs fs' : Fields}
    (h : withArguments form index keyword (fs.erase (.text "op")) = .ok fs') :
    fs'.entries = supplied form fs ∧ (fs.Distinct → fs'.Distinct) := by
  have hadded : ∀ vs, positional fs = vs →
      addArguments index keyword ((fs.erase (.text "op")).erase (.text "args")) (form.fieldNames.zip vs) = .ok fs' →
      fs'.entries = supplied form fs ∧ (fs.Distinct → fs'.Distinct) := by
    rintro vs rfl h
    obtain ⟨hentries, hdistinct⟩ := addArguments_ok h
    exact ⟨hentries, fun hfs => hdistinct (.erase (.erase hfs _) _)⟩
  rw [withArguments, content_erase fs (by decide)] at h
  split at h
  · next hargs => exact hadded [] (by rw [positional, hargs]) (by rw [List.zip_nil_right]; exact h)
  · next vs hargs =>
    split at h
    · cases h
    · exact hadded vs (by rw [positional, hargs]) h
  · next vs hargs =>
    split at h
    · cases h
    · exact hadded vs (by rw [positional, hargs]) h
  · cases h

/-- Arguments are those of a list or of a tuple. -/
theorem opened_args {fs : Fields} (h : positional fs ≠ []) :
    (fs.content "args").opened = .list (positional fs) ∨ (fs.content "args").opened = .tuple (positional fs) := by
  unfold positional at h ⊢
  split at h
  · next hopened => exact .inl hopened
  · next hopened => exact .inr hopened
  · exact absurd rfl h

/-- Some argument is for a field that has an entry already. -/
def Twice (form : Form) (fs : Fields) : Prop := ∃ e ∈ byPosition form fs, fs.contains (.text e.1) = true

/-- The first of the arguments that have an entry before is refused. -/
theorem addArguments_twice (index : Int) (keyword : String) {fs : Fields} {args : List (String × Value)}
    (h : ∃ e ∈ args, fs.contains (.text e.1) = true) :
    ∃ e ∈ args, addArguments index keyword fs args = .error (.givenTwice index keyword e.1) := by
  induction args generalizing fs with
  | nil => simp at h
  | cons arg args ih =>
    obtain ⟨name, v⟩ := arg
    by_cases hname : fs.contains (.text name) = true
    · exact ⟨(name, v), List.mem_cons_self, if_pos hname⟩
    · obtain ⟨e, he, hcontains⟩ := h
      have hrest : e ∈ args := by
        refine (List.mem_cons.mp he).resolve_left ?_
        rintro rfl
        exact hname hcontains
      obtain ⟨e', he', hrefused⟩ := ih ⟨e, hrest, Dict.find_insert_isSome hcontains (.text name) v⟩
      exact ⟨e', List.mem_cons_of_mem _ he', (if_neg hname).trans hrefused⟩

theorem withArguments_twice {form : Form} (index : Int) (keyword : String) {fs : Fields}
    (hlength : (positional fs).length ≤ form.fieldNames.length) (h : Twice form fs) :
    ∃ name ∈ form.fieldNames,
      withArguments form index keyword (fs.erase (.text "op")) = .error (.givenTwice index keyword name) := by
  obtain ⟨-, hop, hargs, -⟩ := form.fieldNames_plain
  obtain ⟨⟨name, v⟩, he, hcontains⟩ := h
  have hname : name ∈ form.fieldNames := (List.of_mem_zip he).1
  have hkept : Dict.contains ((fs.erase (.text "op")).erase (.text "args")) (.text name) = true := by
    have hother : "op" ≠ name ∧ "args" ≠ name := by
      constructor
      · rintro rfl
        exact hop hname
      · rintro rfl
        exact hargs hname
    rw [Dict.contains, Dict.find_erase_ne (Label.text_beq_false hother.2),
      Dict.find_erase_ne (Label.text_beq_false hother.1)]
    exact hcontains
  obtain ⟨e', he', hrefused⟩ := addArguments_twice index keyword ⟨_, he, hkept⟩
  refine ⟨e'.1, (List.of_mem_zip he').1, ?_⟩
  have hargument : positional fs ≠ [] := by
    intro hnone
    rw [byPosition, hnone, List.zip_nil_right] at he'
    cases he'
  rw [withArguments, content_erase fs (by decide)]
  rcases opened_args hargument with hopened | hopened
  · rw [hopened]
    exact (if_neg (Nat.not_lt.mpr hlength)).trans hrefused
  · rw [hopened]
    exact (if_neg (Nat.not_lt.mpr hlength)).trans hrefused

/-! ## The size of a box -/

theorem partNumbers_read {v : Value} {p : Vec3 Float} (h : partNumbers v = .ok p.toList) :
    (Field.point p).ReadFrom v := by
  unfold partNumbers at h
  cases hitems : v.items? with
  | none =>
    rw [hitems] at h
    cases h
  | some items =>
    rw [hitems] at h
    exact ⟨items, hitems, h⟩

/-- The corner opposite to another one: to the right, down and back. -/
def opposite (p q : Vec3 Float) : Vec3 Float := ⟨p.x + q.x, p.y - q.y, p.z - q.z⟩

/-- The size takes the place of the second corner, whatever was there. -/
theorem cornerFromSize_ok {fs fs' : Fields} (h : cornerFromSize fs = .ok fs') : ∃ p q : Vec3 Float,
    (Field.point p).ReadFrom (fs.content "corner0") ∧ (Field.point q).ReadFrom (fs.content "size") ∧
      fs' = (fs.erase (.text "size")).insert (.text "corner1")
        (.tuple ((opposite p q).toList.map .float)) := by
  unfold cornerFromSize at h
  dsimp only at h
  rw [content_erase fs (by decide)] at h
  split at h
  · cases h
  · obtain ⟨n, -, h⟩ := bind_ok h
    split at h
    · cases h
    · obtain ⟨n, -, h⟩ := bind_ok h
      split at h
      · cases h
      · obtain ⟨xs, hcorner, h⟩ := bind_ok h
        obtain ⟨ys, hsize, h⟩ := bind_ok h
        split at h
        · next x y z w height d _ =>
          cases h
          exact ⟨⟨x, y, z⟩, ⟨w, height, d⟩, partNumbers_read hcorner, partNumbers_read hsize, rfl⟩
        · cases h

/-! ## Instructions and all entries -/

/-- A size is among the entries. -/
def Sized (entries : List (Label × Value)) : Prop := ∃ size, (.text "size", size) ∈ entries

/-- An instruction holds the entries of its item. -/
structure Opcode.Holds (op : Opcode Float) (entries : List (Label × Value)) : Prop where
  /-- No field has two entries. -/
  once : entries.Pairwise fun a b => (a.1 == b.1) = false
  /-- Every entry is that of a field, or the size of a box. -/
  named : ∀ e ∈ entries, ∃ name, e.1 = .text name ∧
    (name ∈ op.form.fieldNames ∨ op.form = .box ∧ name = "size")
  /-- Every entry determines its field, but for the second corner of a box that has a size. -/
  given : ∀ name v, (.text name, v) ∈ entries → name ∈ op.form.fieldNames →
    (name = "corner1" → ¬ Sized entries) → ∃ f, (name, f) ∈ op.fields ∧ f.ReadFrom v
  /-- A field without an entry is left out, but for that corner. -/
  left : ∀ name f, (name, f) ∈ op.fields → (∀ v, (.text name, v) ∉ entries) →
    (name = "corner1" → ¬ Sized entries) → name ∈ op.form.optional ∧ f = .name .null
  /-- The corner is opposite to the first one, at a distance of the size. -/
  sized : ∀ size, (.text "size", size) ∈ entries → ∃ corner p q, (.text "corner0", corner) ∈ entries ∧
    (Field.point p).ReadFrom corner ∧ (Field.point q).ReadFrom size ∧ ("corner0", .point p) ∈ op.fields ∧
      ("corner1", .point (opposite p q)) ∈ op.fields
  /-- A whole number is kept exactly if it is a double. -/
  whole : ∀ name k n, (.text name, .int k) ∈ entries → (name, .count n) ∈ op.fields →
    (n = k ↔ Decimal.Fits k.natAbs)

theorem Opcode.fields_names (op : Opcode Float) : op.fields.map (·.1) = op.form.fieldNames :=
  List.map_fst_zip (Nat.le_of_eq op.length_contents.symm)

/-- Every field of a kind has a content. -/
theorem Opcode.exists_field {op : Opcode Float} {name : String} (h : name ∈ op.form.fieldNames) :
    ∃ f, (name, f) ∈ op.fields := by
  rw [← op.fields_names] at h
  obtain ⟨⟨_, f⟩, hf, rfl⟩ := List.mem_map.mp h
  exact ⟨f, hf⟩

/-- A value is read as one point. -/
theorem point_unique {v : Value} {p q : Vec3 Float} (hp : (Field.point p).ReadFrom v)
    (hq : (Field.point q).ReadFrom v) : p = q := by
  obtain ⟨items, hitems, hfloats⟩ := hp
  obtain ⟨items', hitems', hfloats'⟩ := hq
  cases hitems.symm.trans hitems'
  cases p
  cases q
  cases hfloats.symm.trans hfloats'
  rfl

namespace Form.Prepared

variable {form : Form} {fs fs' : Fields} {name : String}

/-- The size of a box leaves all other fields but one. -/
theorem find_eq (h : form.Prepared fs fs') (hsize : name ≠ "size")
    (hcorner : name = "corner1" → ¬ form.IsSized fs) : fs'.find? (.text name) = fs.find? (.text name) := by
  by_cases hsized : form.IsSized fs
  · obtain ⟨p, q, -, -, rfl⟩ := cornerFromSize_ok (h.sized hsized)
    have hother : "corner1" ≠ name := fun heq => hcorner heq.symm hsized
    rw [Dict.find_insert_ne (Label.text_beq_false hother), Dict.find_erase_ne (Label.text_beq_false hsize.symm)]
  · rw [h.plain hsized]

/-- All keys of an item are names of fields, or that of the size. -/
theorem named (h : form.Prepared fs fs') {e : Label × Value} (he : e ∈ fs.entries) :
    ∃ name, e.1 = .text name ∧ (name ∈ form.fieldNames ∨ form = .box ∧ name = "size") := by
  by_cases hsized : form.IsSized fs
  · by_cases hsize : (e.1 == .text "size") = true
    · exact ⟨"size", Label.eq_of_text_beq (BEq.symm hsize), .inr ⟨hsized.1, rfl⟩⟩
    · -- the key is there still, perhaps in another spelling
      have herased : e ∈ (Dict.erase fs (.text "size")).entries := by
        refine List.mem_filter.mpr ⟨he, ?_⟩
        simpa using hsize
      have hfound := Dict.find_isSome_of_mem herased
      obtain ⟨p, q, -, -, rfl⟩ := cornerFromSize_ok (h.sized hsized)
      obtain ⟨v, hv⟩ := Option.isSome_iff_exists.mp (Dict.find_insert_isSome hfound (.text "corner1") _)
      obtain ⟨e', he', hkey, -⟩ := Dict.exists_of_find hv
      obtain ⟨name, hname, htext⟩ := h.known e'.1 (List.mem_map_of_mem he')
      rw [htext] at hkey
      exact ⟨name, Label.eq_of_text_beq hkey, .inl hname⟩
  · have hplain := h.plain hsized
    subst hplain
    obtain ⟨name, hname, htext⟩ := h.known e.1 (List.mem_map_of_mem he)
    exact ⟨name, htext, .inl hname⟩

/-- A sized box has the corner that the size gives, whatever else was given for it. -/
theorem sized_corner {op : Opcode Float} (h : op.form.Prepared fs fs')
    (hreads : ∀ f ∈ op.fields, f.2.ReadFrom (fs'.content f.1)) (hsized : op.form.IsSized fs) :
    ∃ p q, (Field.point p).ReadFrom (fs.content "corner0") ∧ (Field.point q).ReadFrom (fs.content "size") ∧
      ("corner0", .point p) ∈ op.fields ∧ ("corner1", .point (opposite p q)) ∈ op.fields := by
  have hfirst : fs'.find? (.text "corner0") = fs.find? (.text "corner0") :=
    h.find_eq (by decide) fun heq => absurd heq (by decide)
  obtain ⟨p, q, hp, hq, rfl⟩ := cornerFromSize_ok (h.sized hsized)
  obtain ⟨hbox, -⟩ := hsized
  cases op <;> cases hbox
  case box corner0 corner1 material frame =>
  have hcorner0 := hreads ("corner0", .point corner0) List.mem_cons_self
  have hcorner1 := hreads ("corner1", .point corner1) (List.mem_cons_of_mem _ List.mem_cons_self)
  rw [Fields.content, hfirst, ← Fields.content] at hcorner0
  rw [Fields.content, Dict.find_insert_eq BEq.rfl] at hcorner1
  obtain rfl := point_unique hp hcorner0
  obtain rfl := point_unique (p := opposite p q) ⟨_, rfl, rfl⟩ hcorner1
  exact ⟨p, q, hp, hq, List.mem_cons_self, List.mem_cons_of_mem _ List.mem_cons_self⟩

end Form.Prepared

/-- A box has no whole number. -/
theorem not_count_of_box {op : Opcode Float} (h : op.form = .box) (name : String) (n : Int) :
    (name, .count n) ∉ op.fields := by
  cases op <;> cases h
  simp [Opcode.fields, Opcode.form, Form.fieldNames, Form.required, Form.optional, Opcode.contents,
    Opcode.optionalName]

/-- **Fields that differ are held.** -/
theorem holds_of_ofFields {form : Form} {index : Int} {keyword : String} {fs : Fields} {op : Opcode Float}
    (hfs : fs.Distinct) (h : form.ofFields index keyword fs = .ok op) :
    op.form = form ∧ op.Holds fs.entries := by
  obtain ⟨fs', hprepared, hbuild⟩ := ofFields_ok h
  obtain ⟨rfl, hreads⟩ := build_reads hbuild
  rw [List.forall_iff_forall_mem] at hreads
  obtain ⟨-, -, -, hsizeName⟩ := op.form.fieldNames_plain
  have hnamed : ∀ e ∈ fs.entries, ∃ name, e.1 = .text name ∧
      (name ∈ op.form.fieldNames ∨ op.form = .box ∧ name = "size") := fun e he => hprepared.named he
  have hbox : Sized fs.entries → op.form.IsSized fs := by
    rintro ⟨size, hsize⟩
    obtain ⟨name, hname, hfield | ⟨hbox, -⟩⟩ := hnamed _ hsize
    · cases hname
      exact absurd hfield hsizeName
    · exact ⟨hbox, Fields.contains_iff.mpr ⟨size, hsize⟩⟩
  have hfind : ∀ name ∈ op.form.fieldNames, (name = "corner1" → ¬ Sized fs.entries) →
      fs'.find? (.text name) = fs.find? (.text name) := by
    intro name hname hcorner
    refine hprepared.find_eq ?_ fun heq hsized => hcorner heq (Fields.contains_iff.mp hsized.2)
    rintro rfl
    exact hsizeName hname
  have hfield : ∀ {name f}, (name, f) ∈ op.fields → name ∈ op.form.fieldNames := by
    intro name f hf
    rw [← op.fields_names]
    exact List.mem_map_of_mem hf
  refine ⟨rfl, ?_⟩
  constructor
  case once => exact hfs
  case named => exact hnamed
  case given =>
    intro name v hv hname hcorner
    obtain ⟨f, hf⟩ := Opcode.exists_field hname
    have hread := hreads _ hf
    rw [Fields.content, hfind name hname hcorner, ← Fields.content, hfs.content_of_mem hv] at hread
    exact ⟨f, hf, hread⟩
  case left =>
    intro name f hf hnone hcorner
    have hname := hfield hf
    have hread := hreads _ hf
    rw [Fields.content, hfind name hname hcorner, ← Fields.content, Fields.content_of_not_mem hnone] at hread
    refine ⟨?_, readFrom_null hread⟩
    refine (List.mem_append.mp hname).resolve_left fun hrequired => ?_
    have hcontains := hprepared.required name hrequired
    rw [Dict.contains, hfind name hname hcorner] at hcontains
    obtain ⟨v, hv⟩ := Fields.contains_iff.mp hcontains
    exact hnone v hv
  case sized =>
    intro size hsize
    have hsized := hbox ⟨size, hsize⟩
    obtain ⟨p, q, hp, hq, hcorner0, hcorner1⟩ := hprepared.sized_corner hreads hsized
    rw [hfs.content_of_mem hsize] at hq
    have hcontains := hprepared.required "corner0" (hsized.1 ▸ List.mem_cons_self)
    rw [Dict.contains, hfind "corner0" (hfield hcorner0) fun heq => absurd heq (by decide)] at hcontains
    obtain ⟨corner, hcorner⟩ := Fields.contains_iff.mp hcontains
    rw [hfs.content_of_mem hcorner] at hp
    exact ⟨corner, p, q, hcorner, hp, hq, hcorner0, hcorner1⟩
  case whole =>
    intro name k n hk hn
    have hread := hreads _ hn
    have hplain : ¬ Sized fs.entries := fun hsized => not_count_of_box (hbox hsized).1 name n hn
    rw [Fields.content, hfind name (hfield hn) fun _ => hplain, ← Fields.content, hfs.content_of_mem hk] at hread
    exact count_kept hread

/-! ## Items -/

/-- An item with an entry by position and by key is refused for it. -/
theorem parseItem_twice {item : Value} {index : Int} {fs : Fields} {form : Form}
    (hitem : itemFields? item = some fs) (hword : (fs.content "op").isWritable = true)
    (hform : Form.ofKeyword (keywordOf fs) = .ok form) (hlength : (positional fs).length ≤ form.fieldNames.length)
    (h : Twice form fs) :
    ∃ name ∈ form.fieldNames, parseItem item index = .error (.givenTwice index (keywordOf fs) name) := by
  obtain ⟨name, hname, hrefused⟩ := withArguments_twice index (keywordOf fs) hlength h
  refine ⟨name, hname, ?_⟩
  unfold keywordOf at hform hrefused ⊢
  simp only [parseItem, hitem, hword, Bool.not_true, Bool.false_eq_true, if_false, hform, hrefused]
  rfl

/-- An instruction that is read holds the entries of its item. -/
theorem parseItem_holds {item : Value} {index : Int} {op : Opcode Float} (h : parseItem item index = .ok op) :
    ∃ fs, itemFields? item = some fs ∧ (fs.Distinct → op.Holds (supplied op.form fs)) := by
  obtain ⟨fs, form, hitem, h⟩ := parseItem_ok h
  obtain ⟨fs', harguments, h⟩ := parseFields_ok h
  obtain ⟨hentries, hdistinct⟩ := withArguments_ok harguments
  refine ⟨fs, hitem, fun hfs => ?_⟩
  obtain ⟨rfl, hholds⟩ := holds_of_ofFields (hdistinct hfs) h
  rw [← hentries]
  exact hholds

/-- **Items are read faithfully, but for corners and whole numbers.** An instruction that is read from an item
    whose keys differ holds all its entries: each of them determines its field, and what has no entry is left
    out. Only the size of a box takes the place of the second corner, also of one that is given, and only
    whole numbers that are doubles are kept. An entry by position for a field that has one by key is
    refused. -/
theorem faithful_reading (item : Value) (index : Int) :
    (∀ op, parseItem item index = .ok op →
      ∃ fs, itemFields? item = some fs ∧ (fs.Distinct → op.Holds (supplied op.form fs))) ∧
    ∀ fs form, itemFields? item = some fs → (fs.content "op").isWritable = true →
      Form.ofKeyword (keywordOf fs) = .ok form → (positional fs).length ≤ form.fieldNames.length →
      Twice form fs →
      ∃ name ∈ form.fieldNames, parseItem item index = .error (.givenTwice index (keywordOf fs) name) :=
  ⟨fun _ => parseItem_holds, fun _ _ => parseItem_twice⟩

/-- A box with its first corner by position and by key. -/
def doubledBox : Fields :=
  ⟨[(.text "op", .str "box"), (.text "args", .list [.null]), (.text "corner0", .null)]⟩

/-- A box by its first corner and its size, and one with that corner once more. -/
theorem faithful_reading_box :
    (∃ op, parseItem looseBox 0 = .ok op ∧ op.form = .box ∧
      op.Holds [(.text "size", .tuple [.float 0.5, .int 3, .str "1e2"]), (.text "material", .str "glass"),
        (.text "corner0", .list [.int 1, .str " 2.5 ", .bool true])]) ∧
    ∃ name ∈ Form.box.fieldNames,
      parseItem (.map doubledBox.entries) 0 = .error (.givenTwice 0 (keywordOf doubledBox) name) := by
  constructor
  · obtain ⟨op, hop, hbox⟩ := Option.map_eq_some_iff.mp form_looseBox
    have hread : parseItem looseBox 0 = .ok op := ok_of_toOption hop
    obtain ⟨fs, hfs, hholds⟩ := (faithful_reading looseBox 0).1 op hread
    cases hfs
    rw [hbox] at hholds
    exact ⟨op, hread, hbox, hholds (by decide)⟩
  · have hcorner : Twice .box doubledBox := ⟨("corner0", .null), List.mem_cons_self, rfl⟩
    exact (faithful_reading _ 0).2 doubledBox .box rfl rfl (Form.ofKeyword_keyword .box) (by decide) hcorner

/-- A box with its second corner and its size. -/
def crammedBox : Value :=
  .map [(.text "op", .str "box"), (.text "corner0", .list [.int 0, .int 0, .int 0]),
    (.text "corner1", .list [.int 9, .int 9, .int 9]), (.text "size", .list [.int 1, .int 2, .int 3])]

/-- A number of frames that is no double. -/
def oddFrames : Value := .map [(.text "op", .str "frames"), (.text "count", .int 9007199254740993)]

/-- What is given is lost without a failure: the corner for the size, and the last digit of the number. -/
theorem entries_lost :
    parseItem crammedBox 0 = .ok (.box ⟨0.0, 0.0, 0.0⟩ ⟨1.0, -2.0, -3.0⟩ none none) ∧
      parseItem oddFrames 0 = .ok (.frames 9007199254740992) := ⟨rfl, rfl⟩

end Wireframe
