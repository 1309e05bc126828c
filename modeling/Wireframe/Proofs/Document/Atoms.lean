import Wireframe.Document.Conversion
import Wireframe.Proofs.Decimal.Ratio

/-!
# `Wireframe.Proofs.Document.Atoms` — the atoms of a value

What is inside a value, at any depth and also in the keys of tables, are atoms. Opening a value that
contains itself brings no new ones to light. A value can be shown if its atoms can be.

## Contents
- `Value.Has`: the atoms of a value; `Value.Has.of_opened`: of one that contains itself.
- `Value.All`: values all of whose atoms have a property.
- `Value.all_of_isWritable`, `Value.isWritable_of_all`: values that can be shown.
- `Label.mem_atoms_of_has`: a label has the same atoms as a value.
- `Atom.Readable`, `Value.Readable`: values whose integers have doubles; `Value.Readable.items`: their parts.
-/

namespace Wireframe.Document

/-- An atom is somewhere in a value, as a part or as a key. -/
inductive Value.Has : Value → Atom → Prop
  | atom (a : Atom) : Has (.atom a) a
  | list {items : List Value} {v : Value} {a : Atom} (hv : v ∈ items) (h : v.Has a) : Has (.list items) a
  | tuple {items : List Value} {v : Value} {a : Atom} (hv : v ∈ items) (h : v.Has a) : Has (.tuple items) a
  | key {entries : List (Label × Value)} {k : Label} {v : Value} {a : Atom} (he : (k, v) ∈ entries)
    (ha : a ∈ k.atoms) : Has (.map entries) a
  | entry {entries : List (Label × Value)} {k : Label} {v : Value} {a : Atom} (he : (k, v) ∈ entries)
    (h : v.Has a) : Has (.map entries) a
  | set {items : List Label} {k : Label} {a : Atom} (hk : k ∈ items) (ha : a ∈ k.atoms) :
    Has (.set items) a
  | knot {id : Nat} {content : Value} {a : Atom} (h : content.Has a) : Has (.knot id content) a

/-! ## Values that contain themselves -/

theorem tieItems_eq (id : Nat) (whole : Value) (items : List Value) :
    tieItems id whole items = items.map (Value.tie id whole) := by
  induction items with
  | nil => rw [tieItems, List.map_nil]
  | cons v items ih => rw [tieItems, ih, List.map_cons]

theorem tieEntries_eq (id : Nat) (whole : Value) (entries : List (Label × Value)) :
    tieEntries id whole entries = entries.map fun e => (e.1, Value.tie id whole e.2) := by
  induction entries with
  | nil => rw [tieEntries, List.map_nil]
  | cons e entries ih => rw [tieEntries, ih, List.map_cons]

/-- What is in a value after another one was put in place of a number was in one of them. -/
theorem Value.Has.of_tie (id : Nat) (whole : Value) (v : Value) {a : Atom}
    (h : (Value.tie id whole v).Has a) : v.Has a ∨ whole.Has a := by
  cases v with
  | atom b =>
    rw [Value.tie] at h
    exact .inl h
  | list items =>
    rw [Value.tie, tieItems_eq] at h
    cases h with
    | list hv h =>
      obtain ⟨u, hu, rfl⟩ := List.mem_map.mp hv
      exact (of_tie id whole u h).imp (.list hu) fun h => h
  | tuple items =>
    rw [Value.tie, tieItems_eq] at h
    cases h with
    | tuple hv h =>
      obtain ⟨u, hu, rfl⟩ := List.mem_map.mp hv
      exact (of_tie id whole u h).imp (.tuple hu) fun h => h
  | map entries =>
    rw [Value.tie, tieEntries_eq] at h
    cases h with
    | key he ha =>
      obtain ⟨⟨k, u⟩, hu, heq⟩ := List.mem_map.mp he
      cases heq
      exact .inl (.key hu ha)
    | entry he h =>
      obtain ⟨⟨k, u⟩, hu, heq⟩ := List.mem_map.mp he
      cases heq
      exact (of_tie id whole u h).imp (.entry hu) fun h => h
  | set items =>
    rw [Value.tie] at h
    exact .inl h
  | knot i content =>
    rw [Value.tie] at h
    cases h with
    | knot h =>
      split at h
      · exact .inl (.knot h)
      · exact (of_tie id whole content h).imp .knot fun h => h
  | again i =>
    rw [Value.tie] at h
    split at h
    · exact .inr h
    · exact .inl h
termination_by sizeOf v
decreasing_by
  all_goals subst_vars
  all_goals simp only [Value.list.sizeOf_spec, Value.tuple.sizeOf_spec, Value.map.sizeOf_spec,
    Value.knot.sizeOf_spec]
  · have hsize := List.sizeOf_lt_of_mem hu
    omega
  · have hsize := List.sizeOf_lt_of_mem hu
    omega
  · have hsize := List.sizeOf_lt_of_mem hu
    simp only [Prod.mk.sizeOf_spec] at hsize
    omega
  · omega

/-- What is in sight of a value that contains itself was in it before. -/
theorem Value.Has.of_opened {v : Value} {a : Atom} (h : v.opened.Has a) : v.Has a := by
  cases v with
  | knot id content =>
    rcases Value.Has.of_tie id _ content h with h | h
    · exact .knot h
    · exact h
  | _ => exact h

/-! ## Properties of all atoms -/

/-- All atoms of the value have a property. -/
def Value.All (P : Atom → Prop) (v : Value) : Prop := ∀ a, v.Has a → P a

theorem Value.All.opened {P : Atom → Prop} {v : Value} (h : v.All P) : v.opened.All P :=
  fun a ha => h a ha.of_opened

theorem Value.All.mono {P Q : Atom → Prop} {v : Value} (h : v.All P) (hle : ∀ a, P a → Q a) : v.All Q :=
  fun a ha => hle a (h a ha)

theorem Value.all_atom {P : Atom → Prop} {a : Atom} (h : P a) : (Value.atom a).All P := by
  intro b hb
  cases hb
  exact h

/-! ## Values that can be shown -/

theorem areWritable_iff {items : List Value} :
    areWritable items = true ↔ ∀ v ∈ items, v.isWritable = true := by
  induction items with
  | nil => simp [areWritable]
  | cons v items ih => rw [areWritable, Bool.and_eq_true, ih, List.forall_mem_cons]

theorem entriesWritable_iff {entries : List (Label × Value)} :
    entriesWritable entries = true ↔ ∀ e ∈ entries, e.1.isWritable = true ∧ e.2.isWritable = true := by
  induction entries with
  | nil => simp [entriesWritable]
  | cons e entries ih =>
    obtain ⟨k, v⟩ := e
    rw [entriesWritable, Bool.and_eq_true, Bool.and_eq_true, ih, List.forall_mem_cons]

/-- The atoms of a value that can be shown can be, too. -/
theorem Value.all_of_isWritable {v : Value} (h : v.isWritable = true) : v.All (·.isWritable = true) := by
  intro a ha
  induction ha with
  | atom a => rwa [Value.isWritable] at h
  | list hv _ ih =>
    rw [Value.isWritable, areWritable_iff] at h
    exact ih (h _ hv)
  | tuple hv _ ih =>
    rw [Value.isWritable, areWritable_iff] at h
    exact ih (h _ hv)
  | key he hb =>
    rw [Value.isWritable, entriesWritable_iff] at h
    exact List.all_eq_true.mp (h _ he).1 _ hb
  | entry he _ ih =>
    rw [Value.isWritable, entriesWritable_iff] at h
    exact ih (h _ he).2
  | set hk hb =>
    rw [Value.isWritable, List.all_eq_true] at h
    exact List.all_eq_true.mp (h _ hk) _ hb
  | knot _ ih =>
    rw [Value.isWritable] at h
    exact ih h

/-- A value can be shown if its atoms can. -/
theorem Value.isWritable_of_all {v : Value} (h : v.All (·.isWritable = true)) : v.isWritable = true := by
  cases v with
  | atom a =>
    rw [Value.isWritable]
    exact h a (.atom a)
  | list items =>
    rw [Value.isWritable, areWritable_iff]
    exact fun u hu => isWritable_of_all fun a ha => h a (.list hu ha)
  | tuple items =>
    rw [Value.isWritable, areWritable_iff]
    exact fun u hu => isWritable_of_all fun a ha => h a (.tuple hu ha)
  | map entries =>
    rw [Value.isWritable, entriesWritable_iff]
    exact fun e he => ⟨List.all_eq_true.mpr fun a ha => h a (.key he ha),
      isWritable_of_all fun a ha => h a (.entry he ha)⟩
  | set items =>
    rw [Value.isWritable, List.all_eq_true]
    exact fun k hk => List.all_eq_true.mpr fun a ha => h a (.set hk ha)
  | knot id content =>
    rw [Value.isWritable]
    exact isWritable_of_all fun a ha => h a (.knot ha)
  | again id => rw [Value.isWritable]
termination_by sizeOf v
decreasing_by
  all_goals subst_vars
  all_goals simp only [Value.list.sizeOf_spec, Value.tuple.sizeOf_spec, Value.map.sizeOf_spec,
    Value.knot.sizeOf_spec]
  · have hsize := List.sizeOf_lt_of_mem hu
    omega
  · have hsize := List.sizeOf_lt_of_mem hu
    omega
  · have hsize := List.sizeOf_lt_of_mem he
    have hpair : sizeOf e = 1 + sizeOf e.1 + sizeOf e.2 := Prod.mk.sizeOf_spec e.1 e.2
    omega
  · omega

/-! ## Labels as values -/

mutual

/-- What is in a label as a value is an atom of it. -/
theorem Label.mem_atoms_of_has {a : Atom} : ∀ k : Label, k.value.Has a → a ∈ k.atoms
  | .atom b, h => by
    cases h
    exact List.mem_singleton_self a
  | .tuple items, h => by
    cases h with
    | tuple hv h => exact mem_atomsOfLabels_of_has items _ hv h

theorem mem_atomsOfLabels_of_has {a : Atom} : ∀ (items : List Label) (v : Value),
    v ∈ labelValues items → v.Has a → a ∈ atomsOfLabels items
  | k :: rest, v, hv, h => by
    rw [atomsOfLabels, List.mem_append]
    rcases List.mem_cons.mp hv with rfl | hv
    · exact .inl (k.mem_atoms_of_has h)
    · exact .inr (mem_atomsOfLabels_of_has rest v hv h)

end

/-! ## Integers that have doubles -/

/-- The atom is no integer beyond the doubles. -/
def Atom.Readable : Atom → Prop
  | .int n => (Decimal.ofInt n).isFinite = true
  | _ => True

/-- Every integer in the value has a double. -/
def Value.Readable (v : Value) : Prop := v.All Atom.Readable

namespace Value

theorem readable_str (s : String) : (Value.str s).Readable := all_atom trivial

theorem readable_octet (x : UInt8) : (Atom.int x.toNat).Readable := by
  have hbelow : Decimal.Below 12 (Decimal.ofInt x.toNat) := by
    refine Decimal.ofRatio_below Nat.one_pos ?_ _
    have hlt := x.toNat_lt
    simpa using hlt
  exact hbelow.isFinite (by decide)

/-- The parts of a value are parts of it, characters of a text, or octets. -/
theorem Readable.items {v : Value} (h : v.Readable) {items : List Value} (hitems : v.items? = some items) :
    ∀ u ∈ items, u.Readable := by
  have hopened := All.opened h
  intro u hu
  unfold items? at hitems
  split at hitems
  · cases hitems
    obtain ⟨c, -, rfl⟩ := List.mem_map.mp hu
    exact readable_str _
  · cases hitems
    obtain ⟨x, -, rfl⟩ := List.mem_map.mp hu
    intro a ha
    cases ha
    exact readable_octet x
  · next heq =>
    cases hitems
    rw [heq] at hopened
    exact fun a ha => hopened a (.list hu ha)
  · next heq =>
    cases hitems
    rw [heq] at hopened
    exact fun a ha => hopened a (.tuple hu ha)
  · next heq =>
    cases hitems
    rw [heq] at hopened
    obtain ⟨e, he, rfl⟩ := List.mem_map.mp hu
    exact fun a ha => hopened a (.key he (e.1.mem_atoms_of_has ha))
  · next heq =>
    cases hitems
    rw [heq] at hopened
    obtain ⟨k, hk, rfl⟩ := List.mem_map.mp hu
    exact fun a ha => hopened a (.set hk (k.mem_atoms_of_has ha))
  · cases hitems

end Value

end Wireframe.Document
