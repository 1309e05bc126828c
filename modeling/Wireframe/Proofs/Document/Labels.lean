import Wireframe.Document.Value

/-!
# `Wireframe.Proofs.Document.Labels` — keys of tables

Two atoms are the same key when they are equal as values, and two labels when their atoms are, one by one.
This is an equivalence, but not identity; only a text is the same key as itself alone. Every label is a
value, and read as a label it is itself again.

## Contents
- The equality of atoms and of labels is an equivalence.
- `text_beq`, `eq_of_text_beq`, `eq_of_str`, `eq_of_label_text`: texts as keys.
- `label_value`, `value_isWritable`: labels as values.
-/

namespace Wireframe.Document

/-! ## Equality -/

/-- Atoms are equal when their keys are. -/
instance : EquivBEq Atom where
  symm {a b} h := by
    have hkey : a.key = b.key := eq_of_beq h
    show (b.key == a.key) = true
    rw [hkey, beq_self_eq_true]
  trans {a b c} hab hbc := by
    have hleft : a.key = b.key := eq_of_beq hab
    have hright : b.key = c.key := eq_of_beq hbc
    show (a.key == c.key) = true
    rw [hleft, hright, beq_self_eq_true]
  rfl {a} := beq_self_eq_true a.key

mutual

theorem Label.beq_rfl : ∀ k : Label, k.beq k = true
  | .atom a => BEq.rfl (a := a)
  | .tuple items => beqLabels_rfl items

theorem beqLabels_rfl : ∀ items : List Label, beqLabels items items = true
  | [] => rfl
  | k :: rest => by rw [beqLabels, k.beq_rfl, beqLabels_rfl rest, Bool.and_self]

end

mutual

theorem Label.beq_symm : ∀ k l : Label, k.beq l = true → l.beq k = true
  | .atom a, .atom _, h => BEq.symm (a := a) h
  | .tuple items, .tuple others, h => beqLabels_symm items others h

theorem beqLabels_symm : ∀ items others : List Label,
    beqLabels items others = true → beqLabels others items = true
  | [], [], _ => rfl
  | k :: rest, l :: others, h => by
    rw [beqLabels, Bool.and_eq_true] at h ⊢
    exact ⟨k.beq_symm l h.1, beqLabels_symm rest others h.2⟩

end

mutual

theorem Label.beq_trans : ∀ k l m : Label, k.beq l = true → l.beq m = true → k.beq m = true
  | .atom a, .atom _, .atom _, hab, hbc => BEq.trans (a := a) hab hbc
  | .tuple items, .tuple others, .tuple more, h, h' => beqLabels_trans items others more h h'

theorem beqLabels_trans : ∀ items others more : List Label,
    beqLabels items others = true → beqLabels others more = true → beqLabels items more = true
  | [], [], [], _, _ => rfl
  | k :: rest, l :: others, m :: more, h, h' => by
    rw [beqLabels, Bool.and_eq_true] at h h' ⊢
    exact ⟨k.beq_trans l m h.1 h'.1, beqLabels_trans rest others more h.2 h'.2⟩

end

/-- Labels are equal when their atoms are, one by one. -/
instance : EquivBEq Label where
  symm {k l} h := k.beq_symm l h
  trans {k l m} h h' := k.beq_trans l m h h'
  rfl {k} := k.beq_rfl

/-! ## Texts -/

/-- Texts are equal as keys when they are the same. -/
theorem Label.text_beq {s t : String} : (Label.text s == Label.text t) = true ↔ s = t := by
  show (Key.text s == Key.text t) = true ↔ s = t
  rw [beq_iff_eq, Key.text.injEq]

theorem Label.text_beq_false {s t : String} (h : s ≠ t) : (Label.text s == Label.text t) = false := by
  rw [Bool.eq_false_iff, Ne, Label.text_beq]
  exact h

/-- An atom with the key of a text is that text. -/
theorem Atom.eq_of_text_key {t : String} {a : Atom} (h : Key.text t = a.key) : a = .text t := by
  cases a with
  | text u =>
    cases h
    rfl
  | float v =>
    simp only [Atom.key] at h
    split at h <;> cases h
  | moment m =>
    simp only [Atom.key] at h
    split at h <;> cases h
  | _ => cases h

/-- What is equal to a text as a key is that text. -/
theorem Label.eq_of_text_beq {t : String} {x : Label} (h : (Label.text t == x) = true) :
    x = .text t := by
  cases x with
  | atom a => rw [Atom.eq_of_text_key (eq_of_beq h)]
  | tuple items => cases h

/-- A label that is a text as a value is that text. -/
theorem Label.eq_of_str {t : String} {k : Label} (h : k.value.str? = some t) : k = .text t := by
  cases k with
  | atom a =>
    cases a with
    | text u =>
      cases h
      rfl
    | _ => cases h
  | tuple items => cases h

/-- A value that is a text as a label is that text. -/
theorem Value.eq_of_label_text {t : String} {v : Value} (h : v.label? = some (.text t)) : v = .str t := by
  cases v with
  | atom a =>
    cases h
    rfl
  | tuple items =>
    rw [Value.label?, Option.map_eq_some_iff] at h
    obtain ⟨_, _, ⟨⟩⟩ := h
  | _ => cases h

/-! ## Labels as values -/

mutual

/-- A label, as a value, is read as itself. -/
theorem Label.label_value : ∀ k : Label, k.value.label? = some k
  | .atom _ => rfl
  | .tuple items => by rw [Label.value, Value.label?, labels_labelValues items, Option.map_some]

theorem labels_labelValues : ∀ items : List Label, labels? (labelValues items) = some items
  | [] => rfl
  | k :: rest => by rw [labelValues, labels?, k.label_value, labels_labelValues rest]

end

mutual

/-- A label can be shown if it can be as a value. -/
theorem Label.value_isWritable : ∀ k : Label, k.value.isWritable = k.isWritable
  | .atom _ => (Bool.and_true _).symm
  | .tuple items => areWritable_labelValues items

theorem areWritable_labelValues : ∀ items : List Label,
    areWritable (labelValues items) = (atomsOfLabels items).all Atom.isWritable
  | [] => rfl
  | k :: rest => by
    rw [labelValues, areWritable, k.value_isWritable, areWritable_labelValues rest, atomsOfLabels,
      List.all_append, Label.isWritable]

end

end Wireframe.Document
