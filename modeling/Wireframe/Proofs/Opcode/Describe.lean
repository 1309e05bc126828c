import Mathlib.Data.List.TakeWhile
import Wireframe.Opcode.Describe
import Wireframe.Proofs.Failure

/-!
# `Wireframe.Proofs.Opcode.Describe` — instructions that cannot be written on one line

An instruction that cannot be written fails for a part of a sequence that is no number, or for a number
that is too large. These failures take the place of that of the instruction itself where the report of it
cannot be made (`handedOn`). A pop, among others, has nothing that could stand in the way.

## Contents
- `describe_within`: how writing an instruction fails.
- `firstWord_describe`: a line starts with the keyword.
- `handedOn`: the failure that is handed on; `handedOn_emptyStack`: it is for want of a coordinate system
  only if the instruction failed so.
-/

namespace Wireframe

open Document

/-- The kinds of failures of writing an instruction. -/
abbrev lineFailures : List Kind := [.value, .type, .overflow]

/-! ## The first word of a line -/

/-- What stands before the first blank of a line. -/
def firstWord (line : String) : String := String.ofList (line.toList.takeWhile (· != ' '))

/-- What follows the first blank does not count. -/
theorem firstWord_append {word : String} (hword : ∀ c ∈ word.toList, c ≠ ' ') (rest : String) :
    firstWord word = word ∧ firstWord (word ++ " " ++ rest) = word := by
  have hall : word.toList.takeWhile (· != ' ') = word.toList :=
    List.takeWhile_eq_self_iff.mpr fun c hc => bne_iff_ne.mpr (hword c hc)
  refine ⟨?_, ?_⟩
  · rw [firstWord, hall, String.ofList_toList]
  · have hstop : (" " ++ rest).toList.takeWhile (· != ' ') = [] := by
      rw [String.toList_append]
      rfl
    rw [firstWord, String.append_assoc, String.toList_append,
      List.takeWhile_append_of_pos fun c hc => bne_iff_ne.mpr (hword c hc), hstop, List.append_nil,
      String.ofList_toList]

theorem Form.keyword_unbroken (f : Form) : ∀ c ∈ f.keyword.toList, c ≠ ' ' := by
  have hall : f.keyword.toList.all (· != ' ') = true := by cases f <;> rfl
  intro c hc
  exact bne_iff_ne.mp (List.all_eq_true.mp hall c hc)

/-! ## How writing fails -/

theorem Document.Value.brief_within (v : Value) : Within lineFailures v.brief := by
  unfold Value.brief
  split
  · exact .ok _
  · exact .ok _
  · exact .ok _
  · refine Within.bind ?_ fun x _ => .ok _
    unfold floatOfInt
    dsimp only
    split
    · exact .ok _
    · exact .error (by decide)
  · exact .ok _
  · exact .ok _
  · exact .error (by decide)
  · exact .error (by decide)

theorem briefItems_within (items : List Value) : Within lineFailures (briefItems items) := by
  induction items with
  | nil => exact .ok []
  | cons v rest ih => exact v.brief_within.bind fun part _ => ih.bind fun parts _ => .ok _

theorem nameText_within (v : Name) : Within lineFailures (nameText v) := by
  unfold nameText
  split
  · exact .ok _
  · exact (briefItems_within _).bind fun parts _ => .ok _
  · split
    · exact .ok _
    · exact .error (by decide)

variable {α : Type} [Shown α]

theorem Field.describe_within (f : Field α) : Within lineFailures f.describe := by
  unfold Field.describe
  split
  · exact .ok _
  · exact .ok _
  · split
    · exact .ok _
    · exact .error (by decide)
  · exact .ok _
  · exact .ok _
  · exact (nameText_within _).bind fun text _ => .ok _

theorem describeFields_within (fields : List (String × Field α)) :
    Within lineFailures (describeFields fields) := by
  induction fields with
  | nil => exact .ok []
  | cons f rest ih => exact f.2.describe_within.bind fun content _ => ih.bind fun parts _ => .ok _

namespace Opcode

/-- An instruction that cannot be written fails for a value, a type or a number that is too large. -/
theorem describe_within (op : Opcode α) : Within lineFailures op.describe :=
  (describeFields_within op.fields).bind fun _ _ => .ok _

/-- A line starts with the keyword of its instruction. -/
theorem firstWord_describe {op : Opcode α} {line : String} (h : op.describe = .ok line) :
    firstWord line = op.keyword := by
  have hword : ∀ c ∈ op.keyword.toList, c ≠ ' ' := op.form.keyword_unbroken
  obtain ⟨parts, -, h⟩ := bind_ok h
  cases h
  cases parts with
  | nil => exact (firstWord_append hword "").1
  | cons part rest => rw [String.intercalate_cons_cons, (firstWord_append hword _).2]

/-! ## The failure that is handed on -/

/-- The failure that is handed on when an instruction fails: its own, unless it cannot be written. -/
def handedOn (op : Opcode α) (e : Error) : Error :=
  match op.describe with
  | .ok _ => e
  | .error e' => e'

theorem handedOn_of_ok {op : Opcode α} {line : String} (h : op.describe = .ok line) (e : Error) :
    op.handedOn e = e := by rw [handedOn, h]

theorem handedOn_of_error {op : Opcode α} {e' : Error} (h : op.describe = .error e') (e : Error) :
    op.handedOn e = e' := by rw [handedOn, h]

/-- A failure for want of a coordinate system that is handed on is that of the instruction. -/
theorem handedOn_emptyStack {op : Opcode α} {e : Error} (h : (op.handedOn e).kind = .emptyStack) :
    op.handedOn e = e := by
  cases hline : op.describe with
  | ok line => exact handedOn_of_ok hline e
  | error e' =>
    rw [handedOn_of_error hline] at h
    have hkind := op.describe_within e' hline
    rw [h] at hkind
    exact absurd hkind (by decide)

end Opcode

end Wireframe
