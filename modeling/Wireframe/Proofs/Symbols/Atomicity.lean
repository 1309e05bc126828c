import Mathlib.Data.List.Induction
import Wireframe.Proofs.InPlace
import Wireframe.Proofs.Symbols.History

/-!
# `Wireframe.Proofs.Symbols.Atomicity` — operations that fail half way

Written out write by write, an operation on the table of symbols checks first and writes last, with one
exception: a declaration enters the name before it reads the content. An operation that fails leaves the
table as it was, except that a new name whose content is refused stays declared. Such a name is found, but
cannot be read until something is written to it; every other knob and coordinate system can be read.

## Contents
- `setInPlace`, `setAllInPlace`, `setMatrixInPlace`, `declareInPlace`, `Operation.inPlace`: operations
  write by write.
- `inPlace_eq`: they come to the operations of the table.
- `declare_refused`, `perform_failed`: what is left of an operation that fails.
- `Abandoned`, `writes_nil_iff`: names that were left without a content.
- `failed_operations`: failing half way, and what can be read afterwards.
-/

namespace Wireframe

open Document InPlace
open Symbols (Content Operation Answer)

variable {α : Type}

namespace Symbols

/-! ## Operations write by write -/

/-- Writes the value of a knob. -/
def setInPlace (name : Name) (value : Except Error α) : InPlace (Symbols α) Unit := do
  let k ← look fun s => s.require name .value
  let v ← look fun _ => value
  modify fun s => { s with values := s.values.insert k v }

/-- Writes a value to every knob, and reads the value once more for each. -/
def setAllInPlace (value : Except Error α) : InPlace (Symbols α) Unit := do
  let names ← look fun s => .ok s.knobs
  names.forM fun k => do
    let v ← look fun _ => value
    modify fun s => { s with values := s.values.insert k v }

/-- Writes the matrix of a coordinate system. -/
def setMatrixInPlace (name : Name) (array : Except Error (Tensor α)) : InPlace (Symbols α) Unit := do
  let k ← look fun s => s.require name .matrix
  let a ← look fun _ => array
  let t ← look fun _ => Matrix.ofTensor? a
  modify fun s => { s with matrices := s.matrices.insert k t }

variable [Scalar α]

/-- Gives a name its content. -/
def giveInPlace (name : Name) (k : Label) : Declaration α → InPlace (Symbols α) Unit
  | .value (some content) => do
    let v ← look fun _ => content
    modify fun s => { s with values := s.values.insert k v }
  | .value none => do
    let known ← look fun s => .ok (s.values.contains k)
    if known then pure () else modify fun s => { s with values := s.values.insert k Scalar.zero }
  | .matrix (some array) => setMatrixInPlace name array
  | .matrix none => do
    let known ← look fun s => .ok (s.matrices.contains k)
    if known then pure () else setMatrixInPlace name (.ok Matrix.identity.toTensor)
  | .material => pure ()

/-- Declares a name: the kind is entered before the content is read. -/
def declareInPlace (name : Name) (d : Declaration α) : InPlace (Symbols α) SymbolRef := do
  let k ← look fun s => s.claim name d.kind
  modify fun s => s.extended k d.kind
  giveInPlace name k d
  return ⟨name, d.kind⟩

/-- An operation write by write. -/
def Operation.inPlace : Operation α → InPlace (Symbols α) (Answer α)
  | .declare name reading => do
    let d ← look fun _ => reading
    let r ← declareInPlace name d
    return .ref r
  | .lookup name => do
    let r ← look fun s => s.lookup name
    return .ref r
  | .set ref value => do
    setInPlace ref.name value
    return .done
  | .setAll value => do
    setAllInPlace value
    return .done
  | .setMatrix ref array => do
    setMatrixInPlace ref.name array
    return .done
  | .get ref => do
    let v ← look fun s => s.get ref.name
    return .value v
  | .getMatrix ref => do
    let t ← look fun s => s.getMatrix ref.name
    return .matrix t

omit [Scalar α] in
theorem setInPlace_eq (name : Name) (value : Except Error α) :
    setInPlace name value = atOnce fun s => s.setWith name value := by
  simp only [setInPlace, modify_eq, look_atOnce]
  rfl

omit [Scalar α] in
theorem setMatrixInPlace_eq (name : Name) (array : Except Error (Tensor α)) :
    setMatrixInPlace name array = atOnce fun s => s.setMatrixWith name array := by
  simp only [setMatrixInPlace, modify_eq, look_atOnce]
  rfl

omit [Scalar α] in
theorem foldl_values (names : List Label) (v : α) (s : Symbols α) :
    names.foldl (fun s k => { s with values := s.values.insert k v }) s =
      { s with values := names.foldl (fun d k => d.insert k v) s.values } := by
  induction names generalizing s with
  | nil => rfl
  | cons k rest ih => exact ih { s with values := s.values.insert k v }

omit [Scalar α] in
theorem setAllInPlace_eq (value : Except Error α) :
    setAllInPlace value = atOnce fun s => s.setAllWith value := by
  simp only [setAllInPlace, forM_look_modify, look_atOnce, foldl_values]
  refine congrArg atOnce (funext fun s => ?_)
  unfold setAllWith
  simp only [bind, Except.bind]
  cases s.knobs with
  | nil => rfl
  | cons k rest => cases value <;> rfl

/-- A name that is there with its kind gets its content in one change. -/
theorem giveInPlace_eq {s : Symbols α} {name : Name} {k : Label} {d : Declaration α}
    (hkey : name.label? = some k) (hkind : s.kind? k = some d.kind) :
    giveInPlace name k d s = atOnce (fun s => s.giveContent k d) s := by
  cases d with
  | material => rfl
  | value content =>
    cases content with
    | some content => cases content <;> rfl
    | none =>
      rw [giveInPlace, look_bind_value]
      simp only [atOnce, giveContent]
      split <;> rfl
  | matrix content =>
    have hk := s.require_eq_ok.mpr ⟨hkey, hkind⟩
    cases content with
    | some array =>
      rw [giveInPlace, setMatrixInPlace_eq]
      simp only [atOnce, giveContent_matrix, setMatrixWith_eq hk]
    | none =>
      rw [giveInPlace, look_bind_value]
      simp only [atOnce, giveContent]
      split
      · rfl
      · rw [setMatrixInPlace_eq]
        simp only [atOnce, setMatrixWith_eq hk]
        rfl

theorem declareInPlace_eq (name : Name) (d : Declaration α) :
    declareInPlace name d = ofOutcome fun s => s.declare name d := by
  funext s
  cases hclaim : s.claim name d.kind with
  | error e =>
    rw [declareInPlace, look_bind_error (s := s) hclaim]
    simp only [ofOutcome, declare_of_claim_error hclaim]
  | ok k =>
    obtain ⟨hkey, hkind⟩ := claim_eq_ok.mp hclaim
    have hk : (s.extended k d.kind).kind? k = some d.kind := by rw [extended_kind, if_pos BEq.rfl]
    rw [declareInPlace, look_bind_ok (s := s) hclaim]
    simp only [ofOutcome, declare_of_claim hclaim]
    rw [modify_bind]
    simp only [bind, EStateM.bind, giveInPlace_eq hkey hk, atOnce]
    cases (s.extended k d.kind).giveContent k d <;> rfl

omit [Scalar α] in
theorem ofOutcome_change (f : Symbols α → Except Error (Symbols α)) :
    (atOnce f >>= fun _ => pure .done : InPlace (Symbols α) (Answer α)) =
      ofOutcome fun s => s.change (f s) := by
  funext s
  simp only [bind, EStateM.bind, atOnce, ofOutcome]
  cases f s <;> rfl

/-- Write by write, operations come to the operations of the table. -/
theorem inPlace_eq (op : Operation α) : op.inPlace = ofOutcome fun s => s.perform op := by
  cases op with
  | declare name reading =>
    cases reading with
    | error e => rfl
    | ok d =>
      funext s
      rw [Operation.inPlace, look_bind_value, declareInPlace_eq]
      simp only [bind, EStateM.bind, ofOutcome, perform]
      cases s.declare name d with
      | mk s' r => cases r <;> rfl
  | lookup name => exact look_pure _ _
  | get ref => exact look_pure _ _
  | getMatrix ref => exact look_pure _ _
  | set ref value => rw [Operation.inPlace, setInPlace_eq, ofOutcome_change]; rfl
  | setAll value => rw [Operation.inPlace, setAllInPlace_eq, ofOutcome_change]; rfl
  | setMatrix ref array => rw [Operation.inPlace, setMatrixInPlace_eq, ofOutcome_change]; rfl

/-! ## Names without a content -/

variable {s : Symbols α} {k : Label} {name : Name} {d : Declaration α}

/-- A new name whose content is refused is declared all the same. -/
theorem declare_refused (hkey : name.label? = some k) (hnone : s.kind? k = none) (hd : ¬ d.Readable) :
    ∃ e, s.perform (.declare name (.ok d)) = (s.extended k d.kind, .error e) := by
  have hclaim : s.claim name d.kind = .ok k := claim_eq_ok.mpr ⟨hkey, .inl hnone⟩
  rw [perform, declare_of_claim hclaim]
  cases hgive : (s.extended k d.kind).giveContent k d with
  | ok s' => exact absurd ((giveContent_isOk _ k d).mp (by rw [hgive]; rfl)) hd
  | error e => exact ⟨e, rfl⟩

/-- What is left of an operation that fails. -/
theorem Typed.perform_failed (hs : s.Typed) {op : Operation α} {s' : Symbols α} {e : Error}
    (h : s.perform op = (s', .error e)) :
    s' = s ∨ ∃ name d k, op = .declare name (.ok d) ∧ name.label? = some k ∧ s.kind? k = none ∧
      ¬ d.Readable ∧ s' = s.extended k d.kind := by
  have hfits : ¬ op.Fits s := by
    rw [← hs.perform_isOk, h]
    nofun
  have hcase := hs.outcome op
  rw [h] at hcase
  cases hcase with
  | refused => exact .inl rfl
  | leftOpen hnew =>
    obtain ⟨name, d, rfl, hkey, rfl, hnone⟩ := hnew
    exact .inr ⟨name, d, _, rfl, hkey, hnone, fun hd => hfits ⟨d, _, rfl, hkey, .inl hnone, hd⟩, rfl⟩

theorem writes_append (k : Label) (s : Symbols α) (ops more : List (Operation α)) :
    writes k s (ops ++ more) = writes k s ops ++ writes k (s.performAll ops) more := by
  induction ops generalizing s with
  | nil => rfl
  | cons op rest ih =>
    rw [List.cons_append, writes, writes, ih, List.append_assoc]
    rfl

/-- The content of a new name that the history has declared was refused, and nothing has been written to
it since. -/
def Abandoned (ops : List (Operation α)) (k : Label) : Prop :=
  ∃ before name d since, ops = before ++ .declare name (.ok d) :: since ∧ name.denotes k = true ∧
    (performAll {} before).kind? k = none ∧ ¬ d.Readable ∧
    writes k (performAll {} (before ++ [.declare name (.ok d)])) since = []

/-- What brings in a name and writes nothing to it is a declaration whose content is refused. -/
theorem Typed.unwritten (hs : s.Typed) {op : Operation α} {kind : SymbolKind} (hkind : kind ≠ .material)
    (hnone : s.kind? k = none) (hnew : (s.perform op).1.kind? k = some kind)
    (hwritten : op.written s k = none) :
    ∃ name d, op = .declare name (.ok d) ∧ name.denotes k = true ∧ ¬ d.Readable := by
  rcases hs.perform_kinds op with hkinds | ⟨k', kind', ⟨name, d, rfl, hkey, rfl, hnone'⟩, hkinds⟩
  · rw [kind?, hkinds, ← kind?, hnone] at hnew
    cases hnew
  rw [kind?, hkinds, Dict.find_insert] at hnew
  split at hnew
  · next heq =>
    cases hnew
    have hdenotes : name.denotes k = true := (Value.denotes_of_label hkey k).trans heq
    refine ⟨name, d, rfl, hdenotes, fun hd => ?_⟩
    -- a content that can be read would have been written
    have hfits : Operation.Fits s (.declare name (.ok d)) := ⟨d, k', rfl, hkey, .inl hnone', hd⟩
    obtain ⟨a, ha⟩ := isOk_iff.mp ((hs.perform_isOk _).mpr hfits)
    rw [Operation.written, ha] at hwritten
    simp only [Operation.gives, hdenotes, if_true, hs.content_undeclared hnone] at hwritten
    cases d with
    | material => exact hkind rfl
    | value content =>
      cases content with
      | none => cases hwritten
      | some content =>
        obtain ⟨v, rfl⟩ := hd
        cases hwritten
    | matrix content =>
      cases content with
      | none => cases hwritten
      | some content =>
        obtain ⟨t, rfl⟩ := hd
        cases hwritten
  · rw [← kind?, hnone] at hnew
    cases hnew

/-- Nothing has been written to a knob or a coordinate system if and only if it is abandoned. -/
theorem writes_nil_iff {ops : List (Operation α)} {kind : SymbolKind} (hkind : kind ≠ .material)
    (h : (performAll {} ops : Symbols α).kind? k = some kind) : writes k {} ops = [] ↔ Abandoned ops k := by
  constructor
  · intro hwrites
    induction ops using List.reverseRecOn with
    | nil => cases h
    | append_singleton ops op ih =>
      have hs : (performAll {} ops : Symbols α).Typed := typed_empty.performAll_typed ops
      rw [performAll_append] at h
      rw [writes_append, List.append_eq_nil_iff] at hwrites
      obtain ⟨hbefore, hlast⟩ := hwrites
      have hwritten : op.written (performAll {} ops) k = none := by
        simpa [writes] using hlast
      cases hfound : (performAll {} ops : Symbols α).kind? k with
      | some kind' =>
        have hkept := hs.perform_kind op hfound
        obtain rfl : kind' = kind := Option.some.inj (hkept.symm.trans h)
        obtain ⟨before, name, d, since, rfl, hdenotes, hnone, hd, hsince⟩ := ih hfound hbefore
        refine ⟨before, name, d, since ++ [op], ?_, hdenotes, hnone, hd, ?_⟩
        · rw [List.append_assoc, List.cons_append]
        · rw [writes_append, hsince, List.nil_append, ← performAll_append, List.append_assoc]
          exact hlast
      | none =>
        obtain ⟨name, d, rfl, hdenotes, hd⟩ := hs.unwritten hkind hfound h hwritten
        exact ⟨ops, name, d, [], rfl, hdenotes, hfound, hd, rfl⟩
  · rintro ⟨before, name, d, since, rfl, hdenotes, hnone, hd, hsince⟩
    have hs : (performAll {} before : Symbols α).Typed := typed_empty.performAll_typed before
    obtain ⟨k', hkey, heq⟩ := Value.denotes_iff.mp hdenotes
    have hbefore : writes k {} before = ([] : List (Content α)) := by
      have hlast := content_last before k
      rw [hs.content_undeclared hnone] at hlast
      exact List.getLast?_eq_none_iff.mp hlast.symm
    obtain ⟨e, hrefused⟩ := declare_refused hkey ((Symbols.kind_congr _ heq).trans hnone) hd
    rw [List.append_cons, writes_append, writes_append, hbefore, hsince]
    simp [writes, Operation.written, hrefused]

/-! ## What is left of an operation that fails -/

theorem Typed.get_isOk (hs : s.Typed) {ref : SymbolRef} (hkey : ref.name.label? = some k)
    (hkind : s.kind? k = some .value) :
    (s.perform (.get ref)).2.isOk = true ↔ (s.content? k).isSome = true := by
  rcases hs.get_cases hkey hkind with ⟨h, hget⟩ | ⟨v, h, hget⟩
  · rw [h, hget]
    exact ⟨nofun, nofun⟩
  · rw [h, hget]
    exact ⟨fun _ => rfl, fun _ => rfl⟩

theorem Typed.getMatrix_isOk (hs : s.Typed) {ref : SymbolRef} (hkey : ref.name.label? = some k)
    (hkind : s.kind? k = some .matrix) :
    (s.perform (.getMatrix ref)).2.isOk = true ↔ (s.content? k).isSome = true := by
  rcases hs.getMatrix_cases hkey hkind with ⟨h, hget⟩ | ⟨t, h, hget⟩
  · rw [h, hget]
    exact ⟨nofun, nofun⟩
  · rw [h, hget]
    exact ⟨fun _ => rfl, fun _ => rfl⟩

/-- A name has a content unless it is abandoned. -/
theorem content_isSome {ops : List (Operation α)} {kind : SymbolKind} (hkind : kind ≠ .material)
    (h : (performAll {} ops : Symbols α).kind? k = some kind) :
    ((performAll {} ops : Symbols α).content? k).isSome = true ↔ ¬ Abandoned ops k := by
  rw [content_last, List.getLast?_isSome, ← writes_nil_iff hkind h]

/-- **Failing half way.** Behind any history, an operation that fails, write by write, leaves the table as
it was, but for a new name whose content is refused, which stays declared. Knobs and coordinate systems can
be read unless that has happened to them and nothing has been written to them since. -/
theorem failed_operations (ops : List (Operation α)) :
    (∀ (op : Operation α) s' e, op.inPlace (performAll {} ops) = .error e s' →
      s' = performAll {} ops ∨
        ∃ name d k, op = .declare name (.ok d) ∧ name.label? = some k ∧
          (performAll {} ops).kind? k = none ∧ ¬ d.Readable ∧
          s' = (performAll {} ops).extended k d.kind) ∧
    (∀ (name : Name) (d : Declaration α) k, name.label? = some k → (performAll {} ops).kind? k = none →
      ¬ d.Readable → ∃ e, (Operation.declare name (.ok d)).inPlace (performAll {} ops) =
        .error e ((performAll {} ops).extended k d.kind)) ∧
    (∀ (ref : SymbolRef) k, ref.name.label? = some k → (performAll {} ops).kind? k = some .value →
      (((performAll {} ops).perform (.get ref)).2.isOk = true ↔ ¬ Abandoned ops k)) ∧
    (∀ (ref : SymbolRef) k, ref.name.label? = some k → (performAll {} ops).kind? k = some .matrix →
      (((performAll {} ops).perform (.getMatrix ref)).2.isOk = true ↔ ¬ Abandoned ops k)) := by
  have hs : (performAll {} ops : Symbols α).Typed := typed_empty.performAll_typed ops
  refine ⟨fun op s' e h => ?_, fun name d k hkey hnone hd => ?_, fun ref k hkey hkind => ?_,
    fun ref k hkey hkind => ?_⟩
  · rw [inPlace_eq, ofOutcome_eq_error] at h
    exact hs.perform_failed h
  · obtain ⟨e, hrefused⟩ := declare_refused hkey hnone hd
    refine ⟨e, ?_⟩
    rw [inPlace_eq, ofOutcome_eq_error]
    exact hrefused
  · rw [hs.get_isOk hkey hkind, content_isSome (by nofun) hkind]
  · rw [hs.getMatrix_isOk hkey hkind, content_isSome (by nofun) hkind]

/-- A knob whose value is no number: the declaration fails, the name is found, and reading it fails. -/
theorem refused_knob_stays :
    let declaration : Operation Float := .declare (.str "x") (.ok (.ofValue .value (.str "abc")))
    let s := ((({} : Symbols Float).perform declaration).1)
    (({} : Symbols Float).perform declaration).2 = .error .notNumber ∧
      s.kinds.entries = [(.text "x", .value)] ∧
      s.lookup (.str "x") = .ok ⟨.str "x", .value⟩ ∧ s.get (.str "x") = .error .withoutValue := by
  refine ⟨?_, ?_, ?_, ?_⟩
  · rfl
  · rfl
  · rfl
  · rfl

end Symbols

end Wireframe
