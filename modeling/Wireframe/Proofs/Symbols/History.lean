import Wireframe.Proofs.Symbols.Operation

/-!
# `Wireframe.Proofs.Symbols.History` — a table of symbols over any history

Operations follow one another on a table, and some of them fail. Whatever they were, the table is a typed
map: names stay where they were declared, with the kind they were declared with; a name answers what the
last operation that succeeded has written to it; and an operation succeeds if and only if its name, its
kind and its content fit.

## Contents
- `performAll`, `writes`: a history, and what it writes to a name.
- `performAll_typed`, `performAll_prefix`, `performAll_content`, `content_last`: what a history keeps, and
  what is found.
- `matrix_given`: where matrices come from.
- `Operation.Fits`, `perform_isOk`: when an operation succeeds.
- `get_cases`, `getMatrix_cases`, `declare_again`: what is read, and what is declared once more.
- `TypedMap`, `typed_map`: the table of a history.
-/

namespace Wireframe

open Document
open Symbols (Content Operation Answer)

variable {α : Type} [Scalar α]

namespace Symbols

/-! ## Histories -/

/-- The table after operations, whatever each of them answered. -/
def performAll (s : Symbols α) (ops : List (Operation α)) : Symbols α :=
  ops.foldl (fun s op => (s.perform op).1) s

/-- What operations write to a name, one after the other. -/
def writes (x : Label) (s : Symbols α) : List (Operation α) → List (Content α)
  | [] => []
  | op :: rest => (op.written s x).toList ++ writes x (s.perform op).1 rest

variable {s : Symbols α}

theorem performAll_append (s : Symbols α) (ops more : List (Operation α)) :
    s.performAll (ops ++ more) = (s.performAll ops).performAll more := List.foldl_append

theorem Typed.performAll_typed (hs : s.Typed) (ops : List (Operation α)) : (s.performAll ops).Typed := by
  induction ops generalizing s with
  | nil => exact hs
  | cons op rest ih => exact ih (hs.perform_typed op)

/-- No name is forgotten, none changes its kind, and none moves. -/
theorem Typed.performAll_prefix (hs : s.Typed) (ops : List (Operation α)) :
    s.kinds.entries <+: (s.performAll ops).kinds.entries := by
  induction ops generalizing s with
  | nil => exact List.prefix_rfl
  | cons op rest ih => exact (hs.perform_prefix op).trans (ih (hs.perform_typed op))

/-- A name has the content that was written last. -/
theorem Typed.performAll_content (hs : s.Typed) (ops : List (Operation α)) (x : Label) :
    (s.performAll ops).content? x = (writes x s ops).getLast?.or (s.content? x) := by
  induction ops generalizing s with
  | nil => rfl
  | cons op rest ih =>
    have hlast : (op.written s x).toList.getLast? = op.written s x := by
      cases op.written s x <;> rfl
    rw [Symbols.performAll, List.foldl_cons, ← Symbols.performAll, ih (hs.perform_typed op),
      hs.perform_content, writes, List.getLast?_append, hlast, Option.or_assoc]

/-- In a table that started empty, a name has the content that was written last, or none. -/
theorem content_last (ops : List (Operation α)) (x : Label) :
    (performAll {} ops : Symbols α).content? x = (writes x {} ops).getLast? := by
  rw [typed_empty.performAll_content]
  exact Option.or_none

/-- What is written to a name was given by an operation. -/
theorem mem_writes {x : Label} {c : Content α} {ops : List (Operation α)} (h : c ∈ writes x s ops) :
    ∃ op ∈ ops, ∃ s', op.gives s' x = some c := by
  induction ops generalizing s with
  | nil => cases h
  | cons op rest ih =>
    rcases List.mem_append.mp h with h | h
    · have hwritten := Option.mem_toList.mp h
      unfold Operation.written at hwritten
      split at hwritten
      · exact ⟨op, List.mem_cons_self, s, hwritten⟩
      · cases hwritten
    · obtain ⟨op', hmem, hgives⟩ := ih h
      exact ⟨op', List.mem_cons_of_mem _ hmem, hgives⟩

/-! ## Where matrices come from -/

omit [Scalar α] in
theorem matrix_of_toOption {a : Tensor α} {t : Matrix α}
    (h : (Matrix.ofTensor? a).toOption.map Content.matrix = some (.matrix t)) : a = t.toTensor := by
  obtain ⟨t', ht', heq⟩ := Option.map_eq_some_iff.mp h
  cases heq
  exact ofTensor_eq_ok.mp (ok_of_toOption ht')

/-- The array that an operation brings for a matrix. -/
def Operation.array? : Operation α → Option (Tensor α)
  | .declare _ (.ok (.matrix (some (.ok a)))) | .setMatrix _ (.ok a) => some a
  | _ => none

/-- A matrix that is written is the identity or was brought as an array of shape (4, 4). -/
theorem matrix_given {op : Operation α} {x : Label} {t : Matrix α}
    (h : op.gives s x = some (.matrix t)) : t = .identity ∨ op.array? = some t.toTensor := by
  unfold Operation.gives at h
  split at h
  · split at h
    · unfold Declaration.gives at h
      split at h
      · cases h
      · split at h <;> cases h
      · exact .inr (congrArg some (matrix_of_toOption h))
      · split at h
        · cases h
          exact .inl rfl
        · cases h
      · cases h
    · cases h
  · split at h <;> cases h
  · split at h <;> cases h
  · split at h
    · exact .inr (congrArg some (matrix_of_toOption h))
    · cases h
  · cases h

end Symbols

/-! ## When operations succeed -/

/-- The content of a declaration, if it brings one, is there and is of the declared kind. -/
def Declaration.Readable : Declaration α → Prop
  | .value (some content) => ∃ v, content = .ok v
  | .matrix (some content) => ∃ t : Matrix α, content = .ok t.toTensor
  | _ => True

namespace Symbols

variable {s : Symbols α}

/-- The name, the kind and the content of an operation fit the table. -/
def Operation.Fits (s : Symbols α) : Operation α → Prop
  | .declare name reading => ∃ d k, reading = .ok d ∧ name.label? = some k ∧
      (s.kind? k = none ∨ s.kind? k = some d.kind) ∧ d.Readable
  | .lookup name => ∃ k kind, name.label? = some k ∧ s.kind? k = some kind
  | .set ref value => ∃ k v, ref.name.label? = some k ∧ s.kind? k = some .value ∧ value = .ok v
  | .setAll value => (∃ v, value = .ok v) ∨ ∀ k, s.kind? k ≠ some .value
  | .setMatrix ref array => ∃ k, ∃ t : Matrix α,
      ref.name.label? = some k ∧ s.kind? k = some .matrix ∧ array = .ok t.toTensor
  | .get ref => ∃ k v, ref.name.label? = some k ∧ s.content? k = some (.value v)
  | .getMatrix ref => ∃ k t, ref.name.label? = some k ∧ s.content? k = some (.matrix t)

omit [Scalar α] in
theorem change_isOk (s : Symbols α) (r : Except Error (Symbols α)) : (s.change r).2.isOk = r.isOk := by
  cases r <;> rfl

theorem giveContent_isOk (s : Symbols α) (k : Label) (d : Declaration α) :
    (s.giveContent k d).isOk = true ↔ d.Readable := by
  constructor
  · intro h
    obtain ⟨s', h⟩ := isOk_iff.mp h
    cases d with
    | material => trivial
    | value content =>
      cases content with
      | none => trivial
      | some content =>
        obtain ⟨v, rfl, -⟩ := map_ok h
        exact ⟨v, rfl⟩
    | matrix content =>
      cases content with
      | none => trivial
      | some content =>
        rw [giveContent_matrix] at h
        obtain ⟨t, hread, -⟩ := map_ok h
        obtain ⟨array, rfl, ht⟩ := bind_ok hread
        exact ⟨t, congrArg _ (ofTensor_eq_ok.mp ht)⟩
  · intro h
    cases d with
    | material => rfl
    | value content =>
      cases content with
      | none => exact (apply_ite Except.isOk _ _ _).trans (ite_self _)
      | some content =>
        obtain ⟨v, rfl⟩ := h
        rfl
    | matrix content =>
      cases content with
      | none => exact (apply_ite Except.isOk _ _ _).trans (ite_self _)
      | some content =>
        obtain ⟨t, rfl⟩ := h
        rfl

omit [Scalar α] in
/-- A name that is a key is found with its kind. -/
theorem lookup_known {k : Label} {name : Name} {kind : SymbolKind} (hkey : name.label? = some k)
    (hkind : s.kind? k = some kind) : s.lookup name = .ok ⟨name, kind⟩ := by
  simp only [lookup, nameKey_eq_ok.mpr hkey, bind, Except.bind, hkind]
  rfl

/-- A declaration succeeds if its name is new or known with its kind, and its content can be read. -/
theorem declare_isOk {name : Name} {d : Declaration α} :
    (s.declare name d).2.isOk = true ↔
      ∃ k, name.label? = some k ∧ (s.kind? k = none ∨ s.kind? k = some d.kind) ∧ d.Readable := by
  cases hclaim : s.claim name d.kind with
  | error e =>
    rw [declare_of_claim_error hclaim]
    refine ⟨nofun, ?_⟩
    rintro ⟨k, hkey, hkind, -⟩
    rw [claim_eq_ok.mpr ⟨hkey, hkind⟩] at hclaim
    cases hclaim
  | ok k =>
    obtain ⟨hkey, hkind⟩ := claim_eq_ok.mp hclaim
    have hgive : (s.declare name d).2.isOk = ((s.extended k d.kind).giveContent k d).isOk := by
      rw [declare_of_claim hclaim]
      cases (s.extended k d.kind).giveContent k d <;> rfl
    rw [hgive, giveContent_isOk]
    constructor
    · exact fun h => ⟨k, hkey, hkind, h⟩
    · rintro ⟨_, -, -, h⟩
      exact h

/-- **What fits succeeds**, and nothing else. -/
theorem Typed.perform_isOk (hs : s.Typed) (op : Operation α) :
    (s.perform op).2.isOk = true ↔ op.Fits s := by
  cases op with
  | declare name reading =>
    cases reading with
    | error e => exact ⟨nofun, nofun⟩
    | ok d =>
      rw [perform, isOk_map, declare_isOk]
      constructor
      · rintro ⟨k, h⟩
        exact ⟨d, k, rfl, h⟩
      · rintro ⟨_, k, hd, h⟩
        cases hd
        exact ⟨k, h⟩
  | lookup name =>
    rw [perform, isOk_map]
    constructor
    · intro h
      obtain ⟨ref, h⟩ := isOk_iff.mp h
      obtain ⟨k, hk, h⟩ := bind_ok h
      cases hkind : s.kind? k with
      | none =>
        rw [hkind] at h
        cases h
      | some kind => exact ⟨k, kind, nameKey_eq_ok.mp hk, hkind⟩
    · rintro ⟨k, kind, hkey, hkind⟩
      exact isOk_iff.mpr ⟨_, lookup_known hkey hkind⟩
  | set ref value =>
    rw [perform, change_isOk]
    constructor
    · intro h
      obtain ⟨s', h⟩ := isOk_iff.mp h
      obtain ⟨k, v, hkey, hkind, rfl, -⟩ := setWith_eq_ok.mp h
      exact ⟨k, v, hkey, hkind, rfl⟩
    · rintro ⟨k, v, hkey, hkind, rfl⟩
      exact isOk_iff.mpr ⟨_, setWith_eq_ok.mpr ⟨k, v, hkey, hkind, rfl, rfl⟩⟩
  | setAll value =>
    rw [perform, change_isOk]
    constructor
    · intro h
      obtain ⟨s', h⟩ := isOk_iff.mp h
      unfold setAllWith at h
      split at h
      · next hnone =>
        refine .inr fun k hk => ?_
        have hany := s.knobs_any hk
        rw [hnone] at hany
        cases hany
      · obtain ⟨v, rfl, -⟩ := bind_ok h
        exact .inl ⟨v, rfl⟩
    · rintro (⟨v, rfl⟩ | h)
      · exact isOk_iff.mpr ⟨_, s.setAll_eq v⟩
      · have hnone : s.knobs = [] := by
          refine List.eq_nil_iff_forall_not_mem.mpr fun k hk => h k ?_
          exact hs.knobs_any_iff.mp (List.any_eq_true.mpr ⟨k, hk, BEq.rfl⟩)
        rw [setAllWith, hnone]
        rfl
  | setMatrix ref array =>
    rw [perform, change_isOk]
    constructor
    · intro h
      obtain ⟨s', h⟩ := isOk_iff.mp h
      obtain ⟨k, t, hkey, hkind, rfl, -⟩ := setMatrixWith_eq_ok.mp h
      exact ⟨k, t, hkey, hkind, rfl⟩
    · rintro ⟨k, t, hkey, hkind, rfl⟩
      exact isOk_iff.mpr ⟨_, setMatrixWith_eq_ok.mpr ⟨k, t, hkey, hkind, rfl, rfl⟩⟩
  | get ref =>
    rw [perform, isOk_map]
    constructor
    · intro h
      obtain ⟨v, h⟩ := isOk_iff.mp h
      obtain ⟨k, hkey, hkind, hv⟩ := s.get_eq_ok.mp h
      exact ⟨k, v, hkey, by rw [hs.content_value hkind, hv]; rfl⟩
    · rintro ⟨k, v, hkey, hcontent⟩
      exact isOk_iff.mpr ⟨v, s.get_eq_ok.mpr ⟨k, hkey, hs.value_of_content hcontent⟩⟩
  | getMatrix ref =>
    rw [perform, isOk_map]
    constructor
    · intro h
      obtain ⟨t, h⟩ := isOk_iff.mp h
      obtain ⟨k, hkey, hkind, ht⟩ := s.getMatrix_eq_ok.mp h
      exact ⟨k, t, hkey, by rw [hs.content_matrix hkind, ht]; rfl⟩
    · rintro ⟨k, t, hkey, hcontent⟩
      exact isOk_iff.mpr ⟨t, s.getMatrix_eq_ok.mpr ⟨k, hkey, hs.matrix_of_content hcontent⟩⟩

/-! ## The table of a history -/

/-- The table that a history has led to is a typed map. -/
structure TypedMap (ops : List (Operation α)) (s : Symbols α) : Prop where
  /-- Names are there once, in the order in which they were declared, and whatever follows leaves them
  there, with their kinds. -/
  once : ∀ e ∈ s.kinds.entries, s.kind? e.1 = some e.2
  kept : ∀ more, s.kinds.entries <+: (s.performAll more).kinds.entries
  /-- Names come from declarations alone, one at a time. -/
  grown : ∀ op, (s.perform op).1.kinds = s.kinds ∨
    ∃ k kind, op.Introduces s k kind ∧ (s.perform op).1.kinds = s.kinds.insert k kind
  /-- Only knobs have values, and only coordinate systems have matrices, which are the identity or were
  brought as arrays of shape (4, 4). -/
  values : ∀ x v, s.values.find? x = some v → s.kind? x = some .value
  matrices : ∀ x t, s.matrices.find? x = some t →
    s.kind? x = some .matrix ∧ (t = .identity ∨ ∃ op ∈ ops, op.array? = some t.toTensor)
  /-- An operation succeeds if and only if it fits. -/
  fits : ∀ op, (s.perform op).2.isOk = true ↔ op.Fits s
  /-- A name is found with its kind. -/
  found : ∀ name k kind, name.label? = some k → s.kind? k = some kind →
    s.perform (.lookup name) = (s, .ok (.ref ⟨name, kind⟩))
  /-- A knob answers the value that was written last, whatever the reference says of its kind. -/
  value : ∀ ref k, ref.name.label? = some k → s.kind? k = some .value →
    (writes k {} ops = [] ∧ s.perform (.get ref) = (s, .error .withoutValue)) ∨
      ∃ v, (writes k {} ops).getLast? = some (.value v) ∧ s.perform (.get ref) = (s, .ok (.value v))
  /-- A coordinate system answers the matrix that was written last. -/
  matrix : ∀ ref k, ref.name.label? = some k → s.kind? k = some .matrix →
    (writes k {} ops = [] ∧ s.perform (.getMatrix ref) = (s, .error .withoutValue)) ∨
      ∃ t, (writes k {} ops).getLast? = some (.matrix t) ∧
        s.perform (.getMatrix ref) = (s, .ok (.matrix t))
  /-- To declare a name that has a content once more, without a content, changes nothing. -/
  again : ∀ name k kind, name.label? = some k → s.kind? k = some kind → writes k {} ops ≠ [] →
    s.perform (.declare name (.ok kind.bare)) = (s, .ok (.ref ⟨name, kind⟩))
  /-- A name that is not declared is not found, and cannot be used. -/
  unknown : ∀ op name k, op = .lookup name ∨ (∃ kind, op.use? = some (name, kind)) →
    name.label? = some k → k.isWritable = true → s.kind? k = none →
    s.perform op = (s, .error (.undeclared k))
  /-- A name of one kind cannot be used for another one. -/
  misused : ∀ op name k kind wanted, op.use? = some (name, wanted) → name.label? = some k →
    k.isWritable = true → s.kind? k = some kind → kind ≠ wanted →
    s.perform op = (s, .error (.wrongKind k kind.word wanted.word))
  /-- Nor can it be declared with another one. -/
  disputed : ∀ name k kind d, name.label? = some k → k.isWritable = true →
    s.kind? k = some kind → kind ≠ d.kind →
    s.perform (.declare name (.ok d)) = (s, .error (.declaredAs k kind.word))

variable {k : Label}

/-- A knob answers its value. -/
theorem Typed.get_cases (hs : s.Typed) {ref : SymbolRef} (hkey : ref.name.label? = some k)
    (hkind : s.kind? k = some .value) :
    (s.content? k = none ∧ s.perform (.get ref) = (s, .error .withoutValue)) ∨
      ∃ v, s.content? k = some (.value v) ∧ s.perform (.get ref) = (s, .ok (.value v)) := by
  rw [hs.content_value hkind]
  cases hv : s.values.find? k with
  | none =>
    refine .inl ⟨rfl, ?_⟩
    simp only [perform, get, s.require_eq_ok.mpr ⟨hkey, hkind⟩, bind, Except.bind, hv]
    rfl
  | some v =>
    refine .inr ⟨v, rfl, ?_⟩
    rw [perform, s.get_eq_ok.mpr ⟨k, hkey, hkind, hv⟩]
    rfl

/-- A coordinate system answers its matrix. -/
theorem Typed.getMatrix_cases (hs : s.Typed) {ref : SymbolRef} (hkey : ref.name.label? = some k)
    (hkind : s.kind? k = some .matrix) :
    (s.content? k = none ∧ s.perform (.getMatrix ref) = (s, .error .withoutValue)) ∨
      ∃ t, s.content? k = some (.matrix t) ∧ s.perform (.getMatrix ref) = (s, .ok (.matrix t)) := by
  rw [hs.content_matrix hkind]
  cases ht : s.matrices.find? k with
  | none =>
    refine .inl ⟨rfl, ?_⟩
    simp only [perform, getMatrix, s.require_eq_ok.mpr ⟨hkey, hkind⟩, bind, Except.bind, ht]
    rfl
  | some t =>
    refine .inr ⟨t, rfl, ?_⟩
    rw [perform, s.getMatrix_eq_ok.mpr ⟨k, hkey, hkind, ht⟩]
    rfl

omit [Scalar α] in
theorem lookup_unknown {name : Name} (hkey : name.label? = some k) (hkind : s.kind? k = none) :
    s.lookup name = .error (Error.undeclared k).settled := by
  simp only [lookup, nameKey_eq_ok.mpr hkey, bind, Except.bind, hkind]
  rfl

/-- A declaration without a content leaves a name that has one. -/
theorem Typed.declare_again (hs : s.Typed) {name : Name} {kind : SymbolKind} (hkey : name.label? = some k)
    (hkind : s.kind? k = some kind) (hcontent : (s.content? k).isSome = true) :
    s.declare name kind.bare = (s, .ok ⟨name, kind⟩) := by
  have hgive : s.giveContent k kind.bare = .ok s := by
    cases kind with
    | value => exact if_pos ((hs.contains_value hkind).trans hcontent)
    | matrix => exact if_pos ((hs.contains_matrix hkind).trans hcontent)
    | material => rfl
  have hbare : (SymbolKind.bare kind : Declaration α).kind = kind := SymbolKind.bare_kind kind
  simp only [declare, nameKey_eq_ok.mpr hkey, hkind, hbare, if_true, hgive]

/-- A name cannot be declared with another kind. -/
theorem declare_disputed {name : Name} {kind : SymbolKind} {d : Declaration α}
    (hkey : name.label? = some k) (hkind : s.kind? k = some kind) (hne : kind ≠ d.kind) :
    s.declare name d = (s, .error (Error.declaredAs k kind.word).settled) := by
  simp only [declare, nameKey_eq_ok.mpr hkey, hkind, if_neg hne]

/-- An error that shows one key can be written if the key can. -/
theorem settled_of_values {e : Error} (he : e.values = [k.value]) (hk : k.isWritable = true) :
    e.settled = e := by
  have hall : e.values.all Value.isWritable = true := by
    rw [he, List.all_cons, k.value_isWritable, hk]
    rfl
  rw [Error.settled, if_pos hall]

/-- **A typed map.** Over any history, failures among it, the table is a typed map. -/
theorem typed_map (ops : List (Operation α)) : TypedMap ops (performAll {} ops) := by
  have hs : (performAll {} ops : Symbols α).Typed := typed_empty.performAll_typed ops
  have hcontent := content_last ops
  have hnone : ∀ x, (writes x {} ops).getLast? = none → writes x {} ops = [] :=
    fun x h => List.getLast?_eq_none_iff.mp h
  generalize performAll {} ops = s at hs hcontent
  exact
    { once := fun e he => Dict.find_of_mem hs.once he
      kept := hs.performAll_prefix
      grown := hs.perform_kinds
      values := hs.values
      matrices := by
        intro x t ht
        have hkind := hs.matrices x t ht
        refine ⟨hkind, ?_⟩
        have hlast : (writes x {} ops).getLast? = some (.matrix t) := by
          rw [← hcontent, hs.content_matrix hkind, ht]
          rfl
        obtain ⟨op, hop, s', hgives⟩ := mem_writes (List.mem_of_getLast? hlast)
        exact (matrix_given hgives).imp id fun harray => ⟨op, hop, harray⟩
      fits := hs.perform_isOk
      found := by
        intro name k kind hkey hkind
        rw [perform, lookup_known hkey hkind]
        rfl
      value := by
        intro ref k hkey hkind
        rcases hs.get_cases hkey hkind with ⟨h, hget⟩ | ⟨v, h, hget⟩
        · exact .inl ⟨hnone k ((hcontent k).symm.trans h), hget⟩
        · exact .inr ⟨v, (hcontent k).symm.trans h, hget⟩
      matrix := by
        intro ref k hkey hkind
        rcases hs.getMatrix_cases hkey hkind with ⟨h, hget⟩ | ⟨t, h, hget⟩
        · exact .inl ⟨hnone k ((hcontent k).symm.trans h), hget⟩
        · exact .inr ⟨t, (hcontent k).symm.trans h, hget⟩
      again := by
        intro name k kind hkey hkind hwrites
        have hsome : (s.content? k).isSome = true := by
          rw [hcontent, List.getLast?_isSome]
          exact hwrites
        rw [perform, hs.declare_again hkey hkind hsome]
        rfl
      unknown := by
        rintro op name k (rfl | ⟨wanted, huse⟩) hkey hwritable hkind
        · rw [perform, lookup_unknown hkey hkind, settled_of_values rfl hwritable]
          rfl
        · rw [perform_of_require_error huse (require_undeclared hkey hkind wanted),
            settled_of_values rfl hwritable]
      misused := by
        intro op name k kind wanted huse hkey hwritable hkind hne
        rw [perform_of_require_error huse (require_wrongKind hkey hkind hne),
          settled_of_values rfl hwritable]
      disputed := by
        intro name k kind d hkey hwritable hkind hne
        rw [perform, declare_disputed hkey hkind hne, settled_of_values rfl hwritable]
        rfl }

/-- What a reference says of the kind of its name does not matter, and a write that fails writes nothing. -/
example :
    ((performAll {} [.declare (.str "a") (.ok (.value none)), .set ⟨.str "a", .matrix⟩ (.ok (3.0 : Float)),
      .set ⟨.str "a", .value⟩ (.error .notNumber)]).perform (.get ⟨.str "a", .material⟩)).2 =
      .ok (.value 3.0) := rfl

end Symbols

end Wireframe
