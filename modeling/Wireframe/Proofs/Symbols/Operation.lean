import Wireframe.Proofs.Declaration

/-!
# `Wireframe.Proofs.Symbols.Operation` — one operation on the table of symbols

Whoever works with the table declares names, writes and reads, and goes on whether that succeeds or not.
Operations take references, and a reference may say what it likes of the kind of its name: the table looks
at the name alone. What an operation changes can be told from the kinds, which it never takes away or
changes, and from the contents, which are what it writes.

## Contents
- `Operation`, `Answer`, `perform`: operations, and what they make of a table.
- `perform_of_require_error`: operations whose name is not what they take it for.
- `Content`, `content?`, `Typed`: contents, and tables in which they fit the kinds.
- `Writes`, `writes_value`, `writes_matrix`, `writes_knobs`, `extended`: changes that keep that.
- `Declaration.gives`, `Operation.gives`, `Introduces`: what an operation gives to a name.
- `setWith_eq_ok`, `setMatrixWith_eq_ok`, `declare_of_claim`, `Typed.giveContent`: writes and declarations.
- `Outcome`, `Typed.outcome`: operations by what comes of them.
- `perform_typed`, `perform_kinds`, `perform_content`: what an operation keeps, and what it writes.
-/

namespace Wireframe

open Document

variable {α : Type}

/-! ## Operations -/

/-- What can be asked of a table. Kinds, values and arrays were read before, and that may have failed. -/
inductive Symbols.Operation (α : Type) where
  | declare (name : Name) (d : Except Error (Declaration α))
  | lookup (name : Name)
  | set (ref : SymbolRef) (value : Except Error α)
  | setAll (value : Except Error α)
  | setMatrix (ref : SymbolRef) (array : Except Error (Tensor α))
  | get (ref : SymbolRef)
  | getMatrix (ref : SymbolRef)

/-- What an operation that succeeds answers. -/
inductive Symbols.Answer (α : Type) where
  | done
  | ref (r : SymbolRef)
  | value (x : α)
  | matrix (t : Matrix α)

namespace Symbols

/-- A write: the new table, or the old one with a failure. -/
def change (s : Symbols α) (r : Except Error (Symbols α)) : Symbols α × Except Error (Answer α) :=
  match r with
  | .ok s' => (s', .ok .done)
  | .error e => (s, .error e)

/-- The table after an operation, and its answer. -/
def perform [Scalar α] (s : Symbols α) : Operation α → Symbols α × Except Error (Answer α)
  | .declare _ (.error e) => (s, .error e)
  | .declare name (.ok d) => ((s.declare name d).1, (s.declare name d).2.map .ref)
  | .lookup name => (s, (s.lookup name).map .ref)
  | .set ref value => s.change (s.setWith ref.name value)
  | .setAll value => s.change (s.setAllWith value)
  | .setMatrix ref array => s.change (s.setMatrixWith ref.name array)
  | .get ref => (s, (s.get ref.name).map .value)
  | .getMatrix ref => (s, (s.getMatrix ref.name).map .matrix)

/-- The name that an operation takes for a symbol of a kind. -/
def Operation.use? : Operation α → Option (Name × SymbolKind)
  | .set ref _ | .get ref => some (ref.name, .value)
  | .setMatrix ref _ | .getMatrix ref => some (ref.name, .matrix)
  | _ => none

variable {s s' : Symbols α}

/-! ## Names that are not what is asked for -/

theorem require_undeclared {name : Name} {k : Label} (hk : name.label? = some k) (h : s.kind? k = none)
    (wanted : SymbolKind) : s.require name wanted = .error (Error.undeclared k).settled := by
  simp only [require, nameKey_eq_ok.mpr hk, bind, Except.bind, h]
  rfl

theorem require_wrongKind {name : Name} {k : Label} {kind wanted : SymbolKind} (hk : name.label? = some k)
    (h : s.kind? k = some kind) (hkind : kind ≠ wanted) :
    s.require name wanted = .error (Error.wrongKind k kind.word wanted.word).settled := by
  simp only [require, nameKey_eq_ok.mpr hk, bind, Except.bind, h, if_neg hkind]
  rfl

/-- An operation whose name is not what it takes it for fails for that, and for nothing else. -/
theorem perform_of_require_error [Scalar α] {op : Operation α} {name : Name} {wanted : SymbolKind}
    {e : Error} (hop : op.use? = some (name, wanted)) (h : s.require name wanted = .error e) :
    s.perform op = (s, .error e) := by
  cases op with
  | set ref value =>
    cases hop
    simp only [perform, setWith, h, bind, Except.bind, change]
  | setMatrix ref array =>
    cases hop
    simp only [perform, setMatrixWith, h, bind, Except.bind, change]
  | get ref =>
    cases hop
    simp only [perform, Symbols.get, h, bind, Except.bind, Except.map]
  | getMatrix ref =>
    cases hop
    simp only [perform, Symbols.getMatrix, h, bind, Except.bind, Except.map]
  | _ => cases hop

/-! ## Contents -/

/-- What a name may stand for besides itself. -/
inductive Content (α : Type) where
  | value (x : α)
  | matrix (t : Matrix α)

/-- The content of a name. -/
def content? (s : Symbols α) (x : Label) : Option (Content α) :=
  ((s.values.find? x).map .value).or ((s.matrices.find? x).map .matrix)

/-- Names are declared once, only knobs have values, and only coordinate systems have matrices. -/
structure Typed (s : Symbols α) : Prop where
  once : s.kinds.entries.Pairwise fun a b => (a.1 == b.1) = false
  values : ∀ x v, s.values.find? x = some v → s.kind? x = some .value
  matrices : ∀ x t, s.matrices.find? x = some t → s.kind? x = some .matrix

theorem typed_empty : Typed ({} : Symbols α) := ⟨.nil, nofun, nofun⟩

theorem Typed.no_value (hs : s.Typed) {x : Label} (h : s.kind? x ≠ some .value) :
    s.values.find? x = none := by
  cases hv : s.values.find? x with
  | none => rfl
  | some v => exact absurd (hs.values x v hv) h

theorem Typed.no_matrix (hs : s.Typed) {x : Label} (h : s.kind? x ≠ some .matrix) :
    s.matrices.find? x = none := by
  cases ht : s.matrices.find? x with
  | none => rfl
  | some t => exact absurd (hs.matrices x t ht) h

theorem Typed.content_value (hs : s.Typed) {x : Label} (h : s.kind? x = some .value) :
    s.content? x = (s.values.find? x).map .value := by
  rw [content?, hs.no_matrix (by rw [h]; nofun), Option.map_none, Option.or_none]

theorem Typed.content_matrix (hs : s.Typed) {x : Label} (h : s.kind? x = some .matrix) :
    s.content? x = (s.matrices.find? x).map .matrix := by
  rw [content?, hs.no_value (by rw [h]; nofun), Option.map_none, Option.none_or]

theorem Typed.content_undeclared (hs : s.Typed) {x : Label} (h : s.kind? x = none) :
    s.content? x = none := by
  rw [content?, hs.no_value (by rw [h]; nofun), hs.no_matrix (by rw [h]; nofun)]
  rfl

theorem Typed.value_of_content (hs : s.Typed) {x : Label} {v : α} (h : s.content? x = some (.value v)) :
    s.kind? x = some .value ∧ s.values.find? x = some v := by
  rcases Option.or_eq_some_iff.mp h with hvalue | ⟨-, hmatrix⟩
  · obtain ⟨v', hv, heq⟩ := Option.map_eq_some_iff.mp hvalue
    cases heq
    exact ⟨hs.values x v hv, hv⟩
  · obtain ⟨t, -, heq⟩ := Option.map_eq_some_iff.mp hmatrix
    cases heq

theorem Typed.matrix_of_content (hs : s.Typed) {x : Label} {t : Matrix α}
    (h : s.content? x = some (.matrix t)) : s.kind? x = some .matrix ∧ s.matrices.find? x = some t := by
  rcases Option.or_eq_some_iff.mp h with hvalue | ⟨-, hmatrix⟩
  · obtain ⟨v, -, heq⟩ := Option.map_eq_some_iff.mp hvalue
    cases heq
  · obtain ⟨t', ht, heq⟩ := Option.map_eq_some_iff.mp hmatrix
    cases heq
    exact ⟨hs.matrices x t ht, ht⟩

theorem content_congr {x y : Label} (h : (x == y) = true) : s.content? x = s.content? y := by
  rw [content?, content?, Dict.find_congr h s.values, Dict.find_congr h s.matrices]

/-- A table in which some names have got new contents, and nothing else has changed. -/
structure Writes (s : Symbols α) (w : Label → Option (Content α)) (s' : Symbols α) : Prop where
  typed : s'.Typed
  kinds : s'.kinds = s.kinds
  content : ∀ x, s'.content? x = (w x).or (s.content? x)

theorem Typed.writes_nothing (hs : s.Typed) : s.Writes (fun _ => none) s := ⟨hs, rfl, fun _ => rfl⟩

theorem Writes.congr {w w' : Label → Option (Content α)} (h : s.Writes w s') (hw : ∀ x, w x = w' x) :
    s.Writes w' s' := ⟨h.typed, h.kinds, fun x => by rw [h.content, hw]⟩

/-- Values that are written to knobs. -/
theorem Typed.writes_values (hs : s.Typed) {d : Dict Label α} {w : Label → Option α}
    (hfind : ∀ x, d.find? x = (w x).or (s.values.find? x))
    (hknob : ∀ x v, w x = some v → s.kind? x = some .value) :
    s.Writes (fun x => (w x).map .value) { s with values := d } where
  typed := by
    refine ⟨hs.once, fun x v hv => ?_, hs.matrices⟩
    rw [hfind] at hv
    cases hx : w x with
    | some v' => exact hknob x v' hx
    | none =>
      rw [hx] at hv
      exact hs.values x v hv
  kinds := rfl
  content := by
    intro x
    simp only [content?, hfind]
    cases w x <;> rfl

/-- A value under one key. -/
theorem Typed.writes_value (hs : s.Typed) {k : Label} (hk : s.kind? k = some .value) (v : α) :
    s.Writes (fun x => if k == x then some (.value v) else none)
      { s with values := s.values.insert k v } := by
  have hfind : ∀ x, (s.values.insert k v).find? x =
      (if k == x then some v else none).or (s.values.find? x) := by
    intro x
    rw [Dict.find_insert]
    split <;> rfl
  refine (hs.writes_values hfind fun x v' hv => ?_).congr fun x => by split <;> rfl
  split at hv
  · next heq => exact s.kind_congr heq ▸ hk
  · cases hv

/-- A matrix under one key. -/
theorem Typed.writes_matrix (hs : s.Typed) {k : Label} (hk : s.kind? k = some .matrix) (t : Matrix α) :
    s.Writes (fun x => if k == x then some (.matrix t) else none)
      { s with matrices := s.matrices.insert k t } where
  typed := by
    refine ⟨hs.once, hs.values, fun x t' ht => ?_⟩
    rw [Dict.find_insert] at ht
    split at ht
    · next heq => exact s.kind_congr heq ▸ hk
    · exact hs.matrices x t' ht
  kinds := rfl
  content := by
    intro x
    simp only [content?, Dict.find_insert]
    split
    · next heq =>
      -- a coordinate system has no value that could be found first
      have hx : s.kind? x = some .matrix := s.kind_congr heq ▸ hk
      rw [hs.no_value (by rw [hx]; nofun)]
      rfl
    · rfl

/-- The names of the knobs are those of that kind. -/
theorem Typed.knobs_any_iff (hs : s.Typed) {x : Label} :
    s.knobs.any (· == x) = true ↔ s.kind? x = some .value := by
  constructor
  · intro h
    obtain ⟨k, hk, heq⟩ := List.any_eq_true.mp h
    obtain ⟨e, he, hkey⟩ := List.mem_filterMap.mp hk
    split at hkey
    · next hvalue =>
      cases hkey
      rw [← s.kind_congr heq, kind?, Dict.find_of_mem hs.once he, hvalue]
    · cases hkey
  · exact s.knobs_any

/-- A value for every knob. -/
theorem Typed.writes_knobs (hs : s.Typed) (v : α) :
    s.Writes (fun x => if s.kind? x = some .value then some (.value v) else none)
      { s with values := s.knobs.foldl (fun d k => d.insert k v) s.values } := by
  have hfind : ∀ x, (s.knobs.foldl (fun d k => d.insert k v) s.values).find? x =
      (if s.kind? x = some .value then some v else none).or (s.values.find? x) := by
    intro x
    rw [Dict.find_foldl_insert]
    by_cases hx : s.kind? x = some .value
    · rw [if_pos (hs.knobs_any_iff.mpr hx), if_pos hx]
      rfl
    · rw [if_neg (mt hs.knobs_any_iff.mp hx), if_neg hx]
      rfl
  refine (hs.writes_values hfind fun x v' hv => ?_).congr fun x => by split <;> rfl
  split at hv
  · next hx => exact hx
  · cases hv

/-- A table with one more name, which has no content. -/
def extended (s : Symbols α) (k : Label) (kind : SymbolKind) : Symbols α :=
  { s with kinds := s.kinds.insert k kind }

theorem extended_kind (s : Symbols α) (k x : Label) (kind : SymbolKind) :
    (s.extended k kind).kind? x = if k == x then some kind else s.kind? x := Dict.find_insert k x kind _

/-- A new name leaves the kinds of the others. -/
theorem extended_kept {k x : Label} {kind kind' : SymbolKind} (hk : s.kind? k = none)
    (hx : s.kind? x = some kind') : (s.extended k kind).kind? x = some kind' := by
  rw [extended_kind, if_neg]
  · exact hx
  · intro heq
    rw [s.kind_congr heq, hx] at hk
    cases hk

theorem Typed.extended (hs : s.Typed) {k : Label} (hk : s.kind? k = none) (kind : SymbolKind) :
    (s.extended k kind).Typed := by
  refine ⟨?_, fun x v hv => extended_kept hk (hs.values x v hv),
    fun x t ht => extended_kept hk (hs.matrices x t ht)⟩
  rw [Symbols.extended, Dict.insert_entries hk, List.pairwise_append]
  refine ⟨hs.once, List.pairwise_singleton _ _, fun e he f hf => ?_⟩
  rw [List.mem_singleton.mp hf]
  exact Dict.ne_of_find_none hk e he

end Symbols

/-! ## What an operation writes -/

open Symbols (Content Operation)

variable [Scalar α]

/-- What a declaration gives to a name with a certain content. A name that has none gets one even if the
declaration says nothing of it. -/
def Declaration.gives (before : Option (Content α)) : Declaration α → Option (Content α)
  | .value (some (.ok v)) => some (.value v)
  | .value none => if before.isNone then some (.value Scalar.zero) else none
  | .matrix (some (.ok t)) => (Matrix.ofTensor? t).toOption.map .matrix
  | .matrix none => if before.isNone then some (.matrix .identity) else none
  | _ => none

namespace Symbols

/-- What an operation gives to a name if it succeeds. -/
def Operation.gives (s : Symbols α) (x : Label) : Operation α → Option (Content α)
  | .declare name (.ok d) => if name.denotes x then d.gives (s.content? x) else none
  | .set ref (.ok v) => if ref.name.denotes x then some (.value v) else none
  | .setAll (.ok v) => if s.kind? x = some .value then some (.value v) else none
  | .setMatrix ref (.ok t) =>
    if ref.name.denotes x then (Matrix.ofTensor? t).toOption.map .matrix else none
  | _ => none

/-- An operation declares a name that is new. -/
def Operation.Introduces (s : Symbols α) (op : Operation α) (k : Label) (kind : SymbolKind) : Prop :=
  ∃ name d, op = .declare name (.ok d) ∧ name.label? = some k ∧ d.kind = kind ∧ s.kind? k = none

variable {s s' : Symbols α} {k : Label} {d : Declaration α}

omit [Scalar α] in
theorem Typed.contains_value (hs : s.Typed) (hk : s.kind? k = some .value) :
    s.values.contains k = (s.content? k).isSome := by
  rw [hs.content_value hk, Option.isSome_map, Dict.contains]

omit [Scalar α] in
theorem Typed.contains_matrix (hs : s.Typed) (hk : s.kind? k = some .matrix) :
    s.matrices.contains k = (s.content? k).isSome := by
  rw [hs.content_matrix hk, Option.isSome_map, Dict.contains]

omit [Scalar α] in
/-- The arrays that are matrices are those of shape (4, 4). -/
theorem ofTensor_eq_ok {a : Tensor α} {t : Matrix α} : Matrix.ofTensor? a = .ok t ↔ a = t.toTensor := by
  constructor
  · intro h
    obtain ⟨shape, entries⟩ := a
    unfold Matrix.ofTensor? at h
    split at h
    · next hshape hentries =>
      cases h
      cases hshape
      cases hentries
      rfl
    · cases h
  · rintro rfl
    rfl

omit [Scalar α] in
/-- A matrix is written behind the last check. -/
theorem setMatrixWith_eq {name : Name} (hk : s.require name .matrix = .ok k)
    (array : Except Error (Tensor α)) :
    s.setMatrixWith name array =
      (array >>= Matrix.ofTensor?).map fun t => { s with matrices := s.matrices.insert k t } := by
  simp only [setMatrixWith, hk, bind, Except.bind]
  cases array with
  | error e => rfl
  | ok array => cases Matrix.ofTensor? array <;> rfl

omit [Scalar α] in
theorem setWith_eq_ok {name : Name} {value : Except Error α} :
    s.setWith name value = .ok s' ↔
      ∃ k v, name.label? = some k ∧ s.kind? k = some .value ∧ value = .ok v ∧
        s' = { s with values := s.values.insert k v } := by
  constructor
  · intro h
    obtain ⟨k, hk, h⟩ := bind_ok h
    obtain ⟨v, rfl, h⟩ := bind_ok h
    cases h
    obtain ⟨hkey, hkind⟩ := s.require_eq_ok.mp hk
    exact ⟨k, v, hkey, hkind, rfl, rfl⟩
  · rintro ⟨k, v, hkey, hkind, rfl, rfl⟩
    rw [setWith, s.require_eq_ok.mpr ⟨hkey, hkind⟩]
    rfl

omit [Scalar α] in
theorem setMatrixWith_eq_ok {name : Name} {array : Except Error (Tensor α)} :
    s.setMatrixWith name array = .ok s' ↔
      ∃ k, ∃ t : Matrix α, name.label? = some k ∧ s.kind? k = some .matrix ∧ array = .ok t.toTensor ∧
        s' = { s with matrices := s.matrices.insert k t } := by
  constructor
  · intro h
    obtain ⟨k, hk, -⟩ := bind_ok h
    rw [setMatrixWith_eq hk] at h
    obtain ⟨t, hread, rfl⟩ := map_ok h
    obtain ⟨a, rfl, ht⟩ := bind_ok hread
    obtain ⟨hkey, hkind⟩ := s.require_eq_ok.mp hk
    exact ⟨k, t, hkey, hkind, congrArg _ (ofTensor_eq_ok.mp ht), rfl⟩
  · rintro ⟨k, t, hkey, hkind, rfl, rfl⟩
    rw [setMatrixWith_eq (s.require_eq_ok.mpr ⟨hkey, hkind⟩)]
    rfl

theorem giveContent_matrix (s : Symbols α) (k : Label) (array : Except Error (Tensor α)) :
    s.giveContent k (.matrix (some array)) =
      (array >>= Matrix.ofTensor?).map fun t => { s with matrices := s.matrices.insert k t } := by
  cases array with
  | error e => rfl
  | ok array =>
    simp only [giveContent, bind, Except.bind]
    cases Matrix.ofTensor? array <;> rfl

/-- A declaration of a known name gives it a content. -/
theorem Typed.giveContent (hs : s.Typed) (hk : s.kind? k = some d.kind)
    (h : s.giveContent k d = .ok s') :
    s.Writes (fun x => if k == x then d.gives (s.content? x) else none) s' := by
  -- the keys that are equal to the one that is declared have the same content
  have hcongr : ∀ {w : Option (Content α)}, d.gives (s.content? k) = w →
      ∀ x, (if k == x then w else none) = if k == x then d.gives (s.content? x) else none := by
    rintro w rfl x
    split
    · next heq => rw [content_congr heq]
    · rfl
  cases d with
  | material =>
    cases h
    exact hs.writes_nothing.congr fun x => (ite_self none).symm
  | value content =>
    cases content with
    | some content =>
      obtain ⟨v, rfl, rfl⟩ := map_ok h
      exact hs.writes_value hk v
    | none =>
      simp only [Symbols.giveContent, hs.contains_value hk] at h
      split at h
      · next hbefore =>
        cases h
        refine hs.writes_nothing.congr fun x => ?_
        rw [← hcongr (if_neg (mt Option.isNone_iff_eq_none.mp (Option.isSome_iff_ne_none.mp hbefore))) x, ite_self]
      · next hbefore =>
        cases h
        exact (hs.writes_value hk _).congr (hcongr (if_pos (by simpa using hbefore)))
  | matrix content =>
    cases content with
    | some content =>
      rw [giveContent_matrix] at h
      obtain ⟨t, hread, rfl⟩ := map_ok h
      obtain ⟨array, rfl, ht⟩ := bind_ok hread
      exact (hs.writes_matrix hk t).congr (hcongr (by rw [Declaration.gives, ht]; rfl))
    | none =>
      simp only [Symbols.giveContent, hs.contains_matrix hk] at h
      split at h
      · next hbefore =>
        cases h
        refine hs.writes_nothing.congr fun x => ?_
        rw [← hcongr (if_neg (mt Option.isNone_iff_eq_none.mp (Option.isSome_iff_ne_none.mp hbefore))) x, ite_self]
      · next hbefore =>
        cases h
        exact (hs.writes_matrix hk _).congr (hcongr (if_pos (by simpa using hbefore)))

/-! ## Declaring in two steps -/

omit [Scalar α] in
/-- The key of a name that is new or has the kind that it is declared with. -/
def claim (s : Symbols α) (name : Name) (kind : SymbolKind) : Except Error Label := do
  let k ← nameKey name
  match s.kind? k with
  | none => return k
  | some actual =>
    if actual = kind then return k else throw (Error.declaredAs k actual.word).settled

omit [Scalar α] in
theorem claim_eq_ok {name : Name} {kind : SymbolKind} :
    s.claim name kind = .ok k ↔
      name.label? = some k ∧ (s.kind? k = none ∨ s.kind? k = some kind) := by
  constructor
  · intro h
    obtain ⟨k', hkey, h⟩ := bind_ok h
    split at h
    · next hnone =>
      cases h
      exact ⟨nameKey_eq_ok.mp hkey, .inl hnone⟩
    · next actual hactual =>
      split at h
      · next heq =>
        cases h
        exact ⟨nameKey_eq_ok.mp hkey, .inr (heq ▸ hactual)⟩
      · cases h
  · rintro ⟨hkey, hkind | hkind⟩
    · simp only [claim, nameKey_eq_ok.mpr hkey, bind, Except.bind, hkind]
      rfl
    · simp only [claim, nameKey_eq_ok.mpr hkey, bind, Except.bind, hkind, if_true]
      rfl

omit [Scalar α] in
/-- A name that is known with a kind is not entered again. -/
theorem extended_known {kind : SymbolKind} (h : s.kind? k = some kind) : s.extended k kind = s := by
  rw [extended, Dict.insert_of_find h]

theorem declare_of_claim_error {name : Name} {e : Error} (h : s.claim name d.kind = .error e) :
    s.declare name d = (s, .error e) := by
  unfold claim at h
  unfold declare
  cases hname : nameKey name with
  | error e' =>
    rw [hname] at h
    cases h
    rfl
  | ok k =>
    simp only [hname, bind, Except.bind] at h
    split at h
    · cases h
    · next kind hkind =>
      split at h
      · cases h
      · next hne =>
        cases h
        simp only [hkind, if_neg hne]

/-- A name that can be declared is entered, if it is new, and gets its content. -/
theorem declare_of_claim {name : Name} (h : s.claim name d.kind = .ok k) :
    s.declare name d =
      match (s.extended k d.kind).giveContent k d with
      | .ok s' => (s', .ok ⟨name, d.kind⟩)
      | .error e => (s.extended k d.kind, .error e) := by
  obtain ⟨hkey, hkind | hkind⟩ := claim_eq_ok.mp h
  · simp only [declare, nameKey_eq_ok.mpr hkey, hkind]
    rfl
  · rw [extended_known hkind]
    cases hgive : s.giveContent k d <;>
      simp only [declare, nameKey_eq_ok.mpr hkey, hkind, if_true, hgive]

/-! ## What an operation makes of a table -/

/-- What can come of an operation. -/
inductive Outcome (s : Symbols α) (op : Operation α) : Symbols α × Except Error (Answer α) → Prop where
  /-- The operation fails, and the table is as it was. -/
  | refused (hold : ∀ k kind, ¬ op.Introduces s k kind) (e : Error) : Outcome s op (s, .error e)
  /-- The operation fails, but the name is declared. -/
  | leftOpen {k : Label} {kind : SymbolKind} (hnew : op.Introduces s k kind) (e : Error) :
    Outcome s op (s.extended k kind, .error e)
  /-- The operation succeeds, and declares nothing new. -/
  | written (hold : ∀ k kind, ¬ op.Introduces s k kind) {s' : Symbols α}
    (hwrites : s.Writes (op.gives s) s') (a : Answer α) : Outcome s op (s', .ok a)
  /-- The operation succeeds, and declares a new name. -/
  | introduced {k : Label} {kind : SymbolKind} (hnew : op.Introduces s k kind) {s' : Symbols α}
    (hwrites : (s.extended k kind).Writes (op.gives s) s') (a : Answer α) : Outcome s op (s', .ok a)

omit [Scalar α] in
theorem not_introduces {op : Operation α} (h : ∀ name d, op ≠ .declare name (.ok d)) (k : Label)
    (kind : SymbolKind) : ¬ op.Introduces s k kind := by
  rintro ⟨name, d, rfl, -⟩
  exact h name d rfl

/-- An operation that writes, behind all that can fail. -/
theorem outcome_change {op : Operation α} {r : Except Error (Symbols α)}
    (hop : ∀ name d, op ≠ .declare name (.ok d)) (hr : ∀ s', r = .ok s' → s.Writes (op.gives s) s') :
    Outcome s op (s.change r) := by
  cases r with
  | error e => exact .refused (not_introduces hop) e
  | ok s' => exact .written (not_introduces hop) (hr s' rfl) .done

/-- An operation that reads. -/
theorem outcome_read {op : Operation α} (hs : s.Typed) (hop : ∀ name d, op ≠ .declare name (.ok d))
    (hgives : ∀ x, op.gives s x = none) (r : Except Error (Answer α)) : Outcome s op (s, r) := by
  cases r with
  | error e => exact .refused (not_introduces hop) e
  | ok a =>
    exact .written (not_introduces hop) (hs.writes_nothing.congr fun x => (hgives x).symm) a

/-- A declaration is refused, or the name is there or new, and then there is its content. -/
theorem outcome_declare (hs : s.Typed) (name : Name) (d : Declaration α) :
    Outcome s (.declare name (.ok d)) (s.perform (.declare name (.ok d))) := by
  cases hclaim : s.claim name d.kind with
  | error e =>
    have hold : ∀ k kind, ¬ Operation.Introduces s (.declare name (.ok d)) k kind := by
      rintro k kind ⟨_, _, h, hkey, -, hnone⟩
      cases h
      rw [claim_eq_ok.mpr ⟨hkey, .inl hnone⟩] at hclaim
      cases hclaim
    rw [perform, declare_of_claim_error hclaim]
    exact .refused hold e
  | ok k =>
    have hdeclare := declare_of_claim hclaim
    obtain ⟨hkey, hkind⟩ := claim_eq_ok.mp hclaim
    have hgives : ∀ x, (if k == x then d.gives (s.content? x) else none) =
        Operation.gives s x (.declare name (.ok d)) := by
      intro x
      rw [Operation.gives, Value.denotes_of_label hkey]
    rcases hkind with hnone | hknown
    · have hnew : Operation.Introduces s (.declare name (.ok d)) k d.kind :=
        ⟨name, d, rfl, hkey, rfl, hnone⟩
      have hkind : (s.extended k d.kind).kind? k = some d.kind := by
        rw [extended_kind, if_pos BEq.rfl]
      rw [perform, hdeclare]
      cases hgive : (s.extended k d.kind).giveContent k d with
      | error e => exact .leftOpen hnew e
      | ok s' =>
        exact .introduced hnew (((hs.extended hnone d.kind).giveContent hkind hgive).congr hgives) _
    · have hold : ∀ k kind, ¬ Operation.Introduces s (.declare name (.ok d)) k kind := by
        rintro k' kind ⟨_, _, h, hkey', -, hnone⟩
        cases h
        rw [hkey] at hkey'
        cases hkey'
        rw [hknown] at hnone
        cases hnone
      rw [extended_known hknown] at hdeclare
      rw [perform, hdeclare]
      cases hgive : s.giveContent k d with
      | error e => exact .refused hold e
      | ok s' => exact .written hold ((hs.giveContent hknown hgive).congr hgives) _

/-- **Operations by outcome.** An operation fails and leaves the table as it was, or with one name more
that has no content; or it succeeds and writes what it gives. -/
theorem Typed.outcome (hs : s.Typed) (op : Operation α) : Outcome s op (s.perform op) := by
  cases op with
  | declare name reading =>
    cases reading with
    | error e => exact .refused (not_introduces (by nofun)) e
    | ok d => exact outcome_declare hs name d
  | lookup name => exact outcome_read hs (by nofun) (fun _ => rfl) _
  | get ref => exact outcome_read hs (by nofun) (fun _ => rfl) _
  | getMatrix ref => exact outcome_read hs (by nofun) (fun _ => rfl) _
  | set ref value =>
    refine outcome_change (by nofun) fun s' h => ?_
    obtain ⟨k, v, hkey, hkind, rfl, rfl⟩ := setWith_eq_ok.mp h
    refine (hs.writes_value hkind v).congr fun x => ?_
    rw [Operation.gives, Value.denotes_of_label hkey]
  | setAll value =>
    refine outcome_change (by nofun) fun s' h => ?_
    unfold setAllWith at h
    split at h
    · next hnone =>
      cases h
      refine hs.writes_nothing.congr fun x => ?_
      cases value with
      | error e => rfl
      | ok v =>
        rw [Operation.gives, if_neg]
        intro hx
        have hany := s.knobs_any hx
        rw [hnone] at hany
        cases hany
    · obtain ⟨v, rfl, h⟩ := bind_ok h
      cases h
      exact hs.writes_knobs v
  | setMatrix ref array =>
    refine outcome_change (by nofun) fun s' h => ?_
    obtain ⟨k, t, hkey, hkind, rfl, rfl⟩ := setMatrixWith_eq_ok.mp h
    refine (hs.writes_matrix hkind t).congr fun x => ?_
    rw [Operation.gives, Value.denotes_of_label hkey]
    rfl

/-- What an operation writes to a name: nothing if it fails. -/
def Operation.written (s : Symbols α) (x : Label) (op : Operation α) : Option (Content α) :=
  match (s.perform op).2 with
  | .ok _ => op.gives s x
  | .error _ => none

theorem Typed.perform_typed (hs : s.Typed) (op : Operation α) : (s.perform op).1.Typed := by
  have hcase := hs.outcome op
  generalize s.perform op = r at hcase ⊢
  cases hcase with
  | refused => exact hs
  | leftOpen hnew =>
    obtain ⟨_, _, -, -, -, hnone⟩ := hnew
    exact hs.extended hnone _
  | written _ hwrites => exact hwrites.typed
  | introduced _ hwrites => exact hwrites.typed

/-- The kinds behind an operation: as they were, or with one more at the end. -/
theorem Typed.perform_kinds (hs : s.Typed) (op : Operation α) :
    (s.perform op).1.kinds = s.kinds ∨
      ∃ k kind, op.Introduces s k kind ∧ (s.perform op).1.kinds = s.kinds.insert k kind := by
  have hcase := hs.outcome op
  generalize s.perform op = r at hcase ⊢
  cases hcase with
  | refused => exact .inl rfl
  | leftOpen hnew => exact .inr ⟨_, _, hnew, rfl⟩
  | written _ hwrites => exact .inl hwrites.kinds
  | introduced hnew hwrites => exact .inr ⟨_, _, hnew, hwrites.kinds⟩

/-- An operation leaves the kinds that are there. -/
theorem Typed.perform_kind (hs : s.Typed) (op : Operation α) {kind : SymbolKind}
    (h : s.kind? k = some kind) : (s.perform op).1.kind? k = some kind := by
  rcases hs.perform_kinds op with hkinds | ⟨k', kind', ⟨_, _, -, -, -, hnone⟩, hkinds⟩
  · rw [kind?, hkinds]
    exact h
  · rw [kind?, hkinds]
    exact extended_kept hnone h

theorem Typed.perform_prefix (hs : s.Typed) (op : Operation α) :
    s.kinds.entries <+: (s.perform op).1.kinds.entries := by
  rcases hs.perform_kinds op with h | ⟨k, kind, ⟨_, _, -, -, -, hnone⟩, h⟩
  · exact h ▸ List.prefix_rfl
  · rw [h, Dict.insert_entries hnone]
    exact List.prefix_append _ _

/-- The contents behind an operation: what it wrote, and otherwise what was there. -/
theorem Typed.perform_content (hs : s.Typed) (op : Operation α) (x : Label) :
    (s.perform op).1.content? x = (op.written s x).or (s.content? x) := by
  unfold Operation.written
  have hcase := hs.outcome op
  generalize s.perform op = r at hcase ⊢
  cases hcase with
  | refused => rfl
  | leftOpen => rfl
  | written _ hwrites => exact hwrites.content x
  | introduced _ hwrites => exact hwrites.content x

end Symbols

end Wireframe
