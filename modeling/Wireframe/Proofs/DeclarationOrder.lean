import Wireframe.Proofs.Reordered

/-!
# `Wireframe.Proofs.DeclarationOrder` — tables of programs in another order

A program has the same table, up to the order of the names, in whatever order its instructions stand: the
table knows the names that are declared, every knob is zero and every coordinate system is the world.
Whether there is a table at all does not depend on the order either, since that takes only that all names
are texts and that none is declared for two kinds.

## Contents
- `Untouched`, `declareAll_untouched`: tables as they were declared.
- `Sound.kinds_eq`, `reordered_of_kinds`: such tables with the same names.
- `DeclaresTexts`, `declaresTexts_of_ok`: names that are texts.
- `ofProgram_reordered`: the table of a program.
-/

namespace Wireframe

open Document

variable {α : Type}

/-! ## Tables as they were declared -/

namespace Symbols

variable {s s' : Symbols α}

/-- The names of a table are found as texts alone. -/
theorem Sound.kind_text (hs : s.Sound) {x : Label} {kind : SymbolKind} (h : s.kind? x = some kind) :
    ∃ t, x = .text t ∧ (x, kind) ∈ s.kinds.entries := by
  obtain ⟨⟨y, kind'⟩, hmem, heq, rfl⟩ := Dict.exists_of_find h
  obtain ⟨t, ht⟩ := hs.texts y (List.mem_map_of_mem hmem)
  change y = .text t at ht
  subst ht
  obtain rfl : x = .text t := Label.eq_of_text_beq heq
  exact ⟨t, rfl, hmem⟩

/-- Tables that know the same texts know the same names. -/
theorem Sound.kinds_eq (hs : s.Sound) (hs' : s'.Sound)
    (h : ∀ t kind, s.kind? (.text t) = some kind ↔ s'.kind? (.text t) = some kind) (x : Label) :
    s.kind? x = s'.kind? x := by
  cases hx : s.kind? x with
  | some kind =>
    obtain ⟨t, rfl, -⟩ := hs.kind_text hx
    exact ((h t kind).mp hx).symm
  | none =>
    cases hx' : s'.kind? x with
    | none => rfl
    | some kind =>
      obtain ⟨t, rfl, -⟩ := hs'.kind_text hx'
      rw [(h t kind).mpr hx'] at hx
      cases hx

/-- Tables that know the same names have the same entries. -/
theorem Sound.mem_entries (hs : s.Sound) (hs' : s'.Sound) (hkinds : ∀ x, s.kind? x = s'.kind? x)
    {e : Label × SymbolKind} (he : e ∈ s.kinds.entries) : e ∈ s'.kinds.entries := by
  have hknown := hs.proper e he
  rw [hkinds] at hknown
  exact (hs'.kind_text hknown).choose_spec.2

theorem nodup_of_once (h : s.kinds.entries.Pairwise fun a b => (a.1 == b.1) = false) :
    s.kinds.entries.Nodup := by
  refine h.imp fun {a b} hab => ?_
  rintro rfl
  rw [BEq.rfl] at hab
  cases hab

end Symbols

namespace Symbols

variable [Scalar α] {s s' : Symbols α}

/-- A table as it was declared: every name once, zero for every knob, the world for every coordinate
system, and no other content. -/
structure Untouched (s : Symbols α) : Prop where
  once : s.kinds.entries.Pairwise fun a b => (a.1 == b.1) = false
  values : ∀ x v, s.values.find? x = some v → v = Scalar.zero ∧ s.kind? x = some .value
  matrices : ∀ x t, s.matrices.find? x = some t → t = .identity ∧ s.kind? x = some .matrix

theorem untouched_empty : Untouched ({} : Symbols α) := ⟨.nil, nofun, nofun⟩

/-- A content that is given to a name fits its kind. -/
theorem Untouched.giveContent (hs : s.Untouched) {k : Label} {kind : SymbolKind}
    (hk : s.kind? k = some kind) (h : s.giveContent k kind.bare = .ok s') : s'.Untouched := by
  cases kind with
  | material =>
    cases h
    exact hs
  | value =>
    simp only [SymbolKind.bare, Symbols.giveContent] at h
    split at h
    · cases h
      exact hs
    · cases h
      refine ⟨hs.once, fun x v hv => ?_, hs.matrices⟩
      rw [Dict.find_insert] at hv
      split at hv
      · next heq =>
        exact ⟨(Option.some.inj hv).symm, (s.kind_congr heq) ▸ hk⟩
      · exact hs.values x v hv
  | matrix =>
    simp only [SymbolKind.bare, Symbols.giveContent] at h
    split at h
    · cases h
      exact hs
    · cases h
      refine ⟨hs.once, hs.values, fun x t ht => ?_⟩
      rw [Dict.find_insert] at ht
      split at ht
      · next heq =>
        exact ⟨(Option.some.inj ht).symm, (s.kind_congr heq) ▸ hk⟩
      · exact hs.matrices x t ht

/-- A new name has no content yet. -/
theorem Untouched.extend (hs : s.Untouched) {k : Label} (hk : s.kind? k = none) (kind : SymbolKind) :
    Untouched { s with kinds := s.kinds.insert k kind } := by
  have hkind : ∀ x wanted, s.kind? x = some wanted →
      kind? { s with kinds := s.kinds.insert k kind } x = some wanted := by
    intro x wanted hx
    rw [kind?, Dict.find_insert_ne]
    · exact hx
    · cases heq : k == x with
      | false => rfl
      | true =>
        rw [s.kind_congr heq, hx] at hk
        cases hk
  refine ⟨?_, fun x v hv => ?_, fun x t ht => ?_⟩
  · rw [Dict.insert_entries hk, List.pairwise_append]
    refine ⟨hs.once, List.pairwise_singleton _ _, fun e he f hf => ?_⟩
    rw [List.mem_singleton.mp hf]
    exact Dict.ne_of_find_none hk e he
  · obtain ⟨rfl, hx⟩ := hs.values x v hv
    exact ⟨rfl, hkind x _ hx⟩
  · obtain ⟨rfl, hx⟩ := hs.matrices x t ht
    exact ⟨rfl, hkind x _ hx⟩

/-- Declaring names without contents leaves the table as declared. -/
theorem declareAll_untouched {entries : List (Name × SymbolKind)}
    (h : ({} : Symbols α).declareAll (entries.map fun e => (e.1, e.2.bare)) = .ok s) :
    s.Untouched := by
  refine declareAll_keeps (P := Untouched) ?_ untouched_empty h
  intro e he s s' ref hdeclare hs
  obtain ⟨⟨name, kind⟩, -, rfl⟩ := List.mem_map.mp he
  obtain ⟨k, -, ⟨hk, hgive⟩ | ⟨hk, hgive⟩⟩ := declare_ok hdeclare
  · rw [SymbolKind.bare_kind] at hk
    exact hs.giveContent hk hgive
  · refine (hs.extend hk _).giveContent ?_ hgive
    rw [SymbolKind.bare_kind]
    exact Dict.find_insert_eq BEq.rfl _ _

theorem Untouched.values_eq (hs : s.Untouched) (hsound : s.Sound) (x : Label) :
    s.values.find? x = if s.kind? x = some .value then some Scalar.zero else none := by
  cases hv : s.values.find? x with
  | some v =>
    obtain ⟨rfl, hx⟩ := hs.values x v hv
    rw [if_pos hx]
  | none =>
    refine (if_neg fun hx => ?_).symm
    have hvalue := hsound.values x hx
    rw [hv] at hvalue
    cases hvalue

theorem Untouched.matrices_eq (hs : s.Untouched) (hsound : s.Sound) (x : Label) :
    s.matrices.find? x = if s.kind? x = some .matrix then some .identity else none := by
  cases ht : s.matrices.find? x with
  | some t =>
    obtain ⟨rfl, hx⟩ := hs.matrices x t ht
    rw [if_pos hx]
  | none =>
    refine (if_neg fun hx => ?_).symm
    have hmatrix := hsound.matrices x hx
    rw [ht] at hmatrix
    cases hmatrix

/-- Tables as they were declared, which know the same names, differ in the order of the names alone. -/
theorem reordered_of_kinds (hs : s.Untouched) (hs' : s'.Untouched) (hsound : s.Sound)
    (hsound' : s'.Sound) (hkinds : ∀ x, s.kind? x = s'.kind? x) : s.Reordered s' where
  agree := by
    refine ⟨hkinds, fun x _ => ?_, fun x _ => ?_⟩
    · rw [hs.values_eq hsound, hs'.values_eq hsound', hkinds]
    · rw [hs.matrices_eq hsound, hs'.matrices_eq hsound', hkinds]
  entries := by
    rw [List.perm_ext_iff_of_nodup (nodup_of_once hs.once) (nodup_of_once hs'.once)]
    exact fun e => ⟨hsound.mem_entries hsound' hkinds,
      hsound'.mem_entries hsound fun x => (hkinds x).symm⟩
  sound := hsound
  sound' := hsound'

end Symbols

/-! ## Programs in another order -/

/-- All names that a program declares are texts. -/
def DeclaresTexts (ops : List (Opcode α)) : Prop :=
  ∀ op ∈ ops, ∀ e ∈ op.symbols, ∃ t, e.1 = .str t

section

variable {ops ops' : List (Opcode α)}

theorem DeclaresTexts.perm (h : ops.Perm ops') (htexts : DeclaresTexts ops) : DeclaresTexts ops' :=
  fun op hop => htexts op (h.mem_iff.mpr hop)

/-- Programs with the same instructions declare the same names. -/
theorem declarations_perm (h : ops.Perm ops') : (declarations ops []).Perm (declarations ops' []) :=
  ((h.flatMap_right _).map _).append_right _

/-- A program that declares texts declares nothing else. -/
theorem DeclaresTexts.plain (htexts : DeclaresTexts ops) :
    ∀ e ∈ declarations ops [], (∃ t, e.1 = .str t) ∧ e.2.Plain := by
  intro e he
  rw [declarations, List.append_nil] at he
  obtain ⟨⟨name, kind⟩, hmem, rfl⟩ := List.mem_map.mp he
  obtain ⟨op, hop, hsymbol⟩ := List.mem_flatMap.mp hmem
  exact ⟨htexts op hop _ hsymbol, kind.bare_plain⟩

variable [Scalar α]

namespace Symbols

variable {s s' : Symbols α}

theorem giveContent_kinds {k : Label} {kind : SymbolKind} (h : s.giveContent k kind.bare = .ok s') :
    s'.kinds = s.kinds := by
  obtain ⟨t, ht, hsame, -⟩ := giveContent_ok kind.bare_plain s k
  rw [h] at ht
  cases ht
  exact hsame

/-- What is declared is known afterwards, and so is what was known before. -/
theorem declare_known {name : Name} {kind : SymbolKind} {ref : SymbolRef}
    (h : s.declare name kind.bare = (s', .ok ref)) :
    (∃ k, name.label? = some k ∧ (s'.kind? k).isSome = true) ∧
      ∀ x, (s.kind? x).isSome = true → (s'.kind? x).isSome = true := by
  obtain ⟨k, hk, ⟨hknown, hgive⟩ | ⟨hnew, hgive⟩⟩ := declare_ok h
  · have hkind : ∀ x, s'.kind? x = s.kind? x := fun x => by rw [kind?, giveContent_kinds hgive]; rfl
    refine ⟨⟨k, hk, ?_⟩, fun x hx => ?_⟩
    · rw [hkind, hknown]
      rfl
    · rw [hkind]
      exact hx
  · have hkind : s'.kinds = s.kinds.insert k kind := by
      rw [giveContent_kinds hgive, SymbolKind.bare_kind]
    refine ⟨⟨k, hk, ?_⟩, fun x hx => ?_⟩
    · rw [kind?, hkind, Dict.find_insert_eq BEq.rfl]
      rfl
    · rw [kind?, hkind]
      exact Dict.find_insert_isSome hx k kind

/-- Names that are declared one after the other are all known afterwards. -/
theorem declareAll_known {entries : List (Name × SymbolKind)}
    (h : s.declareAll (entries.map fun e => (e.1, e.2.bare)) = .ok s') :
    (∀ e ∈ entries, ∃ k, e.1.label? = some k ∧ (s'.kind? k).isSome = true) ∧
      ∀ x, (s.kind? x).isSome = true → (s'.kind? x).isSome = true := by
  induction entries generalizing s with
  | nil =>
    cases h
    exact ⟨nofun, fun _ hx => hx⟩
  | cons entry rest ih =>
    simp only [List.map_cons, declareAll] at h
    split at h
    · next s₁ ref hdeclared =>
      obtain ⟨⟨k, hk, hknown⟩, hkept⟩ := declare_known hdeclared
      obtain ⟨hrest, hlater⟩ := ih h
      exact ⟨List.forall_mem_cons.mpr ⟨⟨k, hk, hlater k hknown⟩, hrest⟩, fun x hx => hlater x (hkept x hx)⟩
    · cases h

end Symbols

omit [Scalar α] in
/-- The names that were declared can be reported only if they are texts. -/
theorem declaredRecord_texts {names : List Label} {record : Record} (h : declaredRecord names = .ok record) :
    ∀ x ∈ names, ∃ t, x = .text t := by
  simp only [declaredRecord] at h
  split at h
  · cases h
  · next texts htexts =>
    clear h
    induction names generalizing texts with
    | nil => exact List.forall_mem_nil _
    | cons x rest ih =>
      obtain ⟨t, texts, hx, hrest, -⟩ := mapM_cons_some htexts
      refine List.forall_mem_cons.mpr ⟨?_, ih texts hrest⟩
      exact ⟨t, Label.eq_of_str hx⟩

/-- A program that has a table declares texts. -/
theorem declaresTexts_of_ok {s : Symbols α} {record : Record}
    (h : Symbols.ofProgram ops [] = .ok (s, record)) : DeclaresTexts ops := by
  obtain ⟨s', hdeclared, h⟩ := bind_ok h
  obtain ⟨record', hrecord, h⟩ := bind_ok h
  cases h
  rw [declarations, List.append_nil] at hdeclared
  rintro op hop ⟨name, kind⟩ he
  obtain ⟨k, hk, hknown⟩ :=
    (Symbols.declareAll_known hdeclared).1 _ (List.mem_flatMap.mpr ⟨op, hop, he⟩)
  obtain ⟨kind', hkind⟩ := Option.isSome_iff_exists.mp hknown
  obtain ⟨⟨y, _⟩, hmem, heq, -⟩ := Dict.exists_of_find hkind
  obtain ⟨t, ht⟩ := declaredRecord_texts hrecord y (List.mem_map_of_mem hmem)
  subst ht
  obtain rfl : k = .text t := Label.eq_of_text_beq heq
  exact ⟨t, Value.eq_of_label_text hk⟩

/-- A program that declares texts has a table as it was declared, or declares a name for two kinds. -/
theorem ofProgram_texts (htexts : DeclaresTexts ops) :
    (∃ s record, Symbols.ofProgram ops [] = .ok (s, record) ∧ s.Sound ∧ s.Untouched ∧
      ∀ t kind, s.kind? (.text t) = some kind ↔ Symbols.Declares {} (declarations ops []) t kind) ∨
    ∃ e, Symbols.ofProgram ops [] = .error e ∧ e.kind = .symbolKind ∧ ∃ t kind kind', kind ≠ kind' ∧
      Symbols.Declares {} (declarations ops []) t kind ∧
      Symbols.Declares {} (declarations ops []) t kind' := by
  rcases Symbols.declareAll_cases htexts.plain Symbols.sound_empty with
    ⟨s, hok, hs, hknown⟩ | ⟨e, herror, he, hconflict⟩
  · obtain ⟨record, hrecord⟩ := declaredRecord_ok hs.texts
    refine .inl ⟨s, record, ?_, hs, ?_, hknown⟩
    · simp only [Symbols.ofProgram, hok, hrecord, bind, Except.bind]
      rfl
    · rw [declarations, List.append_nil] at hok
      exact Symbols.declareAll_untouched hok
  · refine .inr ⟨e, ?_, he, hconflict⟩
    simp only [Symbols.ofProgram, herror]
    rfl

/-- **The table of a program in another order.** Programs with the same instructions both have a table, with
    the same names and contents, or none of them has. If all names that they declare are texts, then
    the reason is that a name is declared for two kinds. -/
theorem ofProgram_reordered (h : ops.Perm ops') :
    (∃ s s' record record', Symbols.ofProgram ops [] = .ok (s, record) ∧
      Symbols.ofProgram ops' [] = .ok (s', record') ∧ s.Reordered s') ∨
    ∃ e e', Symbols.ofProgram ops [] = .error e ∧ Symbols.ofProgram ops' [] = .error e' ∧
      (DeclaresTexts ops → e.kind = .symbolKind ∧ e'.kind = .symbolKind) := by
  by_cases htexts : DeclaresTexts ops
  · have hsame : ∀ t kind, Symbols.Declares {} (declarations ops []) t kind ↔
        Symbols.Declares {} (declarations ops' []) t kind := by
      intro t kind
      simp only [Symbols.Declares, (declarations_perm h).mem_iff]
    -- two kinds of one name cannot both be the one that the table knows
    have hexclude : ∀ {s : Symbols α} {t : String} {kind kind' : SymbolKind}, kind ≠ kind' →
        s.kind? (.text t) = some kind → s.kind? (.text t) ≠ some kind' := by
      intro s t kind kind' hne hk hk'
      rw [hk] at hk'
      exact hne (Option.some.inj hk')
    rcases ofProgram_texts htexts, ofProgram_texts (htexts.perm h) with
      ⟨⟨s, record, hs, hsound, hbare, hknown⟩ | ⟨e, he, hkind, t, kind, kind', hne, hk, hk'⟩,
       ⟨s', record', hs', hsound', hbare', hknown'⟩ | ⟨e', he', hkind', u, k, k', hne', hu, hu'⟩⟩
    · refine .inl ⟨s, s', record, record', hs, hs', ?_⟩
      refine Symbols.reordered_of_kinds hbare hbare' hsound hsound' (hsound.kinds_eq hsound' fun t kind => ?_)
      rw [hknown, hknown', hsame]
    · exact absurd ((hknown u k').mpr ((hsame u k').mpr hu'))
        (hexclude hne' ((hknown u k).mpr ((hsame u k).mpr hu)))
    · exact absurd ((hknown' t kind').mpr ((hsame t kind').mp hk'))
        (hexclude hne ((hknown' t kind).mpr ((hsame t kind).mp hk)))
    · exact .inr ⟨e, e', he, he', fun _ => ⟨hkind, hkind'⟩⟩
  · refine .inr ?_
    cases hs : Symbols.ofProgram ops [] with
    | ok r => exact absurd (declaresTexts_of_ok hs) htexts
    | error e =>
      cases hs' : Symbols.ofProgram ops' [] with
      | ok r' => exact absurd ((declaresTexts_of_ok hs').perm h.symm) htexts
      | error e' => exact ⟨e, e', rfl, rfl, fun ht => absurd ht htexts⟩

end

end Wireframe
