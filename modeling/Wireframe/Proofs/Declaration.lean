import Wireframe.Proofs.Symbols

/-!
# `Wireframe.Proofs.Declaration` — the table of a program

A program declares the names that its instructions mention, each with the kind for which it is mentioned.
That fails if and only if a name is mentioned for two kinds; otherwise the table knows the names that are
mentioned, all knobs have a value, and all coordinate systems a matrix.

## Contents
- `Opcode.Mentions`, `Uses`, `Conflict`: names and what they are mentioned for.
- `Symbols.Sound`: tables in which nothing is missing; `Sound.writeTo`, `Sound.knobTable_ok`.
- `declare_cases`, `declareAll_cases`, `declareAll_keeps`: declaring names.
- `ofProgram_cases`: the table of a program.
-/

namespace Wireframe

open Document

variable {α : Type}

/-! ## What a program mentions -/

/-- An instruction mentions a name for something of a kind. -/
inductive Opcode.Mentions (op : Opcode α) : Name → SymbolKind → Prop where
  | knob {name : Name} : op.knob? = some name → op.Mentions name .value
  | target {name : Name} : op.target? = some name → op.Mentions name .value
  | material {name : Name} : op.material? = some name → op.Mentions name .material
  | system {name : Name} : name ∈ op.systems → op.Mentions name .matrix
  | saved {name : Name} : op.saved? = some name → op.Mentions name .matrix

/-- A program, or what is given for its knobs, mentions a name for something of a kind. -/
def Uses (ops : List (Opcode α)) (initial : List (String × α)) (name : Name) (kind : SymbolKind) : Prop :=
  (∃ op ∈ ops, op.Mentions name kind) ∨ (kind = .value ∧ ∃ entry ∈ initial, name = .str entry.1)

/-- A name is mentioned for two kinds. -/
def Conflict (ops : List (Opcode α)) (initial : List (String × α)) : Prop :=
  ∃ name kind kind', kind ≠ kind' ∧ Uses ops initial name kind ∧ Uses ops initial name kind'

/-- All names of symbols are texts. -/
def TextNames (ops : List (Opcode α)) : Prop :=
  ∀ op ∈ ops, ∀ name kind, op.Mentions name kind → ∃ t, name = .str t

theorem Uses.text {ops : List (Opcode α)} {initial : List (String × α)} {name : Name} {kind : SymbolKind}
    (htexts : TextNames ops) (h : Uses ops initial name kind) : ∃ t, name = .str t := by
  rcases h with ⟨op, hop, hmentions⟩ | ⟨-, entry, -, hname⟩
  · exact htexts op hop name kind hmentions
  · exact ⟨entry.1, hname⟩

/-- The names that an instruction declares, by what it does with them. -/
theorem Opcode.symbols_eq (op : Opcode α) :
    op.symbols =
      (op.knob?.toList ++ (op.target?.bind Value.present?).toList).map (·, .value) ++
        op.material?.toList.map (·, .material) ++
        (op.systems ++ op.saved?.toList).map (·, .matrix) := by
  cases op <;> simp [symbols, knob?, target?, material?, systems, saved?]

/-- An instruction declares the names that it mentions. -/
theorem Opcode.mem_symbols {op : Opcode α} {name : Name} {kind : SymbolKind} :
    ((name, kind) ∈ op.symbols → op.Mentions name kind) ∧
      (op.Mentions name kind → (∃ t, name = .str t) → (name, kind) ∈ op.symbols) := by
  rw [symbols_eq]
  simp only [List.map_append, List.mem_append, List.mem_map, Option.mem_toList, Prod.mk.injEq]
  constructor
  · rintro (((⟨n, hn, rfl, rfl⟩ | ⟨n, hn, rfl, rfl⟩) | ⟨n, hn, rfl, rfl⟩) |
      (⟨n, hn, rfl, rfl⟩ | ⟨n, hn, rfl, rfl⟩))
    · exact .knob hn
    · obtain ⟨target, htarget, hpresent⟩ := Option.bind_eq_some_iff.mp hn
      unfold Value.present? at hpresent
      split at hpresent
      · cases hpresent
      · cases hpresent
        exact .target htarget
    · exact .material hn
    · exact .system hn
    · exact .saved hn
  · rintro hmentions ⟨t, rfl⟩
    cases hmentions with
    | knob h => exact .inl (.inl (.inl ⟨_, h, rfl, rfl⟩))
    | target h => exact .inl (.inl (.inr ⟨_, by rw [h]; rfl, rfl, rfl⟩))
    | material h => exact .inl (.inr ⟨_, h, rfl, rfl⟩)
    | system h => exact .inr (.inl ⟨_, h, rfl, rfl⟩)
    | saved h => exact .inr (.inr ⟨_, h, rfl, rfl⟩)

/-! ## Tables in which nothing is missing -/

/-- A table whose names are texts, each of them declared once, with a value for every knob and a matrix for
every coordinate system. -/
structure Symbols.Sound (s : Symbols α) : Prop where
  texts : ∀ x ∈ s.kinds.keys, ∃ t, x = .text t
  proper : ∀ e ∈ s.kinds.entries, s.kind? e.1 = some e.2
  values : ∀ x, s.kind? x = some .value → (s.values.find? x).isSome
  matrices : ∀ x, s.kind? x = some .matrix → (s.matrices.find? x).isSome

namespace Symbols

variable {s s' : Symbols α}

theorem sound_empty : Sound ({} : Symbols α) := ⟨nofun, nofun, nofun, nofun⟩

/-- Nothing is missing as long as no name is new and no content is taken away. -/
theorem Sound.keep (hs : s.Sound) (hkinds : s'.kinds = s.kinds)
    (hvalues : ∀ x, s.kind? x = some .value → (s.values.find? x).isSome → (s'.values.find? x).isSome)
    (hmatrices : ∀ x, (s.matrices.find? x).isSome → (s'.matrices.find? x).isSome) : s'.Sound := by
  have hkind : ∀ x, s'.kind? x = s.kind? x := fun x => congrArg (Dict.find? · x) hkinds
  constructor
  · rw [hkinds]
    exact hs.texts
  · rw [hkinds]
    intro e he
    rw [hkind]
    exact hs.proper e he
  · intro x hx
    rw [hkind] at hx
    exact hvalues x hx (hs.values x hx)
  · intro x hx
    rw [hkind] at hx
    exact hmatrices x (hs.matrices x hx)

/-- What instructions write leaves nothing missing. -/
theorem Sound.writeTo {top : Matrix α} {op : Opcode α} (hs : s.Sound)
    (h : op.writeTo top s = .ok s') : s'.Sound := by
  apply hs.keep (Opcode.writeTo_kinds h)
  · intro x hx hvalue
    rw [Opcode.writeTo_value hx h, Option.isSome_or, hvalue, Bool.or_true]
  · intro x hmatrix
    rw [Opcode.writeTo_matrix h, Option.isSome_or, hmatrix, Bool.or_true]

/-- The table of knobs can be shown. -/
theorem Sound.knobTable_ok [Shown α] (hs : s.Sound) : ∃ text, s.knobTable = .ok text := by
  have hrows : ∀ names : List Label,
      (∀ x ∈ names, (∃ t, x = .text t) ∧ (s.values.find? x).isSome) →
        ∃ rows, knobRows s names = .ok rows := by
    intro names
    induction names with
    | nil => exact fun _ => ⟨[], rfl⟩
    | cons x rest ih =>
      intro h
      obtain ⟨⟨t, rfl⟩, hvalue⟩ := h x List.mem_cons_self
      obtain ⟨v, hv⟩ := Option.isSome_iff_exists.mp hvalue
      obtain ⟨rows, hrest⟩ := ih fun y hy => h y (List.mem_cons_of_mem _ hy)
      refine ⟨(padRight 12 t ++ padRight 8 "knob" ++ Shown.tabular v) :: rows, ?_⟩
      simp only [knobRows, columnText, bind, Except.bind, hv, hrest]
      rfl
  obtain ⟨rows, h⟩ := hrows s.knobs (by
    intro x hx
    obtain ⟨e, he, hkey⟩ := List.mem_filterMap.mp hx
    split at hkey
    · next hvalue =>
      cases hkey
      refine ⟨hs.texts _ (List.mem_map_of_mem he), hs.values _ ?_⟩
      rw [hs.proper e he, hvalue]
    · cases hkey)
  unfold knobTable
  rw [h]
  exact ⟨_, rfl⟩

end Symbols

/-! ## Declaring names -/

/-- A declaration whose content, if it gives one, is there. -/
def Declaration.Plain : Declaration α → Prop
  | .value (some content) => ∃ x, content = .ok x
  | .matrix (some _) => False
  | _ => True

namespace Symbols

variable [Scalar α] {s : Symbols α} {d : Declaration α}

/-- A plain declaration gives its name a content where one is needed, and takes none away. -/
theorem giveContent_ok (hd : d.Plain) (s : Symbols α) (k : Label) :
    ∃ s', s.giveContent k d = .ok s' ∧ s'.kinds = s.kinds ∧
      (∀ x, (s.values.find? x).isSome → (s'.values.find? x).isSome) ∧
      (∀ x, (s.matrices.find? x).isSome → (s'.matrices.find? x).isSome) ∧
      (d.kind = .value → (s'.values.find? k).isSome) ∧
      (d.kind = .matrix → (s'.matrices.find? k).isSome) := by
  have hinsert : ∀ {ν : Type} (table : Dict Label ν) (v : ν),
      ((table.insert k v).find? k).isSome = true := by
    intro ν table v
    rw [Dict.find_insert_eq BEq.rfl]
    rfl
  cases d with
  | material => exact ⟨s, rfl, rfl, fun _ h => h, fun _ h => h, nofun, nofun⟩
  | value content =>
    cases content with
    | some content =>
      obtain ⟨v, rfl⟩ := hd
      exact ⟨_, rfl, rfl, fun x h => Dict.find_insert_isSome h k v, fun _ h => h,
        fun _ => hinsert s.values v, nofun⟩
    | none =>
      by_cases hcontains : s.values.contains k = true
      · exact ⟨s, if_pos hcontains, rfl, fun _ h => h, fun _ h => h, fun _ => hcontains, nofun⟩
      · exact ⟨_, if_neg hcontains, rfl, fun x h => Dict.find_insert_isSome h k _, fun _ h => h,
          fun _ => hinsert s.values _, nofun⟩
  | matrix content =>
    cases content with
    | some content => exact hd.elim
    | none =>
      by_cases hcontains : s.matrices.contains k = true
      · exact ⟨s, if_pos hcontains, rfl, fun _ h => h, fun _ h => h, nofun, fun _ => hcontains⟩
      · exact ⟨_, if_neg hcontains, rfl, fun _ h => h, fun x h => Dict.find_insert_isSome h k _, nofun,
          fun _ => hinsert s.matrices _⟩

/-- The content of a coordinate system that a plain declaration gives is the world. -/
theorem giveContent_matrices {s' : Symbols α} {k : Label} (hd : d.Plain)
    (h : s.giveContent k d = .ok s') :
    s'.matrices = s.matrices ∨ s'.matrices = s.matrices.insert k .identity := by
  cases d with
  | material =>
    cases h
    exact .inl rfl
  | value content =>
    cases content with
    | some content =>
      obtain ⟨v, -, rfl⟩ := map_ok h
      exact .inl rfl
    | none =>
      simp only [giveContent] at h
      split at h
      · cases h
        exact .inl rfl
      · cases h
        exact .inl rfl
  | matrix content =>
    cases content with
    | some content => exact hd.elim
    | none =>
      simp only [giveContent] at h
      split at h
      · cases h
        exact .inl rfl
      · cases h
        exact .inr rfl

omit [Scalar α] in
/-- A new name leaves nothing missing, once it has its content. -/
theorem Sound.extend {s' : Symbols α} {t : String} {kind : SymbolKind} (hs : s.Sound)
    (hnew : s.kind? (.text t) = none) (hkinds : s'.kinds = s.kinds.insert (.text t) kind)
    (hvalues : ∀ x, (s.values.find? x).isSome → (s'.values.find? x).isSome)
    (hmatrices : ∀ x, (s.matrices.find? x).isSome → (s'.matrices.find? x).isSome)
    (hvalue : kind = .value → (s'.values.find? (.text t)).isSome)
    (hmatrix : kind = .matrix → (s'.matrices.find? (.text t)).isSome) : s'.Sound := by
  have hkind : ∀ x, s'.kind? x = if Label.text t == x then some kind else s.kind? x := by
    intro x
    rw [kind?, hkinds, Dict.find_insert]
    rfl
  constructor
  · intro x hx
    rw [hkinds] at hx
    rcases Dict.mem_keys_insert hx with rfl | hx
    · exact ⟨t, rfl⟩
    · exact hs.texts x hx
  · intro e he
    rw [hkinds, Dict.insert_entries hnew] at he
    rw [hkind]
    rcases List.mem_append.mp he with he | he
    · have hold := hs.proper e he
      rw [if_neg]
      · exact hold
      · intro heq
        rw [← s.kind_congr heq, hnew] at hold
        cases hold
    · rw [List.mem_singleton.mp he, if_pos BEq.rfl]
  · intro x hx
    rw [hkind] at hx
    split at hx
    · next heq =>
      cases hx
      rw [← Dict.find_congr heq]
      exact hvalue rfl
    · exact hvalues x (hs.values x hx)
  · intro x hx
    rw [hkind] at hx
    split at hx
    · next heq =>
      cases hx
      rw [← Dict.find_congr heq]
      exact hmatrix rfl
    · exact hmatrices x (hs.matrices x hx)

/-- A name is declared unless it is there with another kind. -/
theorem declare_cases (hs : s.Sound) (hd : d.Plain) (t : String) :
    (∃ kind, s.kind? (.text t) = some kind ∧ kind ≠ d.kind ∧
      ∃ e, e.kind = .symbolKind ∧ s.declare (.str t) d = (s, .error e)) ∨
    ∃ s', s.declare (.str t) d = (s', .ok ⟨.str t, d.kind⟩) ∧ s'.Sound ∧
      ∀ u kind, s'.kind? (.text u) = some kind ↔
        s.kind? (.text u) = some kind ∨ (u = t ∧ kind = d.kind) := by
  cases hfound : s.kind? (.text t) with
  | some kind =>
    by_cases hkind : kind = d.kind
    · -- the name is there, and may get another content
      obtain ⟨s', hs', hkinds, hvalues, hmatrices, -, -⟩ := giveContent_ok hd s (.text t)
      refine .inr ⟨s', ?_, hs.keep hkinds (fun x _ => hvalues x) hmatrices, ?_⟩
      · simp only [declare, nameKey, Value.label?, hfound, if_pos hkind, hs']
      · intro u k
        rw [kind?, hkinds]
        refine ⟨.inl, ?_⟩
        rintro (h | ⟨rfl, rfl⟩)
        · exact h
        · exact hkind ▸ hfound
    · refine .inl ⟨kind, rfl, hkind, (Error.declaredAs (.text t) kind.word).settled, rfl, ?_⟩
      simp only [declare, nameKey, Value.label?, hfound, if_neg hkind]
  | none =>
    obtain ⟨s', hs', hkinds, hvalues, hmatrices, hvalue, hmatrix⟩ :=
      giveContent_ok hd { s with kinds := s.kinds.insert (.text t) d.kind } (.text t)
    refine .inr ⟨s', ?_, hs.extend hfound hkinds hvalues hmatrices hvalue hmatrix, ?_⟩
    · simp only [declare, nameKey, Value.label?, hfound, hs']
    · intro u k
      rw [kind?, hkinds, Dict.find_insert]
      by_cases heq : t = u
      · subst heq
        rw [if_pos BEq.rfl, hfound]
        simp [eq_comm]
      · rw [if_neg fun h => heq (Label.text_beq.mp h)]
        exact ⟨.inl, fun h => h.resolve_right fun h => heq h.1.symm⟩

/-- A name is there, or is to be declared. -/
def Declares (s : Symbols α) (entries : List (Name × Declaration α)) (t : String) (kind : SymbolKind) :
    Prop :=
  s.kind? (.text t) = some kind ∨ ∃ d, (.str t, d) ∈ entries ∧ d.kind = kind

omit [Scalar α] in
theorem declares_cons {s s' : Symbols α} {t u : String} {d : Declaration α} {kind : SymbolKind}
    {rest : List (Name × Declaration α)}
    (h : ∀ u kind, s'.kind? (.text u) = some kind ↔
      s.kind? (.text u) = some kind ∨ (u = t ∧ kind = d.kind)) :
    s'.Declares rest u kind ↔ s.Declares ((.str t, d) :: rest) u kind := by
  unfold Declares
  rw [h]
  constructor
  · rintro ((h | ⟨rfl, rfl⟩) | ⟨d', hd', hkind⟩)
    · exact .inl h
    · exact .inr ⟨d, List.mem_cons_self, rfl⟩
    · exact .inr ⟨d', List.mem_cons_of_mem _ hd', hkind⟩
  · rintro (h | ⟨d', hd', rfl⟩)
    · exact .inl (.inl h)
    · rcases List.mem_cons.mp hd' with heq | hd'
      · cases heq
        exact .inl (.inr ⟨rfl, rfl⟩)
      · exact .inr ⟨d', hd', rfl⟩

/-- **Declaring names.** Either the table knows afterwards what was to be declared, or some name was to be
    declared with two kinds. -/
theorem declareAll_cases {entries : List (Name × Declaration α)}
    (hentries : ∀ e ∈ entries, (∃ t, e.1 = .str t) ∧ e.2.Plain) (hs : s.Sound) :
    (∃ s', s.declareAll entries = .ok s' ∧ s'.Sound ∧
      ∀ t kind, s'.kind? (.text t) = some kind ↔ s.Declares entries t kind) ∨
    ∃ e, s.declareAll entries = .error e ∧ e.kind = .symbolKind ∧
      ∃ t kind kind', kind ≠ kind' ∧ s.Declares entries t kind ∧ s.Declares entries t kind' := by
  induction entries generalizing s with
  | nil =>
    refine .inl ⟨s, rfl, hs, fun t kind => ⟨.inl, ?_⟩⟩
    rintro (h | ⟨d, hd, -⟩)
    · exact h
    · cases hd
  | cons entry rest ih =>
    obtain ⟨name, d⟩ := entry
    obtain ⟨⟨t, rfl⟩, hd⟩ := hentries (name, d) List.mem_cons_self
    have hrest : ∀ e ∈ rest, (∃ t, e.1 = .str t) ∧ e.2.Plain :=
      fun e he => hentries e (List.mem_cons_of_mem _ he)
    rcases declare_cases hs hd t with ⟨kind, hfound, hkind, e, he, hdeclare⟩ | ⟨s', hdeclare, hs', hkinds⟩
    · refine .inr ⟨e, ?_, he, t, kind, d.kind, hkind, .inl hfound, .inr ⟨d, List.mem_cons_self, rfl⟩⟩
      simp only [declareAll, hdeclare]
    · have hall : s.declareAll ((.str t, d) :: rest) = s'.declareAll rest := by
        simp only [declareAll, hdeclare]
      rw [hall]
      rcases ih hrest hs' with ⟨s'', hok, hs'', hknown⟩ | ⟨e, herror, he, u, k, k', hne, hk, hk'⟩
      · refine .inl ⟨s'', hok, hs'', fun u kind => ?_⟩
        rw [hknown, declares_cons hkinds]
      · exact .inr ⟨e, herror, he, u, k, k', hne, (declares_cons hkinds).mp hk,
          (declares_cons hkinds).mp hk'⟩

/-- A name that is declared is there with its kind, or is new, and is given its content. -/
theorem declare_ok {s' : Symbols α} {name : Name} {ref : SymbolRef}
    (h : s.declare name d = (s', .ok ref)) :
    ∃ k, name.label? = some k ∧
      ((s.kind? k = some d.kind ∧ s.giveContent k d = .ok s') ∨
        (s.kind? k = none ∧
          ({ s with kinds := s.kinds.insert k d.kind } : Symbols α).giveContent k d = .ok s')) := by
  unfold declare at h
  cases hkey : nameKey name with
  | error e =>
    rw [hkey] at h
    cases h
  | ok k =>
    refine ⟨k, nameKey_eq_ok.mp hkey, ?_⟩
    simp only [hkey] at h
    cases hkind : s.kind? k with
    | some kind =>
      simp only [hkind] at h
      split at h
      · next heq =>
        split at h
        · next hgive =>
          cases h
          exact .inl ⟨congrArg some heq, hgive⟩
        · cases h
      · cases h
    | none =>
      simp only [hkind] at h
      split at h
      · next hgive =>
        cases h
        exact .inr ⟨rfl, hgive⟩
      · cases h

/-- What every declaration keeps is kept by all of them. -/
theorem declareAll_keeps {P : Symbols α → Prop} {entries : List (Name × Declaration α)}
    (hdeclare : ∀ e ∈ entries, ∀ s s' ref, s.declare e.1 e.2 = (s', .ok ref) → P s → P s')
    {s s' : Symbols α} (hs : P s) (h : s.declareAll entries = .ok s') : P s' := by
  induction entries generalizing s with
  | nil =>
    cases h
    exact hs
  | cons entry rest ih =>
    rw [declareAll] at h
    split at h
    · next s₁ ref hdeclared =>
      exact ih (fun e he => hdeclare e (List.mem_cons_of_mem _ he))
        (hdeclare entry List.mem_cons_self s s₁ ref hdeclared hs) h
    · cases h

end Symbols

/-! ## The table of a program -/

/-- The declarations of knobs with their values. -/
def valueDeclarations (initial : List (String × α)) : List (Name × Declaration α) :=
  initial.map fun entry => (.str entry.1, .value (some (.ok entry.2)))

section

variable {ops : List (Opcode α)} {initial : List (String × α)}

theorem SymbolKind.bare_plain (kind : SymbolKind) : (kind.bare : Declaration α).Plain := by
  cases kind <;> exact trivial

theorem SymbolKind.bare_kind (kind : SymbolKind) : (kind.bare : Declaration α).kind = kind := by
  cases kind <;> rfl

/-- What a program declares are the names that it mentions. -/
theorem declares_iff_uses (t : String) (kind : SymbolKind) :
    Symbols.Declares {} (declarations ops (valueDeclarations initial)) t kind ↔
      Uses ops initial (.str t) kind := by
  constructor
  · rintro (h | ⟨d, hd, rfl⟩)
    · cases h
    · rcases List.mem_append.mp hd with hd | hd
      · obtain ⟨⟨name, kind⟩, hmem, heq⟩ := List.mem_map.mp hd
        obtain ⟨op, hop, hsymbol⟩ := List.mem_flatMap.mp hmem
        cases heq
        rw [SymbolKind.bare_kind]
        exact .inl ⟨op, hop, Opcode.mem_symbols.1 hsymbol⟩
      · obtain ⟨entry, hentry, heq⟩ := List.mem_map.mp hd
        cases heq
        exact .inr ⟨rfl, entry, hentry, rfl⟩
  · rintro (⟨op, hop, hmentions⟩ | ⟨rfl, entry, hentry, hname⟩)
    · have hsymbol := Opcode.mem_symbols.2 hmentions ⟨t, rfl⟩
      refine .inr ⟨kind.bare, List.mem_append_left _ ?_, kind.bare_kind⟩
      exact List.mem_map.mpr ⟨(.str t, kind), List.mem_flatMap.mpr ⟨op, hop, hsymbol⟩, rfl⟩
    · refine .inr ⟨.value (some (.ok entry.2)), List.mem_append_right _ ?_, rfl⟩
      exact List.mem_map.mpr ⟨entry, hentry, by rw [hname]⟩

/-- All that a program declares are texts, and nothing that is given for them is missing. -/
theorem declarations_plain (htexts : TextNames ops) :
    ∀ e ∈ declarations ops (valueDeclarations initial), (∃ t, e.1 = .str t) ∧ e.2.Plain := by
  intro e he
  rcases List.mem_append.mp he with he | he
  · obtain ⟨⟨name, kind⟩, hmem, rfl⟩ := List.mem_map.mp he
    obtain ⟨op, hop, hsymbol⟩ := List.mem_flatMap.mp hmem
    exact ⟨htexts op hop name kind (Opcode.mem_symbols.1 hsymbol), kind.bare_plain⟩
  · obtain ⟨entry, -, rfl⟩ := List.mem_map.mp he
    exact ⟨⟨entry.1, rfl⟩, entry.2, rfl⟩

theorem declaredRecord_ok {names : List Label} (h : ∀ x ∈ names, ∃ t, x = .text t) :
    ∃ record, declaredRecord names = .ok record := by
  have htexts : ∃ texts, names.mapM (fun k => k.value.str?) = some texts := by
    induction names with
    | nil => exact ⟨[], rfl⟩
    | cons x rest ih =>
      obtain ⟨t, rfl⟩ := h x List.mem_cons_self
      obtain ⟨texts, hrest⟩ := ih fun y hy => h y (List.mem_cons_of_mem _ hy)
      refine ⟨t :: texts, ?_⟩
      rw [List.mapM_cons, hrest]
      rfl
  obtain ⟨texts, h⟩ := htexts
  simp only [declaredRecord, h]
  exact ⟨_, rfl⟩

variable [Scalar α]

/-- **The table of a program.** Either it knows what the program mentions and nothing is missing, or some
    name is mentioned for two kinds. -/
theorem ofProgram_cases (htexts : TextNames ops) (initial : List (String × α)) :
    (∃ s record, Symbols.ofProgram ops (valueDeclarations initial) = .ok (s, record) ∧ s.Sound ∧
      ∀ t kind, s.kind? (.text t) = some kind ↔ Uses ops initial (.str t) kind) ∨
    ∃ e, Symbols.ofProgram ops (valueDeclarations initial) = .error e ∧ e.kind = .symbolKind ∧
      Conflict ops initial := by
  rcases Symbols.declareAll_cases (declarations_plain htexts) Symbols.sound_empty with
    ⟨s, hok, hs, hknown⟩ | ⟨e, herror, he, t, kind, kind', hne, hk, hk'⟩
  · obtain ⟨record, hrecord⟩ := declaredRecord_ok hs.texts
    refine .inl ⟨s, record, ?_, hs, fun t kind => (hknown t kind).trans (declares_iff_uses t kind)⟩
    simp only [Symbols.ofProgram, hok, hrecord, bind, Except.bind]
    rfl
  · refine .inr ⟨e, ?_, he, .str t, kind, kind', hne, (declares_iff_uses t kind).mp hk,
      (declares_iff_uses t kind').mp hk'⟩
    simp only [Symbols.ofProgram, herror]
    rfl

/-- The names of coordinate systems stand for the world, as long as none is saved. -/
theorem ofProgram_matrices {s : Symbols α} {record : Record}
    (h : Symbols.ofProgram ops (valueDeclarations initial) = .ok (s, record)) {x : Label} {t : Matrix α}
    (ht : s.matrices.find? x = some t) : t = .identity := by
  obtain ⟨s', hs', h⟩ := bind_ok h
  obtain ⟨r, -, h⟩ := bind_ok h
  cases h
  have hplain : ∀ e ∈ declarations ops (valueDeclarations initial), e.2.Plain := by
    intro e he
    rcases List.mem_append.mp he with he | he
    · obtain ⟨⟨name, kind⟩, -, rfl⟩ := List.mem_map.mp he
      exact kind.bare_plain
    · obtain ⟨entry, -, rfl⟩ := List.mem_map.mp he
      exact ⟨entry.2, rfl⟩
  refine Symbols.declareAll_keeps (P := fun s => ∀ x t, s.matrices.find? x = some t → t = .identity)
    ?_ (nofun : ∀ x t, (none : Option (Matrix α)) = some t → t = .identity) hs' x t ht
  intro e he s s' ref hdeclare hs x t ht
  obtain ⟨k, -, hgive⟩ := Symbols.declare_ok hdeclare
  have hmatrices : s'.matrices = s.matrices ∨ s'.matrices = s.matrices.insert k .identity := by
    rcases hgive with ⟨-, hgive⟩ | ⟨-, hgive⟩
    · exact Symbols.giveContent_matrices (hplain e he) hgive
    · have hextended := Symbols.giveContent_matrices (hplain e he) hgive
      exact hextended
  rcases hmatrices with hmatrices | hmatrices
  · exact hs x t (hmatrices ▸ ht)
  · rw [hmatrices, Dict.find_insert] at ht
    split at ht
    · exact (Option.some.inj ht).symm
    · exact hs x t ht

/-- A program has no table if and only if a name is mentioned for two kinds. -/
theorem ofProgram_error_iff (htexts : TextNames ops) (initial : List (String × α)) :
    (∃ e, Symbols.ofProgram ops (valueDeclarations initial) = .error e) ↔ Conflict ops initial := by
  rcases ofProgram_cases htexts initial with
    ⟨s, record, hok, -, hknown⟩ | ⟨e, herror, -, hconflict⟩
  · rw [hok]
    refine ⟨nofun, ?_⟩
    rintro ⟨name, kind, kind', hne, hk, hk'⟩
    obtain ⟨t, rfl⟩ := hk.text htexts
    have h := (hknown t kind).mpr hk
    rw [(hknown t kind').mpr hk'] at h
    exact absurd (Option.some.inj h).symm hne
  · exact ⟨fun _ => hconflict, fun _ => ⟨e, herror⟩⟩

end

end Wireframe
