import Wireframe.Dict

/-!
# `Wireframe.Proofs.Dict` — what is found in a table

Keys count up to their equality, which need not be identity: a table finds under a key what was written
last under an equal one, and writing under one key leaves what is found under others.

## Contents
- `find_congr`, `exists_of_find`, `ne_of_find_none`: what is found, and where.
- `mem_keys_insert`, `insert_entries`, `insert_of_find`: the entries behind a write.
- `find_insert_eq`, `find_insert_ne`, `find_insert`: writing one entry.
- `find_erase_eq`, `find_erase_ne`, `keys_erase`: taking one out.
- `find_isSome_of_mem`, `mem_keys_iff`, `find_of_mem`: entries, and entries whose keys differ.
- `find_merge_ne`, `find_foldl_insert`: writing several.
-/

namespace Wireframe

namespace Dict

variable {κ ν : Type} [BEq κ]

theorem exists_of_find {d : Dict κ ν} {k : κ} {v : ν} (h : d.find? k = some v) :
    ∃ e ∈ d.entries, (e.1 == k) = true ∧ e.2 = v := by
  obtain ⟨entries⟩ := d
  change findIn? k entries = some v at h
  induction entries with
  | nil => cases h
  | cons entry rest ih =>
    obtain ⟨k', v'⟩ := entry
    cases hk : k' == k with
    | true =>
      simp only [findIn?, hk, if_true, Option.some.injEq] at h
      exact ⟨(k', v'), List.mem_cons_self, hk, h⟩
    | false =>
      simp only [findIn?, hk, Bool.false_eq_true, if_false] at h
      obtain ⟨e, he, heq⟩ := ih h
      exact ⟨e, List.mem_cons_of_mem _ he, heq⟩

/-- Where nothing is found under a key, no key is equal to it. -/
theorem ne_of_find_none {d : Dict κ ν} {k : κ} (h : d.find? k = none) :
    ∀ e ∈ d.entries, (e.1 == k) = false := by
  obtain ⟨entries⟩ := d
  change findIn? k entries = none at h
  show ∀ e ∈ entries, (e.1 == k) = false
  induction entries with
  | nil => nofun
  | cons entry rest ih =>
    obtain ⟨k', v'⟩ := entry
    cases hk : k' == k with
    | true =>
      simp only [findIn?, hk, if_true] at h
      cases h
    | false =>
      simp only [findIn?, hk, Bool.false_eq_true, if_false] at h
      exact List.forall_mem_cons.mpr ⟨hk, ih h⟩

/-- A key that is there keeps its spelling, so no other key comes up than the one that is written. -/
theorem mem_keys_insert {d : Dict κ ν} {k x : κ} {v : ν} (h : x ∈ (d.insert k v).keys) :
    x = k ∨ x ∈ d.keys := by
  obtain ⟨entries⟩ := d
  change x ∈ (insertIn k v entries).map (·.1) at h
  show x = k ∨ x ∈ entries.map (·.1)
  induction entries with
  | nil => exact .inl (List.mem_singleton.mp h)
  | cons entry rest ih =>
    obtain ⟨k', v'⟩ := entry
    cases hk : k' == k with
    | true =>
      simp only [insertIn, hk, if_true] at h
      exact .inr h
    | false =>
      simp only [insertIn, hk, Bool.false_eq_true, if_false, List.map_cons] at h
      rcases List.mem_cons.mp h with rfl | h
      · exact .inr List.mem_cons_self
      · exact (ih h).imp id (List.mem_cons_of_mem _)

/-- A key that is not there comes last. -/
theorem insert_entries {d : Dict κ ν} {k : κ} (h : d.find? k = none) (v : ν) :
    (d.insert k v).entries = d.entries ++ [(k, v)] := by
  obtain ⟨entries⟩ := d
  change findIn? k entries = none at h
  show insertIn k v entries = entries ++ [(k, v)]
  induction entries with
  | nil => rfl
  | cons entry rest ih =>
    obtain ⟨k', v'⟩ := entry
    cases hk : k' == k with
    | true =>
      simp only [findIn?, hk, if_true] at h
      cases h
    | false =>
      simp only [findIn?, hk, Bool.false_eq_true, if_false] at h
      simp only [insertIn, hk, Bool.false_eq_true, if_false, ih h, List.cons_append]

/-- Writing what is there changes nothing. -/
theorem insert_of_find {d : Dict κ ν} {k : κ} {v : ν} (h : d.find? k = some v) : d.insert k v = d := by
  obtain ⟨entries⟩ := d
  change findIn? k entries = some v at h
  refine congrArg Dict.mk ?_
  induction entries with
  | nil => cases h
  | cons entry rest ih =>
    obtain ⟨k', v'⟩ := entry
    cases hk : k' == k with
    | true =>
      simp only [findIn?, hk, if_true, Option.some.injEq] at h
      simp only [insertIn, hk, if_true, h]
    | false =>
      simp only [findIn?, hk, Bool.false_eq_true, if_false] at h
      simp only [insertIn, hk, Bool.false_eq_true, if_false, ih h]

variable [EquivBEq κ]

theorem find_congr {k k₀ : κ} (h : (k == k₀) = true) (d : Dict κ ν) : d.find? k = d.find? k₀ := by
  obtain ⟨entries⟩ := d
  show findIn? k entries = findIn? k₀ entries
  induction entries with
  | nil => rfl
  | cons entry rest ih => simp only [findIn?, BEq.congr_right h, ih]

theorem find_insert_eq {k k₀ : κ} (h : (k == k₀) = true) (v : ν) (d : Dict κ ν) :
    (d.insert k v).find? k₀ = some v := by
  obtain ⟨entries⟩ := d
  show findIn? k₀ (insertIn k v entries) = some v
  induction entries with
  | nil => simp only [insertIn, findIn?, h, if_true]
  | cons entry rest ih =>
    obtain ⟨k', v'⟩ := entry
    cases hk : k' == k with
    | true =>
      have hfound : (k' == k₀) = true := BEq.trans hk h
      simp only [insertIn, hk, if_true, findIn?, hfound]
    | false =>
      have hother : (k' == k₀) = false := by
        rw [Bool.eq_false_iff]
        intro hk₀
        have hkk : (k' == k) = true := BEq.trans hk₀ (BEq.symm h)
        rw [hk] at hkk
        cases hkk
      simp only [insertIn, hk, Bool.false_eq_true, if_false, findIn?, hother]
      exact ih

theorem find_insert_ne {k k₀ : κ} (h : (k == k₀) = false) (v : ν) (d : Dict κ ν) :
    (d.insert k v).find? k₀ = d.find? k₀ := by
  obtain ⟨entries⟩ := d
  show findIn? k₀ (insertIn k v entries) = findIn? k₀ entries
  induction entries with
  | nil => simp only [insertIn, findIn?, h, Bool.false_eq_true, if_false]
  | cons entry rest ih =>
    obtain ⟨k', v'⟩ := entry
    cases hk : k' == k with
    | true =>
      have hother : (k' == k₀) = false := by
        rw [Bool.eq_false_iff]
        intro hk₀
        have hkk : (k == k₀) = true := BEq.trans (BEq.symm hk) hk₀
        rw [h] at hkk
        cases hkk
      simp only [insertIn, hk, if_true, findIn?, hother, Bool.false_eq_true, if_false]
    | false =>
      simp only [insertIn, hk, Bool.false_eq_true, if_false, findIn?]
      split
      · rfl
      · exact ih

theorem find_insert (k k₀ : κ) (v : ν) (d : Dict κ ν) :
    (d.insert k v).find? k₀ = if k == k₀ then some v else d.find? k₀ := by
  cases h : k == k₀ with
  | true => exact find_insert_eq h v d
  | false => exact find_insert_ne h v d

theorem find_insert_isSome {x : κ} {d : Dict κ ν} (h : (d.find? x).isSome = true) (k : κ) (v : ν) :
    ((d.insert k v).find? x).isSome = true := by
  rw [find_insert]
  split
  · rfl
  · exact h

theorem find_isSome_of_mem {d : Dict κ ν} {e : κ × ν} (he : e ∈ d.entries) : (d.find? e.1).isSome = true := by
  cases hfind : d.find? e.1 with
  | some v => rfl
  | none =>
    have hother := ne_of_find_none hfind e he
    rw [BEq.rfl] at hother
    cases hother

/-- In a table whose keys differ, every entry is found. -/
theorem find_of_mem {d : Dict κ ν} (honce : d.entries.Pairwise fun a b => (a.1 == b.1) = false)
    {e : κ × ν} (he : e ∈ d.entries) : d.find? e.1 = some e.2 := by
  obtain ⟨entries⟩ := d
  change findIn? e.1 entries = some e.2
  induction entries with
  | nil => cases he
  | cons entry rest ih =>
    obtain ⟨hfirst, hrest⟩ := List.pairwise_cons.mp honce
    rcases List.mem_cons.mp he with rfl | hmem
    · simp only [findIn?, BEq.rfl, if_true]
    · simp only [findIn?, hfirst e hmem, Bool.false_eq_true, if_false]
      exact ih hrest hmem

/-- Taking out one entry leaves what is found under other keys. -/
theorem find_erase_ne {k k₀ : κ} (h : (k == k₀) = false) (d : Dict κ ν) :
    (d.erase k).find? k₀ = d.find? k₀ := by
  obtain ⟨entries⟩ := d
  show findIn? k₀ (entries.filter fun e => !(e.1 == k)) = findIn? k₀ entries
  induction entries with
  | nil => rfl
  | cons entry rest ih =>
    obtain ⟨k', v'⟩ := entry
    cases hk : k' == k with
    | true =>
      have hother : (k' == k₀) = false := by
        rw [Bool.eq_false_iff]
        intro hk₀
        have hkk : (k == k₀) = true := BEq.trans (BEq.symm hk) hk₀
        rw [h] at hkk
        cases hkk
      rw [List.filter_cons, hk, Bool.not_true, if_neg Bool.false_ne_true, ih]
      simp only [findIn?, hother, Bool.false_eq_true, if_false]
    | false =>
      rw [List.filter_cons, hk, Bool.not_false, if_pos rfl]
      simp only [findIn?, ih]

theorem find_erase_eq {k k₀ : κ} (h : (k == k₀) = true) (d : Dict κ ν) : (d.erase k).find? k₀ = none := by
  cases hfind : (d.erase k).find? k₀ with
  | none => rfl
  | some v =>
    obtain ⟨e, he, hk₀, -⟩ := exists_of_find hfind
    have hk : (!(e.1 == k)) = true := (List.mem_filter.mp he).2
    rw [BEq.trans hk₀ (BEq.symm h)] at hk
    cases hk

omit [EquivBEq κ] in
theorem keys_erase (k : κ) (d : Dict κ ν) : (d.erase k).keys = d.keys.filter fun k' => !(k' == k) := by
  rw [keys, keys, List.filter_map]
  rfl

omit [EquivBEq κ] in
theorem mem_keys_iff [LawfulBEq κ] {d : Dict κ ν} {k : κ} : k ∈ d.keys ↔ (d.find? k).isSome = true := by
  constructor
  · intro hk
    obtain ⟨e, he, rfl⟩ := List.mem_map.mp hk
    exact find_isSome_of_mem he
  · intro hk
    obtain ⟨v, hv⟩ := Option.isSome_iff_exists.mp hk
    obtain ⟨e, he, heq, -⟩ := exists_of_find hv
    exact List.mem_map.mpr ⟨e, he, eq_of_beq heq⟩

theorem find_foldl_insert (ks : List κ) (k₀ : κ) (v : ν) (d : Dict κ ν) :
    (ks.foldl (fun d k => d.insert k v) d).find? k₀ =
      if ks.any (· == k₀) then some v else d.find? k₀ := by
  induction ks generalizing d with
  | nil => rfl
  | cons k ks ih =>
    rw [List.foldl_cons, ih, find_insert, List.any_cons]
    cases k == k₀ <;> cases ks.any (· == k₀) <;> rfl

theorem find_merge_ne {k₀ : κ} {entries : List (κ × ν)} (h : ∀ e ∈ entries, (e.1 == k₀) = false)
    (d : Dict κ ν) : (d.merge entries).find? k₀ = d.find? k₀ := by
  induction entries generalizing d with
  | nil => rfl
  | cons e rest ih =>
    show ((d.insert e.1 e.2).merge rest).find? k₀ = d.find? k₀
    rw [ih (fun e he => h e (List.mem_cons_of_mem _ he)), find_insert_ne (h e List.mem_cons_self)]

end Dict

end Wireframe
