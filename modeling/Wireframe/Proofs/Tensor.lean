import Wireframe.Tensor.Reading
import Wireframe.Proofs.Basic
import Mathlib.Algebra.BigOperators.Group.List.Basic

/-!
# `Wireframe.Proofs.Tensor` — arrays with all their entries

An array has as many entries as its shape says. Its parts along the first axis are then equally long pieces
of the entries, and put together they give the entries back. Arrays that are read from documents are of
this kind.

## Contents
- `Tensor.Full`: arrays with all their entries.
- `count_cons`, `chunks_flatten`, `exists_rows`: pieces of equal length.
- `slices_eq`, `map_entries_slices`, `Full.exists_rows`, `Full.slice`: the parts of an array.
- `length_leaves`, `Full.ofValue`: arrays from documents.
- `product_shape`, `product_refused`: the shape of a product, and products that do not exist.
-/

namespace Wireframe.Tensor

open Document

variable {α : Type}

/-- As many entries as the shape says. -/
def Full (t : Tensor α) : Prop := t.entries.length = count t.shape

/-! ## Pieces of equal length -/

theorem count_nil : count [] = 1 := rfl

theorem count_cons (n : Nat) (shape : List Nat) : count (n :: shape) = n * count shape := by
  rw [count, count, ← List.prod_eq_foldl, ← List.prod_eq_foldl, List.prod_cons]

theorem chunks_flatten {size : Nat} {rows : List (List α)} (h : ∀ r ∈ rows, r.length = size) :
    chunks size rows.length rows.flatten = rows := by
  induction rows with
  | nil => rfl
  | cons r rest ih =>
    obtain ⟨hr, hrest⟩ := List.forall_mem_cons.mp h
    rw [List.length_cons, List.flatten_cons, chunks, List.take_left' hr, List.drop_left' hr, ih hrest]

/-- A list can be cut into pieces of equal length that exhaust it. -/
theorem exists_rows {size n : Nat} {xs : List α} (h : xs.length = n * size) :
    ∃ rows : List (List α), rows.length = n ∧ (∀ r ∈ rows, r.length = size) ∧ xs = rows.flatten := by
  induction n generalizing xs with
  | zero =>
    rw [Nat.zero_mul, List.length_eq_zero_iff] at h
    exact ⟨[], rfl, nofun, h⟩
  | succ n ih =>
    rw [Nat.succ_mul] at h
    have hrest : (xs.drop size).length = n * size := by rw [List.length_drop, h, Nat.add_sub_cancel]
    have hfirst : (xs.take size).length = size := by
      rw [List.length_take, h]
      omega
    obtain ⟨rows, hlength, hrows, hflatten⟩ := ih hrest
    refine ⟨xs.take size :: rows, by rw [List.length_cons, hlength], ?_, ?_⟩
    · exact List.forall_mem_cons.mpr ⟨hfirst, hrows⟩
    · rw [List.flatten_cons, ← hflatten, List.take_append_drop]

/-! ## Parts -/

theorem slices_eq {shape : List Nat} {rows : List (List α)} (h : ∀ r ∈ rows, r.length = count shape) :
    (⟨rows.length :: shape, rows.flatten⟩ : Tensor α).slices = rows.map fun r => ⟨shape, r⟩ := by
  rw [slices]
  exact congrArg _ (chunks_flatten h)

theorem shape_of_mem_slices {n : Nat} {shape : List Nat} {t part : Tensor α} (hshape : t.shape = n :: shape)
    (hpart : part ∈ t.slices) : part.shape = shape := by
  rw [slices, hshape] at hpart
  obtain ⟨r, -, rfl⟩ := List.mem_map.mp hpart
  rfl

/-- The rows of an array of rank two. -/
theorem map_entries_slices {width : Nat} {rows : List (List α)} (h : ∀ r ∈ rows, r.length = width) :
    (⟨[rows.length, width], rows.flatten⟩ : Tensor α).slices.map entries = rows := by
  have hcount : count [width] = width := by rw [count_cons, count_nil, Nat.mul_one]
  rw [slices_eq (by rwa [hcount]), List.map_map]
  exact List.map_id _

/-- The entries of an array are those of its parts. -/
theorem Full.exists_rows {n : Nat} {shape : List Nat} {t : Tensor α} (ht : t.Full)
    (hshape : t.shape = n :: shape) : ∃ rows : List (List α), rows.length = n ∧
      (∀ r ∈ rows, r.length = count shape) ∧ t = ⟨rows.length :: shape, rows.flatten⟩ := by
  rw [Full, hshape, count_cons] at ht
  obtain ⟨rows, rfl, hrows, hflatten⟩ := Tensor.exists_rows ht
  obtain ⟨shape', entries⟩ := t
  cases hshape
  cases hflatten
  exact ⟨rows, rfl, hrows, rfl⟩

theorem Full.slice {t part : Tensor α} (ht : t.Full) (hpart : part ∈ t.slices) : part.Full := by
  cases hshape : t.shape with
  | nil =>
    rw [slices, hshape] at hpart
    cases hpart
  | cons n shape =>
    obtain ⟨rows, -, hrows, rfl⟩ := ht.exists_rows hshape
    rw [slices_eq hrows] at hpart
    obtain ⟨r, hr, rfl⟩ := List.mem_map.mp hpart
    exact hrows r hr

/-! ## Arrays from documents -/

/-- A sequence that has a shape is empty, or its items have the shape of the first. -/
theorem shape_items {v : Value} {vs : List Value} {shape : List Nat}
    (h : (do let s ← shape? v; if sameShape s vs then some ((vs.length + 1) :: s) else none) = some shape) :
    ∃ s, shape? v = some s ∧ sameShape s vs = true ∧ shape = (vs.length + 1) :: s := by
  obtain ⟨s, hs, h⟩ := Option.bind_eq_some_iff.mp h
  split at h
  · next hsame => exact ⟨s, hs, hsame, (Option.some.inj h).symm⟩
  · cases h

theorem length_leavesOf_cons {v : Value} {vs : List Value} {s : List Nat}
    (hv : (leaves v).length = count s) (hvs : (leavesOf vs).length = vs.length * count s) :
    (leavesOf (v :: vs)).length = count ((vs.length + 1) :: s) := by
  rw [leavesOf, List.length_append, hv, hvs, count_cons, Nat.succ_mul, Nat.add_comm]

mutual

/-- Nested sequences hold as many values as their shape says. -/
theorem length_leaves {shape : List Nat} : ∀ v : Value, shape? v = some shape →
    (leaves v).length = count shape
  | .list [], h | .tuple [], h => by
    rw [shape?] at h
    cases h
    rfl
  | .list (v :: vs), h | .tuple (v :: vs), h => by
    rw [shape?] at h
    obtain ⟨s, hs, hsame, rfl⟩ := shape_items h
    exact length_leavesOf_cons (length_leaves v hs) (length_leavesOf vs hsame)
  | .atom _, h | .map _, h | .set _, h | .knot _ _, h | .again _, h => by
    rw [shape?] at h
    · cases h
      rfl
    all_goals nofun

theorem length_leavesOf {shape : List Nat} : ∀ vs : List Value, sameShape shape vs = true →
    (leavesOf vs).length = vs.length * count shape
  | [], _ => by rw [leavesOf, List.length_nil, Nat.zero_mul]
  | v :: vs, h => by
    rw [sameShape, Bool.and_eq_true, beq_iff_eq] at h
    rw [length_leavesOf_cons (length_leaves v h.1) (length_leavesOf vs h.2), count_cons, List.length_cons]

end

theorem length_readEntries {β : Type} {read : Value → Except Error β} {vs : List Value} {xs : List β}
    (h : readEntries read vs = .ok xs) : xs.length = vs.length := by
  induction vs generalizing xs with
  | nil =>
    cases h
    rfl
  | cons v vs ih =>
    obtain ⟨x, -, h⟩ := bind_ok h
    obtain ⟨rest, hrest, h⟩ := bind_ok h
    cases h
    rw [List.length_cons, List.length_cons, ih hrest]

/-- An array that is read from a document has all its entries. -/
theorem Full.ofValue {v : Value} {t : Tensor Float} (h : Tensor.ofValue v = .ok t) : t.Full := by
  obtain ⟨shape, hshape, h⟩ := bind_ok h
  obtain ⟨entries, hentries, h⟩ := bind_ok h
  cases h
  rw [Full, length_readEntries hentries]
  refine length_leaves v ?_
  unfold shapeOf at hshape
  split at hshape
  · next s hs =>
    split at hshape
    · cases hshape
      exact hs
    · cases hshape
  · cases hshape

/-! ## Products -/

theorem asRight_vector {t : Tensor α} {n : Nat} (h : t.shape = [n]) : t.asRight.shape = [n, 1] := by
  obtain ⟨_, entries⟩ := t
  cases h
  rfl

theorem asRight_of_rank {t : Tensor α} (h : t.rank ≠ 1) : t.asRight = t := by
  unfold asRight
  split
  · next n hshape => exact absurd (congrArg List.length hshape) h
  · rfl

variable [Scalar α]

/-- What a product that exists says of the shapes: the inner axes agree, and so do the outer ones. -/
theorem product_shape {a b p : Tensor α} (h : a.product b = .ok p) :
    ∃ k n m left right outer, a.asLeft.shape.reverse = k :: n :: left ∧
      b.asRight.shape.reverse = m :: k :: right ∧ broadcastReversed? left right = some outer ∧
      p.shape = resultShape a.rank b.rank outer.reverse n m := by
  unfold product at h
  split at h
  · cases h
  · dsimp only at h
    split at h
    · next k n left m k' right hleft hright =>
      split at h
      · cases h
      · next hk =>
        obtain rfl : k = k' := by simpa using hk
        split at h
        · cases h
        · next outer houter =>
          cases h
          exact ⟨k, n, m, left, right, outer, hleft, hright, houter, rfl⟩
    · cases h

/-- A product that does not exist is one of arrays whose shapes do not fit. -/
theorem product_refused {a b : Tensor α} {e : Error} (h : a.product b = .error e) : e = .arrayShape := by
  unfold product at h
  split at h
  · cases h
    rfl
  · dsimp only at h
    split at h
    · split at h
      · cases h
        rfl
      · split at h
        · cases h
          rfl
        · cases h
    · cases h
      rfl

end Wireframe.Tensor
