import Wireframe.Geometry
import Mathlib

/-!
# `Wireframe.Proofs.Solid.Surface` — closed surfaces of triangles

The edges of a triangle lead from each corner to the next. Triangles make up a closed surface when none
of them is flat and each edge that occurs is gone along by one triangle and against by one, so that it
belongs to these two and to no other.

## Contents
- `Triangle.edges`, `Triangle.Proper`: edges with a direction, triangles that are not flat.
- `ClosedSurface`: surfaces without holes.
- `countP_one`, `countP_or`: counting in lists.
- `closedSurface_of`: triangles at distinct places, whose edges occur once in each direction.
-/

namespace Wireframe

variable {β γ : Type}

/-! ## Edges -/

namespace Triangle

/-- The edges, from each corner to the next. -/
def edges (t : Triangle β) : List (β × β) := [(t.a, t.b), (t.b, t.c), (t.c, t.a)]

/-- No two corners are the same. -/
def Proper (t : Triangle β) : Prop := t.a ≠ t.b ∧ t.b ≠ t.c ∧ t.c ≠ t.a

instance [DecidableEq β] (t : Triangle β) : Decidable t.Proper :=
  inferInstanceAs (Decidable (t.a ≠ t.b ∧ t.b ≠ t.c ∧ t.c ≠ t.a))

theorem mem_edges {t : Triangle β} {e : β × β} :
    e ∈ t.edges ↔ e = (t.a, t.b) ∨ e = (t.b, t.c) ∨ e = (t.c, t.a) := by
  simp only [edges, List.mem_cons, List.not_mem_nil, or_false]

theorem edges_map (f : β → γ) (t : Triangle β) : (t.map f).edges = t.edges.map (Prod.map f f) := rfl

theorem proper_iff {t : Triangle β} : t.Proper ↔ ∀ e ∈ t.edges, e.1 ≠ e.2 := by
  simp only [Proper, edges, List.forall_mem_cons, List.not_mem_nil, false_implies, implies_true, and_true]

/-- A triangle that is not flat goes along its edges in one direction only. -/
theorem Proper.not_swap {t : Triangle β} (h : t.Proper) {e : β × β} (he : e ∈ t.edges) :
    e.swap ∉ t.edges := by
  obtain ⟨hab, hbc, hca⟩ := h
  rw [mem_edges] at he ⊢
  rcases he with rfl | rfl | rfl <;> simp only [Prod.swap, Prod.mk.injEq] <;> tauto

end Triangle

/-- Triangles that make up a closed surface: none is flat, and each edge belongs to exactly two of them,
    which go along it in opposite directions. -/
structure ClosedSurface [DecidableEq β] (ts : List (Triangle β)) : Prop where
  proper : ∀ t ∈ ts, t.Proper
  along : ∀ t ∈ ts, ∀ e ∈ t.edges, ts.countP (fun u => e ∈ u.edges) = 1
  against : ∀ t ∈ ts, ∀ e ∈ t.edges, ts.countP (fun u => e.swap ∈ u.edges) = 1
  two : ∀ t ∈ ts, ∀ e ∈ t.edges, ts.countP (fun u => e ∈ u.edges ∨ e.swap ∈ u.edges) = 2

/-! ## Counting -/

section

variable {p q : β → Prop} [DecidablePred p] [DecidablePred q]

/-- Of distinct items one alone is counted. -/
theorem countP_one {items : List β} (h : items.Nodup) {b : β} (hb : b ∈ items) (hp : p b)
    (hone : ∀ c ∈ items, p c → c = b) : items.countP (fun c => p c) = 1 := by
  classical
  have hsame : ∀ c ∈ items, decide (p c) = true ↔ (c == b) = true := by
    intro c hc
    rw [decide_eq_true_iff, beq_iff_eq]
    exact ⟨hone c hc, fun heq => heq ▸ hp⟩
  rw [List.countP_congr hsame]
  exact List.count_eq_one_of_mem h hb

/-- What is never both is counted one after the other. -/
theorem countP_or {items : List β} (h : ∀ b ∈ items, p b → ¬ q b) :
    items.countP (fun b => p b ∨ q b) = items.countP (fun b => p b) + items.countP (fun b => q b) := by
  induction items with
  | nil => rfl
  | cons b rest ih =>
    have hb := h b List.mem_cons_self
    have hrest := ih fun c hc => h c (List.mem_cons_of_mem _ hc)
    simp only [List.countP_cons, hrest, decide_eq_true_eq]
    by_cases hpb : p b
    · simp only [hpb, hb hpb, true_or, if_true, if_false]
      omega
    · simp only [hpb, false_or, if_false]
      omega

end

/-! ## Surfaces -/

/-- Triangles at distinct places, none of them flat, make up a closed surface if no edge occurs at two
    places and each occurs the other way round as well. -/
theorem closedSurface_of [DecidableEq γ] {places : List β} {triangle : β → Triangle γ}
    (hplaces : places.Nodup) (proper : ∀ p ∈ places, (triangle p).Proper)
    (unique : ∀ p ∈ places, ∀ q ∈ places, ∀ e ∈ (triangle p).edges, e ∈ (triangle q).edges → q = p)
    (opposite : ∀ p ∈ places, ∀ e ∈ (triangle p).edges, ∃ q ∈ places, e.swap ∈ (triangle q).edges) :
    ClosedSurface (places.map triangle) := by
  -- an edge is counted at its own place alone, and the other way round at the place opposite
  have hcount : ∀ p ∈ places, ∀ e ∈ (triangle p).edges,
      (places.map triangle).countP (fun u => e ∈ u.edges) = 1 := by
    intro p hp e he
    rw [List.countP_map]
    apply countP_one (p := fun q => e ∈ (triangle q).edges) hplaces hp he
    intro q hq hqe
    exact unique p hp q hq e he hqe
  have hproper : ∀ t ∈ places.map triangle, t.Proper := by
    intro t ht
    obtain ⟨p, hp, rfl⟩ := List.mem_map.mp ht
    exact proper p hp
  have halong : ∀ t ∈ places.map triangle, ∀ e ∈ t.edges,
      (places.map triangle).countP (fun u => e ∈ u.edges) = 1 := by
    intro t ht
    obtain ⟨p, hp, rfl⟩ := List.mem_map.mp ht
    exact hcount p hp
  have hagainst : ∀ t ∈ places.map triangle, ∀ e ∈ t.edges,
      (places.map triangle).countP (fun u => e.swap ∈ u.edges) = 1 := by
    intro t ht e he
    obtain ⟨p, hp, rfl⟩ := List.mem_map.mp ht
    obtain ⟨q, hq, hswap⟩ := opposite p hp e he
    exact hcount q hq e.swap hswap
  refine ⟨hproper, halong, hagainst, ?_⟩
  intro t ht e he
  have hnever : ∀ u ∈ places.map triangle, e ∈ u.edges → ¬ e.swap ∈ u.edges := by
    intro u hu hue
    exact (hproper u hu).not_swap hue
  rw [countP_or hnever, halong t ht e he, hagainst t ht e he]

end Wireframe
