import Wireframe.Proofs.Basic
import Wireframe.Proofs.Color.Share
import Wireframe.Proofs.Decimal.Hex

/-!
# `Wireframe.Proofs.Color.Range` — the components of colours

Whatever text or sequence a colour is read from, its components do not lie above 255. They do not lie
below 0 either, except for texts: two characters with a sign are read as a number of one digit, so that
a component can be as low as -15.

## Contents
- `shares_of_components`, `Rgb.ofShare_share`: whole numbers come back from shares.
- `Rgba.Proper`, `Rgba.ofValue_proper`: the colours that texts and sequences give.
- `Rgb.ofValue_range` assembles the results.
-/

namespace Wireframe

open Document

/-! ## Shares and bytes -/

/-- There are only so many components that each can be looked at. -/
theorem forall_component {p : Int → Bool} (h : ((List.range 271).all fun k => p ((k : Int) - 15)) = true)
    {n : Int} (hlower : -15 ≤ n) (hupper : n ≤ 255) : p n = true := by
  have hn := List.all_eq_true.mp h (n + 15).toNat (List.mem_range.mpr (by omega))
  have hcast : (((n + 15).toNat : Nat) : Int) - 15 = n := by omega
  rwa [hcast] at hn

/-- Whole numbers come back from their shares, which are shares of full light unless they are negative; that
of the greatest one is full light. -/
theorem shares_of_components {n : Int} (hlower : -15 ≤ n) (hupper : n ≤ 255) :
    Rgb.ofShare (Rgba.share n) = n ∧ (Rgba.isShare (Rgba.share n) = true ↔ 0 ≤ n) ∧
      (n = 255 → Rgba.share n = 1.0) := by
  have hall := forall_component (p := fun n => Rgb.ofShare (Rgba.share n) == n &&
    Rgba.isShare (Rgba.share n) == decide (0 ≤ n) && (n != 255 || decide (Rgba.share n = 1.0)))
    (by decide +kernel) hlower hupper
  rw [Bool.and_eq_true, Bool.and_eq_true] at hall
  obtain ⟨⟨hback, hshare⟩, hfull⟩ := hall
  refine ⟨eq_of_beq hback, ?_, ?_⟩
  · rw [eq_of_beq hshare, decide_eq_true_eq]
  · intro hn
    rcases Bool.or_eq_true_iff.mp hfull with hless | hone
    · exact absurd hn (bne_iff_ne.mp hless)
    · exact of_decide_eq_true hone

theorem Rgb.ofShare_share {n : Int} (hlower : -15 ≤ n) (hupper : n ≤ 255) :
    Rgb.ofShare (Rgba.share n) = n :=
  (shares_of_components hlower hupper).1

namespace Rgba

theorem isShare_clamp {x : Float} (h : isShare x = true) : isShare (clamp x) = true := by
  unfold clamp
  split
  · decide
  · split
    · decide
    · exact h

theorem toByte_range {x : Float} {n : Int} (h : toByte x = .ok n) : 0 ≤ n ∧ n ≤ 255 := by
  unfold toByte at h
  split at h
  · cases h
    omega
  · cases h

/-- A colour whose red, green and blue are shares of whole numbers, or shares as they are given. -/
inductive Proper : Rgba → Prop
  | bytes {r g b a : Int} (h : ∀ n ∈ [r, g, b], -15 ≤ n ∧ n ≤ 255) : Proper (ofBytes r g b a)
  | shares {c : Rgba} (red : isShare c.red = true) (green : isShare c.green = true)
      (blue : isShare c.blue = true) : Proper c

theorem ofHex_proper {s : String} {c : Rgba} (h : ofHex s = .ok c) : c.Proper := by
  have hpairs : ∀ {ps : List (Char × Char)} {ns : List Int},
      (ps.mapM fun p => pair? p.1 p.2) = some ns → ∀ n ∈ ns, -15 ≤ n ∧ n ≤ 255 := by
    intro ps ns hps n hn
    obtain ⟨p, -, hp⟩ := mapM_mem hps hn
    exact (Decimal.readHex_eq_some.mp hp).range
  simp only [ofHex] at h
  split at h
  · cases h
  · next r g b hbytes =>
    cases h
    refine .bytes ?_
    split at hbytes
    · exact hpairs (Option.some.inj hbytes)
    · exact hpairs (Option.some.inj hbytes)
    · cases hbytes
  · next r g b a hbytes =>
    cases h
    have hall : ∀ n ∈ [r, g, b, a], -15 ≤ n ∧ n ≤ 255 := by
      split at hbytes
      · exact hpairs (Option.some.inj hbytes)
      · exact hpairs (Option.some.inj hbytes)
      · cases hbytes
    exact .bytes fun n hn => hall n (List.mem_append_left [a] hn)
  · cases h

theorem ofComponents_proper {x y z : Float} {opacity : Option Float} {c : Rgba}
    (h : ofComponents x y z opacity = .ok c) : c.Proper := by
  simp only [ofComponents] at h
  split at h
  · next hshares =>
    cases h
    rw [List.all_eq_true] at hshares
    exact .shares (isShare_clamp (hshares x (by simp))) (isShare_clamp (hshares y (by simp)))
      (isShare_clamp (hshares z (by simp)))
  · obtain ⟨r, hr, h⟩ := bind_ok h
    obtain ⟨g, hg, h⟩ := bind_ok h
    obtain ⟨b, hb, h⟩ := bind_ok h
    obtain ⟨a, -, h⟩ := bind_ok h
    cases h
    refine .bytes fun n hn => ?_
    have hrange : 0 ≤ n ∧ n ≤ 255 := by
      rcases List.mem_cons.mp hn with rfl | hn
      · exact toByte_range hr
      · rcases List.mem_cons.mp hn with rfl | hn
        · exact toByte_range hg
        · rw [List.mem_singleton.mp hn]
          exact toByte_range hb
    omega

theorem ofValue_proper {v : Value} {c : Rgba} (h : ofValue v = .ok c) : c.Proper := by
  have hsequence : ∀ items, ofSequence v items = .ok c → c.Proper := by
    intro items hitems
    unfold ofSequence at hitems
    split at hitems
    · cases hitems
    · split at hitems
      · exact ofComponents_proper hitems
      · exact ofComponents_proper hitems
      · cases hitems
      · cases hitems
  unfold ofValue at h
  split at h
  · exact ofHex_proper h
  · exact hsequence _ h
  · exact hsequence _ h
  · cases h

end Rgba

/-- **The components of a colour.** They lie between -15 and 255. -/
theorem Rgb.ofValue_range {v : Value} {c : Rgb} (h : Rgb.ofValue v = .ok c) :
    ∀ n ∈ c.toList, -15 ≤ n ∧ n ≤ 255 := by
  obtain ⟨d, hd, rfl⟩ := map_ok h
  cases Rgba.ofValue_proper hd with
  | @bytes r g b a hbytes =>
    have hshare : ∀ n ∈ [r, g, b], Rgb.ofShare (Rgba.share n) = n := fun n hn =>
      Rgb.ofShare_share (hbytes n hn).1 (hbytes n hn).2
    intro n hn
    refine hbytes n ?_
    simp only [Rgb.toList, Rgba.ofBytes, List.mem_cons, List.not_mem_nil, or_false] at hn
    rcases hn with rfl | rfl | rfl
    · rw [hshare r (by simp)]
      simp
    · rw [hshare g (by simp)]
      simp
    · rw [hshare b (by simp)]
      simp
  | shares red green blue =>
    intro n hn
    simp only [Rgb.toList, List.mem_cons, List.not_mem_nil, or_false] at hn
    rcases hn with rfl | rfl | rfl
    · have hrange := Light.ofShare_range red
      omega
    · have hrange := Light.ofShare_range green
      omega
    · have hrange := Light.ofShare_range blue
      omega

end Wireframe
