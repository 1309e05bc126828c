import Wireframe.Proofs.Color.Range
import Wireframe.Proofs.Decimal.Hex

/-!
# `Wireframe.Proofs.Color.Hex` — colours in hexadecimal digits

A colour is written as three or four bytes of two hexadecimal digits each, in either case, with a mark before
them or without. All such texts are read, and as those bytes. But each pair of characters goes through the
reader of number texts, so that other texts are read as well: those with a sign or a blank in place of a
digit, and those with decimal digits of other scripts. A sign can lead below zero.

## Contents
- `mapM_eq_some`: a list of optional results, result by result.
- `Rgba.HexText`: colours as they should be written.
- `Rgba.Reads`, `Rgba.ofHex_eq_ok`, `Rgba.ofHex_fails`: the texts that are read, and the others.
- `Rgba.HexText.reads`, `Rgba.hexText_of_ofHex`: where they are the same.
- `Rgba.isShare_of_reads`: components as shares of full light.
- `hex_colors`: all of it; `hex_signs_read`: colours with signs.
-/

namespace Wireframe

open Document Text Decimal

/-- A list of optional results, result by result. -/
theorem mapM_eq_some {β γ : Type} {f : β → Option γ} {xs : List β} {ys : List γ} :
    xs.mapM f = some ys ↔ List.Forall₂ (fun x y => f x = some y) xs ys := by
  induction xs generalizing ys with
  | nil =>
    rw [List.mapM_nil, List.forall₂_nil_left_iff]
    exact ⟨fun h => (Option.some.inj h).symm, fun h => congrArg some h.symm⟩
  | cons x xs ih =>
    constructor
    · intro h
      obtain ⟨y, ys', hy, hys, rfl⟩ := mapM_cons_some h
      exact .cons hy (ih.mp hys)
    · rintro (_ | ⟨hy, hys⟩)
      rw [List.mapM_cons, hy, ih.mpr hys]
      rfl

namespace Rgba

/-! ## Colours as they should be written -/

/-- Characters in pairs, one after the other. -/
def unpaired (ps : List (Char × Char)) : List Char := ps.flatMap fun p => [p.1, p.2]

/-- The marks that may stand before the digits of a colour. -/
def marks : List String := ["", "#", "0x", "0X"]

/-- Two hexadecimal digits for a byte. -/
def IsByte (n : Nat) (p : Char × Char) : Prop := IsHexDigit (n / 16) p.1 ∧ IsHexDigit (n % 16) p.2

/-- The text of a colour: three or four bytes of two digits behind a mark, with blanks around them. -/
def HexText (s : String) (bytes : List Nat) : Prop :=
  (bytes.length = 3 ∨ bytes.length = 4) ∧
    ∃ mark ∈ marks, ∃ ps, (trim s).toList = mark.toList ++ unpaired ps ∧ List.Forall₂ IsByte bytes ps

/-! ## Texts that are read -/

/-- The colour of three or four whole numbers. -/
def ofNumbers? : List Int → Option Rgba
  | [r, g, b] => some (ofBytes r g b 255)
  | [r, g, b, a] => some (ofBytes r g b a)
  | _ => none

/-- The whole numbers that a text is read as, pair by pair. -/
def Reads (s : String) (ns : List Int) : Prop :=
  ∃ ps, withoutMark (trim s).toList = unpaired ps ∧
    List.Forall₂ (fun p n => HexPair (plainChar p.1) (plainChar p.2) n) ps ns

theorem mapM_pair {ps : List (Char × Char)} {ns : List Int} :
    (ps.mapM fun p => pair? p.1 p.2) = some ns ↔
      List.Forall₂ (fun p n => HexPair (plainChar p.1) (plainChar p.2) n) ps ns := by
  rw [mapM_eq_some]
  exact ⟨fun h => h.imp fun _ _ => readHex_eq_some.mp, fun h => h.imp fun _ _ => readHex_eq_some.mpr⟩

/-- A text is read as a colour exactly if its pairs are three or four numbers. -/
theorem ofHex_eq_ok {s : String} {c : Rgba} :
    ofHex s = .ok c ↔ ∃ ns, Reads s ns ∧ ofNumbers? ns = some c := by
  constructor
  · intro h
    simp only [ofHex] at h
    split at h
    · cases h
    · next r g b hnumbers =>
      cases h
      refine ⟨[r, g, b], ?_, rfl⟩
      split at hnumbers
      · next hcut => exact ⟨[(_, _), (_, _), (_, _)], hcut, mapM_pair.mp (Option.some.inj hnumbers)⟩
      · next hcut => exact ⟨[(_, _), (_, _), (_, _), (_, _)], hcut, mapM_pair.mp (Option.some.inj hnumbers)⟩
      · cases hnumbers
    · next r g b a hnumbers =>
      cases h
      refine ⟨[r, g, b, a], ?_, rfl⟩
      split at hnumbers
      · next hcut => exact ⟨[(_, _), (_, _), (_, _)], hcut, mapM_pair.mp (Option.some.inj hnumbers)⟩
      · next hcut => exact ⟨[(_, _), (_, _), (_, _), (_, _)], hcut, mapM_pair.mp (Option.some.inj hnumbers)⟩
      · cases hnumbers
    · cases h
  · rintro ⟨ns, ⟨ps, hcut, hps⟩, hc⟩
    have hnumbers := mapM_pair.mpr hps
    unfold ofNumbers? at hc
    split at hc
    · cases hc
      rcases hps with _ | ⟨_, _ | ⟨_, _ | ⟨_, _ | _⟩⟩⟩
      simp only [ofHex, hcut, unpaired, List.flatMap_cons, List.flatMap_nil, List.cons_append, List.nil_append]
      rw [hnumbers]
    · cases hc
      rcases hps with _ | ⟨_, _ | ⟨_, _ | ⟨_, _ | ⟨_, _ | _⟩⟩⟩⟩
      simp only [ofHex, hcut, unpaired, List.flatMap_cons, List.flatMap_nil, List.cons_append, List.nil_append]
      rw [hnumbers]
    · cases hc

theorem ofHex_fails {s : String} {e : Error} (h : ofHex s = .error e) : e.kind = .value := by
  simp only [ofHex] at h
  split at h <;> cases h
  · rfl
  · rfl

/-! ## Texts as they should be written -/

/-- A byte in two digits is read as that byte. -/
theorem IsByte.reads {n : Nat} {p : Char × Char} (h : IsByte n p) :
    HexPair (plainChar p.1) (plainChar p.2) n := by
  rw [h.1.plain, h.2.plain, ← Nat.div_add_mod n 16]
  exact .digits h.1 h.2

/-- Behind a mark, digits are all that is left. -/
theorem withoutMark_digits {mark : String} (hmark : mark ∈ marks) {cs : List Char}
    (hcs : ∀ c ∈ cs, ∃ d, IsHexDigit d c) : withoutMark (mark.toList ++ cs) = cs := by
  have hmarks : mark = "" ∨ mark = "#" ∨ mark = "0x" ∨ mark = "0X" := by simpa [marks] using hmark
  obtain rfl | rfl | rfl | rfl := hmarks
  · show withoutMark cs = cs
    unfold withoutMark
    split
    · next rest =>
      obtain ⟨d, hd⟩ := hcs '#' List.mem_cons_self
      exact absurd rfl hd.bare.2.2.2.2
    · next x rest =>
      obtain ⟨d, hd⟩ := hcs x (List.mem_cons_of_mem _ List.mem_cons_self)
      have hx : (x == 'x' || x == 'X') = false := by
        rw [Bool.or_eq_false_iff, beq_eq_false_iff_ne, beq_eq_false_iff_ne]
        constructor
        · rintro rfl
          exact hd.bare.2.2.2.1 rfl
        · rintro rfl
          exact hd.bare.2.2.2.1 rfl
      rw [hx]
      rfl
    · rfl
  · rfl
  · rfl
  · rfl

/-- What is left without the mark stood behind one. -/
theorem exists_mark (cs : List Char) : ∃ mark ∈ marks, cs = mark.toList ++ withoutMark cs := by
  unfold withoutMark
  split
  · exact ⟨"#", by decide, rfl⟩
  · next x rest =>
    split
    · next hx =>
      have hx : x = 'x' ∨ x = 'X' := by simpa using hx
      rcases hx with rfl | rfl
      · exact ⟨"0x", by decide, rfl⟩
      · exact ⟨"0X", by decide, rfl⟩
    · exact ⟨"", by decide, rfl⟩
  · exact ⟨"", by decide, rfl⟩

theorem digits_of_bytes {bytes : List Nat} {ps : List (Char × Char)} (h : List.Forall₂ IsByte bytes ps) :
    ∀ c ∈ unpaired ps, ∃ d, IsHexDigit d c := by
  induction h with
  | nil => exact fun c hc => absurd hc List.not_mem_nil
  | @cons n p bytes ps hp _ ih =>
    intro c hc
    rcases List.mem_append.mp hc with hc | hc
    · rcases List.mem_cons.mp hc with rfl | hc
      · exact ⟨_, hp.1⟩
      · rw [List.mem_singleton.mp hc]
        exact ⟨_, hp.2⟩
    · exact ih c hc

/-- **Texts as they should be written are read as their bytes.** -/
theorem HexText.reads {s : String} {bytes : List Nat} (h : HexText s bytes) :
    Reads s (bytes.map fun n : Nat => (n : Int)) := by
  obtain ⟨-, mark, hmark, ps, htext, hps⟩ := h
  refine ⟨ps, ?_, ?_⟩
  · rw [htext, withoutMark_digits hmark (digits_of_bytes hps)]
  · rw [List.forall₂_map_right_iff]
    exact hps.flip.imp fun _ _ => IsByte.reads

/-- Two digits are read as the byte that they are. -/
theorem isByte_of_reads {p : Char × Char} {n : Int} (h : HexPair (plainChar p.1) (plainChar p.2) n)
    (hhigh : ∃ d, IsHexDigit d p.1) (hlow : ∃ d, IsHexDigit d p.2) : ∃ k, IsByte k p ∧ n = k := by
  obtain ⟨d, hd⟩ := hhigh
  obtain ⟨e, he⟩ := hlow
  rw [hd.plain, he.plain] at h
  cases h with
  | @digits high low hhigh hlow =>
    have hlt := hlow.1
    have hdiv : (16 * high + low) / 16 = high := by omega
    have hmod : (16 * high + low) % 16 = low := by omega
    refine ⟨16 * high + low, ⟨?_, ?_⟩, rfl⟩
    · rw [hdiv]
      exact hhigh
    · rw [hmod]
      exact hlow
  | plus sign => exact absurd sign hd.bare.2.2.1
  | minus sign => exact absurd sign hd.bare.2.1
  | blankBefore blank => exact absurd blank (by rw [hd.bare.1]; exact Bool.false_ne_true)
  | blankBehind _ blank => exact absurd blank (by rw [he.bare.1]; exact Bool.false_ne_true)

theorem bytes_of_digits {ps : List (Char × Char)} {ns : List Int}
    (h : List.Forall₂ (fun p n => HexPair (plainChar p.1) (plainChar p.2) n) ps ns)
    (hdigits : ∀ c ∈ unpaired ps, ∃ d, IsHexDigit d c) :
    ∃ bytes : List Nat, List.Forall₂ IsByte bytes ps ∧ bytes.length = ns.length := by
  induction h with
  | nil => exact ⟨[], .nil, rfl⟩
  | @cons p n ps ns hp _ ih =>
    obtain ⟨bytes, hbytes, hlength⟩ := ih fun c hc => hdigits c (List.mem_append_right _ hc)
    obtain ⟨k, hk, -⟩ := isByte_of_reads hp (hdigits _ List.mem_cons_self)
      (hdigits _ (List.mem_cons_of_mem _ List.mem_cons_self))
    exact ⟨k :: bytes, .cons hk hbytes, congrArg (· + 1) hlength⟩

theorem length_of_ofNumbers {ns : List Int} {c : Rgba} (h : ofNumbers? ns = some c) :
    ns.length = 3 ∨ ns.length = 4 := by
  unfold ofNumbers? at h
  split at h
  · exact .inl rfl
  · exact .inr rfl
  · cases h

/-- **What is read of digits alone is as it should be written.** -/
theorem hexText_of_ofHex {s : String} {c : Rgba} (h : ofHex s = .ok c)
    (hdigits : ∀ x ∈ withoutMark (trim s).toList, ∃ d, IsHexDigit d x) : ∃ bytes, HexText s bytes := by
  obtain ⟨ns, ⟨ps, hcut, hps⟩, hc⟩ := ofHex_eq_ok.mp h
  rw [hcut] at hdigits
  obtain ⟨bytes, hbytes, hlength⟩ := bytes_of_digits hps hdigits
  obtain ⟨mark, hmark, htext⟩ := exists_mark (trim s).toList
  refine ⟨bytes, ?_, mark, hmark, ps, ?_, hbytes⟩
  · rw [hlength]
    exact length_of_ofNumbers hc
  · rw [← hcut]
    exact htext

/-! ## Shares of full light -/

/-- The share of a number that two characters are read as. -/
theorem isShare_share {n : Int} (hlower : -15 ≤ n) (hupper : n ≤ 255) :
    isShare (share n) = true ↔ 0 ≤ n :=
  (shares_of_components hlower hupper).2.1

theorem share_full : share 255 = 1.0 := (shares_of_components (by decide) le_rfl).2.2 rfl

/-- The numbers that a text is read as lie in the range of components. -/
theorem Reads.range {s : String} {ns : List Int} (h : Reads s ns) : ∀ n ∈ ns, -15 ≤ n ∧ n ≤ 255 := by
  obtain ⟨ps, -, hps⟩ := h
  clear * - hps
  induction hps with
  | nil => exact fun n hn => absurd hn List.not_mem_nil
  | @cons p m ps ns hp _ ih =>
    intro n hn
    rcases List.mem_cons.mp hn with rfl | hn
    · exact hp.range
    · exact ih n hn

/-- The components of a colour are the shares of its numbers, and full light for an opacity left out. -/
theorem toList_of_ofNumbers {ns : List Int} {c : Rgba} (h : ofNumbers? ns = some c) :
    c.toList = ns.map share ∨ c.toList = (ns ++ [255]).map share := by
  unfold ofNumbers? at h
  split at h <;> cases h
  · exact .inr rfl
  · exact .inl rfl

/-- **Components as shares.** They are shares of full light exactly if no number lies below zero. -/
theorem isShare_of_reads {s : String} {ns : List Int} {c : Rgba} (h : Reads s ns)
    (hc : ofNumbers? ns = some c) : (∀ x ∈ c.toList, isShare x = true) ↔ ∀ n ∈ ns, 0 ≤ n := by
  have hall : (∀ x ∈ ns.map share, isShare x = true) ↔ ∀ n ∈ ns, 0 ≤ n := by
    rw [List.forall_mem_map]
    exact forall₂_congr fun n hn => isShare_share (h.range n hn).1 (h.range n hn).2
  have hfull : isShare (share 255) = true := (isShare_share (by decide) (by decide)).mpr (by decide)
  rcases toList_of_ofNumbers hc with hlist | hlist <;> rw [hlist]
  · exact hall
  · rw [List.map_append, List.forall_mem_append]
    exact ⟨fun hboth => hall.mp hboth.1, fun hns => ⟨hall.mpr hns, by simpa using hfull⟩⟩

/-- Three or four bytes make a colour. -/
theorem ofNumbers_of_length {ns : List Int} (h : ns.length = 3 ∨ ns.length = 4) :
    ∃ c, ofNumbers? ns = some c := by
  match ns, h with
  | [_, _, _], _ => exact ⟨_, rfl⟩
  | [_, _, _, _], _ => exact ⟨_, rfl⟩

/-- A text as it should be written gives the colour of its bytes. -/
theorem HexText.ofHex_eq {s : String} {bytes : List Nat} (h : HexText s bytes) :
    ∃ c, ofHex s = .ok c ∧ ofNumbers? (bytes.map fun n : Nat => (n : Int)) = some c := by
  have hlength := h.1
  rw [← List.length_map (fun n : Nat => (n : Int))] at hlength
  obtain ⟨c, hc⟩ := ofNumbers_of_length hlength
  exact ⟨c, ofHex_eq_ok.mpr ⟨_, h.reads, hc⟩, hc⟩

/-- Behind the mark of a text as it should be written stand digits alone. -/
theorem HexText.digits {s : String} {bytes : List Nat} (h : HexText s bytes) :
    ∀ x ∈ withoutMark (trim s).toList, ∃ d, IsHexDigit d x := by
  obtain ⟨-, mark, hmark, ps, htext, hps⟩ := h
  rw [htext, withoutMark_digits hmark (digits_of_bytes hps)]
  exact digits_of_bytes hps

end Rgba

open Rgba

/-- **Colours in hexadecimal digits.** A text is read exactly if its pairs are three or four numbers, and as the
    shares of those; else it has no value. As it should be written it is read as its bytes, without an
    opacity as a full one, and all components are shares of full light. Of what is read, exactly the texts
    of digits alone are written so. The others have signs, blanks or digits of other scripts, and all their
    components are shares of full light unless a number is below zero. -/
theorem hex_colors (s : String) :
    (∀ c, ofHex s = .ok c ↔ ∃ ns, Reads s ns ∧ ofNumbers? ns = some c) ∧
      (∀ e, ofHex s = .error e → e.kind = .value) ∧
      (∀ r g b : Nat, HexText s [r, g, b] → ofHex s = .ok ⟨share r, share g, share b, 1.0⟩) ∧
      (∀ r g b a : Nat, HexText s [r, g, b, a] → ofHex s = .ok ⟨share r, share g, share b, share a⟩) ∧
      (∀ bytes c, HexText s bytes → ofHex s = .ok c → ∀ x ∈ c.toList, isShare x = true) ∧
      ((∃ bytes, HexText s bytes) ↔
        (∃ c, ofHex s = .ok c) ∧ ∀ x ∈ withoutMark (trim s).toList, ∃ d, IsHexDigit d x) ∧
      ∀ ns c, Reads s ns → ofNumbers? ns = some c →
        ((∀ x ∈ c.toList, isShare x = true) ↔ ∀ n ∈ ns, 0 ≤ n) := by
  refine ⟨fun c => ofHex_eq_ok, fun e => ofHex_fails, ?three, ?four, ?shares, ?written, ?below⟩
  case three =>
    intro r g b h
    obtain ⟨c, hc, hnumbers⟩ := h.ofHex_eq
    rw [hc, ← Option.some.inj hnumbers, ofBytes, share_full]
  case four =>
    intro r g b a h
    obtain ⟨c, hc, hnumbers⟩ := h.ofHex_eq
    rw [hc, ← Option.some.inj hnumbers, ofBytes]
  case shares =>
    intro bytes c h hc
    obtain ⟨c', hc', hnumbers⟩ := h.ofHex_eq
    cases hc.symm.trans hc'
    refine (isShare_of_reads h.reads hnumbers).mpr fun n hn => ?_
    obtain ⟨k, -, rfl⟩ := List.mem_map.mp hn
    exact Int.natCast_nonneg k
  case written =>
    constructor
    · rintro ⟨bytes, h⟩
      obtain ⟨c, hc, -⟩ := h.ofHex_eq
      exact ⟨⟨c, hc⟩, h.digits⟩
    · rintro ⟨⟨c, hc⟩, hdigits⟩
      exact hexText_of_ofHex hc hdigits
  case below => exact fun ns c => isShare_of_reads

/-- A colour with a mark, with blanks around it and with digits in both cases. -/
theorem hex_colors_marked : ofHex " 0XfF0080 " = .ok ⟨share 255, share 0, share 128, 1.0⟩ := by
  have htext : HexText " 0XfF0080 " [255, 0, 128] := by
    refine ⟨.inl rfl, "0X", by decide, [('f', 'F'), ('0', '0'), ('8', '0')], by decide, ?_⟩
    simp only [List.forall₂_cons, List.forall₂_nil_left_iff, and_true, IsByte, IsHexDigit]
    decide
  exact (hex_colors " 0XfF0080 ").2.2.1 255 0 128 htext

/-- Colours with signs: `+f` is read as a byte, and `-f` leads below zero. -/
theorem hex_signs_read :
    ofHex "+f+f+f" = .ok (ofBytes 15 15 15 255) ∧ (¬∃ bytes, HexText "+f+f+f" bytes) ∧
      ofHex "-f0000" = .ok (ofBytes (-15) 0 0 255) ∧ isShare (share (-15)) = false := by
  refine ⟨by rfl, ?_, by rfl, by decide⟩
  rintro ⟨bytes, h⟩
  obtain ⟨d, hd⟩ := h.digits '+' (by decide)
  exact hd.bare.2.2.1 rfl

end Wireframe
