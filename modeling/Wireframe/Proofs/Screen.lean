import Wireframe.Screen
import Mathlib.Data.List.Count

/-!
# `Wireframe.Proofs.Screen` — colouring single pixels

A picture keeps its pixels in one array, row by row from the top. Different pixels of a picture have
different places in it, so colouring one changes that one and nothing else.

## Contents
- `Screen.Contains`, `Screen.Full`: pixels of a picture, and pictures with all their pixels.
- `Screen.place_injective`, `Screen.pixel?_paint`: the pixel that is coloured, and all others.
- `Screen.contains_paint`, `Screen.paint_comm`: what colouring keeps, and two pixels.
- `Screen.ink_blank`, `Screen.ink_paint_le`: ink.
- `Screen.SameFrame`: what drawing keeps.
-/

namespace Wireframe

namespace Screen

/-- The pixel is on the picture. -/
def Contains (s : Screen) (p : Pixel) : Prop := (0 ≤ p.x ∧ p.x < s.width) ∧ 0 ≤ p.y ∧ p.y < s.height

instance (s : Screen) (p : Pixel) : Decidable (s.Contains p) := by
  unfold Contains
  exact inferInstance

/-- There is a colour for every pixel. -/
def Full (s : Screen) : Prop := s.pixels.size = s.width * s.height

theorem blank_full (width height : Nat) (background : Rgb) : (blank width height background).Full :=
  Array.size_replicate

variable {s : Screen} {p q : Pixel} {color : Rgb}

/-! ## Places -/

/-- Where the colour of a pixel of the picture is kept. -/
def place (s : Screen) (p : Pixel) : Nat := (s.height - 1 - p.y.toNat) * s.width + p.x.toNat

theorem index?_of_contains (h : s.Contains p) : s.index? p = some (s.place p) := by
  obtain ⟨⟨hx, hx'⟩, hy, hy'⟩ := h
  simp [index?, place, hx, hx', hy, hy']

theorem index?_of_not_contains (h : ¬ s.Contains p) : s.index? p = none := by
  unfold Contains at h
  unfold index?
  rw [if_neg]
  simpa [and_assoc] using h

theorem place_lt (hs : s.Full) (h : s.Contains p) : s.place p < s.pixels.size := by
  obtain ⟨⟨hx, hx'⟩, hy, hy'⟩ := h
  rw [hs, place]
  calc (s.height - 1 - p.y.toNat) * s.width + p.x.toNat
      < (s.height - 1 - p.y.toNat) * s.width + s.width := by omega
    _ = (s.height - 1 - p.y.toNat + 1) * s.width := (Nat.succ_mul ..).symm
    _ ≤ s.height * s.width := Nat.mul_le_mul_right _ (by omega)
    _ = s.width * s.height := Nat.mul_comm ..

/-- Different pixels of a picture have different places: the column is the rest, the row the quotient. -/
theorem place_injective (hp : s.Contains p) (hq : s.Contains q) (h : s.place p = s.place q) : p = q := by
  obtain ⟨⟨hx, hx'⟩, hy, hy'⟩ := hp
  obtain ⟨⟨hx₁, hx₁'⟩, hy₁, hy₁'⟩ := hq
  have hwidth : 0 < s.width := by omega
  have hcolumn : ∀ row column : Nat, column < s.width → (row * s.width + column) % s.width = column :=
    fun row column hlt => by rw [Nat.mul_add_mod_of_lt hlt]
  have hrow : ∀ row column : Nat, column < s.width → (row * s.width + column) / s.width = row := by
    intro row column hlt
    rw [Nat.mul_comm, Nat.mul_add_div hwidth, Nat.div_eq_of_lt hlt, Nat.add_zero]
  have hcolumns := congrArg (· % s.width) h
  have hrows := congrArg (· / s.width) h
  simp only [place] at hcolumns hrows
  rw [hcolumn _ _ (by omega), hcolumn _ _ (by omega)] at hcolumns
  rw [hrow _ _ (by omega), hrow _ _ (by omega)] at hrows
  cases p
  cases q
  simp only [Pixel.mk.injEq]
  simp only at *
  omega

/-! ## One pixel -/

theorem paint_of_contains (h : s.Contains p) (color : Rgb) :
    s.paint color p = { s with pixels := s.pixels.setIfInBounds (s.place p) color } := by
  rw [paint, index?_of_contains h]

theorem paint_of_not_contains (h : ¬ s.Contains p) (color : Rgb) : s.paint color p = s := by
  rw [paint, index?_of_not_contains h]

theorem pixel?_of_contains (h : s.Contains p) : s.pixel? p = s.pixels[s.place p]? := by
  rw [pixel?, index?_of_contains h]
  rfl

theorem pixel?_of_not_contains (h : ¬ s.Contains p) : s.pixel? p = none := by
  rw [pixel?, index?_of_not_contains h]
  rfl

/-- Colouring a pixel keeps the size of the picture. -/
theorem contains_paint (s : Screen) (color : Rgb) (p q : Pixel) :
    (s.paint color p).Contains q ↔ s.Contains q := by
  unfold paint
  split <;> rfl

/-- A pixel of the picture that is coloured has that colour then, and all others keep theirs. -/
theorem pixel?_paint (hs : s.Full) (h : s.Contains p) (q : Pixel) :
    (s.paint color p).pixel? q = if q = p then some color else s.pixel? q := by
  have hplace : (s.paint color p).place q = s.place q := by
    rw [paint_of_contains h]
    rfl
  have hcontains := contains_paint s color p q
  by_cases hq : s.Contains q
  · rw [pixel?_of_contains (hcontains.mpr hq), pixel?_of_contains hq, hplace, paint_of_contains h]
    by_cases hqp : q = p
    · rw [if_pos hqp, hqp, Array.getElem?_setIfInBounds_self_of_lt (place_lt hs h)]
    · have hne : s.place p ≠ s.place q := fun heq => hqp (place_injective h hq heq).symm
      rw [if_neg hqp, Array.getElem?_setIfInBounds_ne hne]
  · have hqp : q ≠ p := fun heq => hq (heq ▸ h)
    rw [pixel?_of_not_contains fun hq' => hq (hcontains.mp hq'), pixel?_of_not_contains hq, if_neg hqp]

/-- In one colour it does not matter which of two pixels is coloured first. -/
theorem paint_comm (s : Screen) (color : Rgb) (p q : Pixel) :
    (s.paint color p).paint color q = (s.paint color q).paint color p := by
  have hcontains := contains_paint s color
  by_cases hp : s.Contains p
  · by_cases hq : s.Contains q
    · rw [paint_of_contains ((hcontains p q).mpr hq), paint_of_contains ((hcontains q p).mpr hp),
        paint_of_contains hp, paint_of_contains hq]
      -- both are one array with two places written
      show ({ s with pixels := (s.pixels.setIfInBounds (s.place p) color).setIfInBounds (s.place q) color } :
          Screen) =
        { s with pixels := (s.pixels.setIfInBounds (s.place q) color).setIfInBounds (s.place p) color }
      by_cases hsame : s.place p = s.place q
      · rw [hsame]
      · rw [Array.setIfInBounds_comm color color hsame]
    · rw [paint_of_not_contains fun h => hq ((hcontains p q).mp h), paint_of_not_contains hq]
  · rw [paint_of_not_contains hp, paint_of_not_contains fun h => hp ((hcontains q p).mp h)]

/-! ## Ink -/

theorem ink_eq (s : Screen) : s.ink = s.pixels.toList.countP (· != s.background) := by
  have hcount : ∀ (cs : List Rgb) (n : Nat),
      cs.foldl (fun n c => if c == s.background then n else n + 1) n =
        n + cs.countP (· != s.background) := by
    intro cs
    induction cs with
    | nil => exact fun n => rfl
    | cons c cs ih =>
      intro n
      rw [List.foldl_cons, ih, List.countP_cons]
      cases hc : c == s.background <;> simp [bne, hc, Nat.add_assoc, Nat.add_comm]
  rw [ink, ← Array.foldl_toList, hcount, Nat.zero_add]

theorem ink_blank (width height : Nat) (background : Rgb) : (blank width height background).ink = 0 := by
  rw [ink_eq]
  simp [blank, List.countP_eq_zero]

/-- A pixel that is coloured adds at most itself to the ink. -/
theorem ink_paint_le (h : s.Contains p) (color : Rgb) : (s.paint color p).ink ≤ s.ink + 1 := by
  rw [paint_of_contains h, ink_eq, ink_eq]
  simp only [Array.toList_setIfInBounds]
  by_cases hlt : s.place p < s.pixels.toList.length
  · rw [List.countP_set hlt]
    split <;> split <;> omega
  · rw [List.set_eq_of_length_le (Nat.le_of_not_lt hlt)]
    exact Nat.le_succ _

/-! ## What drawing keeps -/

/-- The size of a picture, the colour behind it, and that it has all its pixels. -/
structure SameFrame (s t : Screen) : Prop where
  width : t.width = s.width
  height : t.height = s.height
  background : t.background = s.background
  size : t.pixels.size = s.pixels.size

namespace SameFrame

variable {s t u : Screen}

theorem refl (s : Screen) : SameFrame s s := ⟨rfl, rfl, rfl, rfl⟩

theorem trans (h : SameFrame s t) (h' : SameFrame t u) : SameFrame s u :=
  ⟨h'.width.trans h.width, h'.height.trans h.height, h'.background.trans h.background, h'.size.trans h.size⟩

theorem full (h : SameFrame s t) (hs : s.Full) : t.Full := by
  rw [Screen.Full, h.size, h.width, h.height]
  exact hs

theorem contains_iff (h : SameFrame s t) (p : Pixel) : t.Contains p ↔ s.Contains p := by
  rw [Screen.Contains, Screen.Contains, h.width, h.height]

end SameFrame

end Screen

end Wireframe
