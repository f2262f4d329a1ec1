import Paperdoll.Bitmap

/-!
# Surfaces to draw on

A surface is a bitmap. **`Canvas.blank`** makes a transparent one of a size that a canvas may
have; any other bitmap will do as well. `blendAt` puts a pixel over the one that is there and
does nothing outside.
-/

namespace Paperdoll

/-- A transparent surface, with sides of at least one pixel and at most `maxCanvasSide`. -/
def Canvas.blank (width height : UInt32) : Except Error Bitmap :=
  if width = 0 ∨ height = 0 then .error (.noCanvas (.emptySide width height))
  else if maxCanvasSide < width.toNat ∨ maxCanvasSide < height.toNat then
    .error (.noCanvas (.sideTooLong width height))
  else .ok (.filled width height .transparent)

theorem Canvas.blank_eq_ok {width height : UInt32} {b : Bitmap} :
    Canvas.blank width height = .ok b ↔
      (0 < width.toNat ∧ width.toNat ≤ maxCanvasSide) ∧
        (0 < height.toNat ∧ height.toNat ≤ maxCanvasSide) ∧
        b = .filled width height .transparent := by
  have zero : ∀ w : UInt32, w = 0 ↔ w.toNat = 0 := fun w => by
    rw [← UInt32.toNat_inj, UInt32.toNat_zero]
  unfold blank
  simp only [zero]
  split
  next h =>
    simp only [reduceCtorEq, false_iff]
    omega
  next =>
    split
    next h =>
      simp only [reduceCtorEq, false_iff]
      omega
    next =>
      rw [Except.ok.injEq, eq_comm]
      constructor
      · intro h
        exact ⟨by omega, by omega, h⟩
      · rintro ⟨-, -, h⟩
        exact h

namespace Bitmap

/-- The surface has a size that a canvas may have. -/
def IsCanvas (surface : Bitmap) : Prop :=
  ∃ blank, Canvas.blank surface.width surface.height = .ok blank

theorem isCanvas_filled {width height : UInt32}
    (hwidth : 0 < width.toNat ∧ width.toNat ≤ maxCanvasSide)
    (hheight : 0 < height.toNat ∧ height.toNat ≤ maxCanvasSide) :
    (filled width height .transparent).IsCanvas :=
  ⟨_, Canvas.blank_eq_ok.2 ⟨hwidth, hheight, rfl⟩⟩

theorem IsCanvas.sides_le {surface : Bitmap} (h : surface.IsCanvas) :
    surface.width.toNat ≤ maxCanvasSide ∧ surface.height.toNat ≤ maxCanvasSide := by
  obtain ⟨blank, hblank⟩ := h
  obtain ⟨width, height, -⟩ := Canvas.blank_eq_ok.1 hblank
  exact ⟨width.2, height.2⟩

/-- The surface with a pixel put over the one in column `x` of row `y`, if there is one. -/
def blendAt (b : Bitmap) (x y : Nat) (source : Pixel) : Bitmap :=
  if b.contains x y then
    { b with
      pixels := b.pixels.modify (b.index x y) (·.blend source)
      size_eq := by simp [b.size_eq] }
  else b

def clear (b : Bitmap) : Bitmap :=
  .filled b.width b.height .transparent

theorem sides_blendAt (b : Bitmap) (x y : Nat) (source : Pixel) :
    (b.blendAt x y source).width = b.width ∧ (b.blendAt x y source).height = b.height := by
  unfold blendAt
  split <;> exact ⟨rfl, rfl⟩

theorem get?_blendAt (b : Bitmap) (x y : Nat) (source : Pixel) (i j : Nat) :
    (b.blendAt x y source).get? i j =
      if i = x ∧ j = y then (b.get? i j).map (·.blend source) else b.get? i j := by
  by_cases hc : b.contains x y
  · rw [blendAt, if_pos hc]
    simp only [get?_eq, contains, index]
    by_cases hd : b.contains i j
    · have same := index_inj (y := y) (j := j) (contains_iff.1 hc).1 (contains_iff.1 hd).1
      simp only [contains, index] at hd same
      simp only [hd, if_true, Array.getElem?_modify, same]
      simp only [eq_comm]
    · have : ¬ (i = x ∧ j = y) := by rintro ⟨rfl, rfl⟩; exact hd hc
      simp only [contains] at hd
      simp [hd, this]
  · have outside : b.get? x y = none := by simp [get?_eq, hc]
    by_cases he : i = x ∧ j = y
    · obtain ⟨rfl, rfl⟩ := he
      simp [blendAt, hc, outside]
    · simp [blendAt, hc, he]

end Bitmap

end Paperdoll
