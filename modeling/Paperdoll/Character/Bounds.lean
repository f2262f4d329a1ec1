import Paperdoll.Word

/-!
# Bounds

The rectangle that a drawing fills on the plane, by its four edges; the right and the bottom
edge lie just outside.
-/

namespace Paperdoll

/-- A rectangle on the plane. -/
structure Bounds where
  left : Int
  top : Int
  right : Int
  bottom : Int
deriving DecidableEq, Repr

namespace Bounds

/-- The number of pixels from `start` up to `stop`, at most the largest word. -/
def span (start stop : Int) : Nat :=
  min (stop - start).toNat maxWord

def width (b : Bounds) : Nat := span b.left b.right

def height (b : Bounds) : Nat := span b.top b.bottom

def union (b c : Bounds) : Bounds :=
  ⟨min b.left c.left, min b.top c.top, max b.right c.right, max b.bottom c.bottom⟩

/-- The origin that puts the middle of a stretch, which starts at `start` and is `length` pixels
long, into the middle of a side of `side` pixels. -/
def centered (side length : Nat) (start : Int) : Int :=
  clamped (((side : Int) - length).tdiv 2 - start)

/-- The pixels before a stretch of `length` pixels in the middle of a side. -/
def margin (side length : Nat) : Nat :=
  (side - length) / 2

/-! ## What bounds hold -/

/-- The place in column `x` and row `y` lies in the rectangle. -/
def Covers (b : Bounds) (x y : Int) : Prop :=
  (b.left ≤ x ∧ x < b.right) ∧ b.top ≤ y ∧ y < b.bottom

/-- The second rectangle lies in the first one. -/
structure Holds (b c : Bounds) : Prop where
  left : b.left ≤ c.left
  top : b.top ≤ c.top
  right : c.right ≤ b.right
  bottom : c.bottom ≤ b.bottom

theorem Holds.refl (b : Bounds) : b.Holds b :=
  ⟨Int.le_refl _, Int.le_refl _, Int.le_refl _, Int.le_refl _⟩

theorem Holds.trans {a b c : Bounds} (h : a.Holds b) (h' : b.Holds c) : a.Holds c :=
  ⟨Int.le_trans h.left h'.left, Int.le_trans h.top h'.top,
    Int.le_trans h'.right h.right, Int.le_trans h'.bottom h.bottom⟩

theorem Holds.union_left (b c : Bounds) : (b.union c).Holds b :=
  ⟨Int.min_le_left _ _, Int.min_le_left _ _, Int.le_max_left _ _, Int.le_max_left _ _⟩

theorem Holds.union_right (b c : Bounds) : (b.union c).Holds c :=
  ⟨Int.min_le_right _ _, Int.min_le_right _ _, Int.le_max_right _ _, Int.le_max_right _ _⟩

end Bounds

end Paperdoll
