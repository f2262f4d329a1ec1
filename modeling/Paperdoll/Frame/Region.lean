import Paperdoll.Word

/-!
# Regions of a sheet

A region is a rectangle of sheet pixels, given by its upper left corner and its size.
-/

namespace Paperdoll

/-- Two opposite corners of a rectangle; the second one lies just outside. -/
structure Corners where
  left : UInt32
  top : UInt32
  right : UInt32
  bottom : UInt32
deriving DecidableEq, Repr

/-- A rectangle on a sheet. -/
@[ext]
structure Region where
  x : UInt32
  y : UInt32
  width : UInt32
  height : UInt32
deriving DecidableEq, Repr

namespace Region

/-- The region between two corners, unless the second lies before the first. -/
def ofCorners? (c : Corners) : Option Region :=
  if c.left ≤ c.right ∧ c.top ≤ c.bottom then
    some ⟨c.left, c.top, c.right - c.left, c.bottom - c.top⟩
  else none

/-- The first column to the right of the region, or the last word if there is none. -/
def right (r : Region) : UInt32 :=
  capped (r.x.toNat + r.width.toNat)

/-- The first row below the region, or the last word if there is none. -/
def bottom (r : Region) : UInt32 :=
  capped (r.y.toNat + r.height.toNat)

def isEmpty (r : Region) : Bool :=
  r.width == 0 || r.height == 0

instance : ToString Region := ⟨fun r => s!"{r.width}x{r.height} at ({r.x}, {r.y})"⟩

end Region

end Paperdoll
