import Paperdoll.Sheet

/-!
# Sample material

Pictures, frame declarations and directive texts of any size, made by simple rules. They serve
to try the library out where no drawn sheets are at hand.
-/

namespace Paperdoll.Sample

def frameSide : Nat := 43

/-- The pixels that sample pictures are made of: nothing, an outline, and four skin tones. -/
def pixels : List Pixel :=
  [⟨0, 0, 0, 0⟩, ⟨0, 0, 0, 255⟩, ⟨0xff, 0xe2, 0xc5, 255⟩, ⟨0xff, 0xc1, 0x81, 255⟩,
    ⟨0xd3, 0x9c, 0x6c, 255⟩, ⟨0xc7, 0x81, 0x5c, 255⟩]

def pixelAt (x y : Nat) : Pixel :=
  pixels.getD (((x / 3) ^^^ (y / 5)) % pixels.length) default

/-- A picture of so many columns and rows of frames. -/
def picture (columns rows : Nat) : Except Error Bitmap :=
  let width := columns * frameSide
  let height := rows * frameSide
  let bytes := (List.range height).flatMap fun y =>
    (List.range width).flatMap fun x => (pixelAt x y).bytes
  Bitmap.ofBytes (UInt32.ofNat width) (UInt32.ofNat height) bytes

/-- A grid in which every frame is named for its row and column. -/
def atlas (columns rows : Nat) : Atlas :=
  let side := UInt32.ofNat frameSide
  .ofGrid {
    cellWidth := side
    cellHeight := side
    columns := UInt32.ofNat columns
    rows := UInt32.ofNat rows
    names := (List.range rows).map fun row =>
      (List.range columns).map fun column => some s!"{row}.{column}" }

def tones : List String := ["ffe2c5", "ffc181", "d39c6c", "c7815c"]

/-- A directive text of so many replacements, each from one tone to the next. -/
def directives (count : Nat) : String :=
  String.join <| (List.range count).map fun i =>
    let tone (k : Nat) := tones.getD (k % tones.length) ""
    "?replace;" ++ tone i ++ "=" ++ tone (i + 1)

end Paperdoll.Sample
