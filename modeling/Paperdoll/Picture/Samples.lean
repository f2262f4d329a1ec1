import Paperdoll.Bitmap

/-!
# Samples

A picture file does not always hold pixels of four bytes: gray ones have one channel for three,
opaque ones have no alpha, and a channel has 8 or 16 bits. **`SampleForm.pixel`** turns the samples
of one pixel into the form of bitmaps: gray goes to all three channels, missing alpha is opaque,
and 16 bits are scaled to 8.
-/

namespace Paperdoll.Picture

/-- What the samples of a pixel are. -/
structure SampleForm where
  isGray : Bool
  hasAlpha : Bool
  /-- A sample has 16 bits, the high byte first. -/
  isWide : Bool
deriving DecidableEq, Repr

namespace SampleForm

def channels (f : SampleForm) : Nat :=
  (if f.isGray then 1 else 3) + if f.hasAlpha then 1 else 0

def pixelSize (f : SampleForm) : Nat :=
  f.channels * if f.isWide then 2 else 1

/-- A sample of 16 bits, scaled to 8 and rounded to the nearest. -/
def narrow (high low : UInt8) : UInt8 :=
  UInt8.ofNat ((256 * high.toNat + low.toNat + 128) / 257)

def narrowAll : List UInt8 → List UInt8
  | high :: low :: rest => narrow high low :: narrowAll rest
  | _ => []

def combine : List UInt8 → Pixel
  | [gray] => ⟨gray, gray, gray, 255⟩
  | [gray, alpha] => ⟨gray, gray, gray, alpha⟩
  | [red, green, blue] => ⟨red, green, blue, 255⟩
  | [red, green, blue, alpha] => ⟨red, green, blue, alpha⟩
  | _ => .transparent

/-- The pixel that the bytes of its samples make. -/
def pixel (f : SampleForm) (bytes : List UInt8) : Pixel :=
  combine (if f.isWide then narrowAll bytes else bytes)

end SampleForm

/-- Cuts a list into pieces of a positive length; the last one may be shorter. -/
def chunks {α : Type} (size : Nat) (xs : List α) : List (List α) :=
  if size = 0 ∨ xs = [] then []
  else xs.take size :: chunks size (xs.drop size)
termination_by xs.length
decreasing_by
  have := List.length_pos_iff.2 (fun e => by simp_all : xs ≠ [])
  simp only [List.length_drop]
  omega

end Paperdoll.Picture
