import Paperdoll.Error
import Paperdoll.Text.Hex

/-!
# Colors

A color has three channels of a byte each; how opaque a pixel is does not belong to it.

**Reading.** `Color.parse` cuts a run of hexadecimal digits into channels of equal width: four
of them for the lengths 4 and 8, of which the last is dropped, and three for any other
multiple of three. A channel is the number its digits denote, held at 255.

**Order.** Colors are ordered by their packed form, the number `0xRRGGBB`.
-/

namespace Paperdoll

/-- A color without transparency. -/
@[ext]
structure Color where
  red : UInt8
  green : UInt8
  blue : UInt8
deriving DecidableEq, Repr, Inhabited

namespace Color

def black : Color := ⟨0, 0, 0⟩

/-- The channels as one number, red in the highest place. -/
def packed (c : Color) : Nat :=
  65536 * c.red.toNat + 256 * c.green.toNat + c.blue.toNat

/-- The color whose packed form is the low 24 bits of a number. -/
def ofPacked (n : Nat) : Color :=
  ⟨UInt8.ofNat (n / 65536), UInt8.ofNat (n / 256), UInt8.ofNat n⟩

instance : Ord Color := ⟨compareOn packed⟩

def hex (c : Color) : String :=
  Text.hexOfBytes [c.red, c.green, c.blue]

instance : ToString Color := ⟨fun c => "#" ++ c.hex⟩

/-! ## Order -/

theorem packed_injective {c d : Color} (h : c.packed = d.packed) : c = d := by
  have := c.red.toNat_lt
  have := c.green.toNat_lt
  have := c.blue.toNat_lt
  have := d.red.toNat_lt
  have := d.green.toNat_lt
  have := d.blue.toNat_lt
  simp only [packed] at h
  refine Color.ext ?_ ?_ ?_ <;> refine UInt8.toNat_inj.1 ?_ <;> omega

instance : Std.TransOrd Color := inferInstanceAs (Std.TransCmp (compareOn packed))

instance : Std.LawfulEqOrd Color where
  eq_of_compare h := packed_injective (Std.LawfulEqOrd.eq_of_compare h)

@[simp]
theorem ofPacked_packed (c : Color) : ofPacked c.packed = c := by
  have := c.red.toNat_lt
  have := c.green.toNat_lt
  have := c.blue.toNat_lt
  refine Color.ext ?_ ?_ ?_ <;> refine UInt8.toNat_inj.1 ?_ <;>
    simp only [ofPacked, packed, UInt8.toNat_ofNat'] <;> omega

/-! ## Reading -/

/-- The digits of one channel in a color of so many digits. -/
def channelWidth? (length : Nat) : Option Nat :=
  if length = 4 ∨ length = 8 then some (length / 4)
  else if length % 3 = 0 then some (length / 3)
  else none

/-- The number that digits denote, held at 255. -/
def channel (digits : List Char) : UInt8 :=
  let significant := digits.dropWhile (· == '0')
  -- Three digits that start with another one than zero exceed a byte.
  if 2 < significant.length then 255 else UInt8.ofNat (Text.hexNumber significant)

/-- The color that a run of hexadecimal digits denotes. -/
def parse (value : String) : Except Error Color :=
  let digits := value.toList
  if digits.isEmpty then .error (.invalidColor value .empty)
  else if ¬ digits.all Text.isHexDigit then .error (.invalidColor value .notHexadecimal)
  else
    match channelWidth? digits.length with
    | none => .error (.invalidColor value .unevenLength)
    | some width =>
      .ok ⟨channel (digits.take width), channel ((digits.drop width).take width),
        channel ((digits.drop (2 * width)).take width)⟩

end Color

end Paperdoll
