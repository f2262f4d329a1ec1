/-!
# Checksums of byte strings

The cyclic redundancy check of 32 bits that closes a chunk of a picture file, and the pair of
sums that closes a compressed stream.
-/

namespace Paperdoll.Picture

/-- One step of the division: shifts out the lowest bit, and subtracts the polynomial if it was
set. -/
def crcShift (c : UInt32) : UInt32 :=
  if c &&& 1 = 1 then (0xedb88320 : UInt32) ^^^ (c >>> 1) else c >>> 1

/-- Takes in a byte, bit by bit. -/
def crcByte (c : UInt32) (b : UInt8) : UInt32 :=
  Nat.repeat crcShift 8 (c ^^^ b.toUInt32)

def crc32 (bytes : List UInt8) : UInt32 :=
  bytes.foldl crcByte 0xffffffff ^^^ 0xffffffff

/-- The modulus of the two sums. -/
def adlerModulus : Nat := 65521

/-- The sum of the bytes, and the sum of the sums so far. -/
def adler32 (bytes : List UInt8) : UInt32 :=
  let (a, b) := bytes.foldl
    (fun (s : Nat × Nat) byte =>
      let a := (s.1 + byte.toNat) % adlerModulus
      (a, (s.2 + a) % adlerModulus)) (1, 0)
  UInt32.ofNat (65536 * b + a)

end Paperdoll.Picture
