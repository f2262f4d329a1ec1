import Paperdoll.Number.Power
import Paperdoll.Picture.Checksum

/-!
# Compressed streams

A compressed stream is a sequence of blocks of bits. A block holds bytes as they are, or symbols
in a prefix code: a byte, the end of the block, or the instruction to repeat what was written
some distance before.

**Reading** (`inflate`). Bits are taken from the low end of each byte. A prefix code is a binary
tree (`CodeTree`), and reading a symbol is a walk down the tree; codes that leave strings of bits
without a meaning are refused.

**Writing** (`store`). All bytes go into blocks that hold them as they are.
-/

namespace Paperdoll.Picture

/-! ## Numbers -/

/-- The bytes of a number, the lowest first. -/
def littleEndian (count n : Nat) : List UInt8 :=
  (List.range count).map fun i => UInt8.ofNat (n >>> (8 * i))

def bigEndian (count n : Nat) : List UInt8 :=
  (littleEndian count n).reverse

/-! ## Bits -/

/-- A reader of bits: the position of the next bit goes from step to step, and reading past the
end fails. -/
abbrev BitReader := ReaderT ByteArray (StateT Nat Option)

namespace BitReader

def failure {α : Type} : BitReader α := fun _ _ => none

def bit : BitReader Bool := fun bytes position =>
  if h : position / 8 < bytes.size then
    some ((bytes[position / 8] >>> UInt8.ofNat (position % 8)) &&& 1 == 1, position + 1)
  else none

/-- A number of so many bits, the lowest first. -/
def number : Nat → BitReader Nat
  | 0 => pure 0
  | n + 1 => do
    let low ← bit
    let rest ← number n
    return (if low then 1 else 0) + 2 * rest

/-- Goes on to the start of a byte. -/
def align : BitReader Unit := fun _ position => some ((), (position + 7) / 8 * 8)

end BitReader

/-! ## Prefix codes -/

/-- A prefix code, as the tree of its codewords. -/
inductive CodeTree
  | empty
  | leaf (symbol : Nat)
  | node (zero one : CodeTree)

namespace CodeTree

def insert (symbol : Nat) : List Bool → CodeTree → CodeTree
  | [], _ => leaf symbol
  | b :: bits, tree =>
    let (zero, one) := match tree with
      | node zero one => (zero, one)
      | _ => (empty, empty)
    if b then node zero (one.insert symbol bits) else node (zero.insert symbol bits) one

def decode : CodeTree → BitReader Nat
  | empty => .failure
  | leaf symbol => pure symbol
  | node zero one => do
    if ← BitReader.bit then one.decode else zero.decode

/-- The bits of a codeword, the highest first. -/
def codeword (length code : Nat) : List Bool :=
  (List.range length).reverse.map code.testBit

def maxLength : Nat := 15

/-- The code whose symbols, numbered from zero, have the given lengths; zero means that a symbol
has no codeword. Codewords of one length are consecutive, and shorter ones come first. -/
def ofLengths (lengths : List Nat) : CodeTree :=
  let step (s : CodeTree × Nat) (length : Nat) : CodeTree × Nat :=
    let (tree, code) := s
    let symbols := (lengths.zipIdx.filter (·.1 == length)).map Prod.snd
    let tree := symbols.zipIdx.foldl
      (fun tree (symbol, i) => tree.insert symbol (codeword length (code + i))) tree
    (tree, 2 * (code + symbols.length))
  (((List.range maxLength).map (· + 1)).foldl step (empty, 0)).1

/-- How much of all strings of `maxLength` bits the codewords take up. -/
def share (lengths : List Nat) : Nat :=
  (lengths.filter (· != 0)).foldr (fun length rest => 2 ^ (maxLength - length) + rest) 0

/-- The codewords of these lengths take up all strings of bits, none of them twice. -/
def isComplete (lengths : List Nat) : Bool :=
  share lengths == 2 ^ maxLength

/-- A code may be incomplete only if it has no symbol, or one whose codeword is a single bit. -/
def isUsable (lengths : List Nat) : Bool :=
  isComplete lengths || [[], [1]].contains (lengths.filter (· != 0))

end CodeTree

/-! ## Blocks -/

def endSymbol : Nat := 256

/-- How many symbols for bytes and lengths, and how many for distances, have a meaning. -/
def maxLiterals : Nat := 286
def maxDistances : Nat := 30

/-- The two codes of a block: one for bytes and lengths, one for distances. -/
structure BlockCodes where
  literals : CodeTree
  distances : CodeTree

def fixedCodes : BlockCodes where
  literals := .ofLengths <| List.replicate 144 8 ++ List.replicate 112 9 ++
    List.replicate 24 7 ++ List.replicate 8 8
  distances := .ofLengths (List.replicate 30 5)

/-- The order in which the lengths of the code for code lengths are given. -/
def lengthOrder : List Nat :=
  [16, 17, 18, 0, 8, 7, 9, 6, 10, 5, 11, 4, 12, 3, 13, 2, 14, 1, 15]

/-- Reads so many code lengths; some symbols stand for repetitions. -/
def readLengths (code : CodeTree) (count : Nat) (done : List Nat) : Nat → BitReader (List Nat)
  | 0 => .failure
  | tries + 1 =>
    if done.length = count then pure done.reverse
    else if count < done.length then .failure
    else do
      match ← code.decode with
      | 16 =>
        let repeats ← BitReader.number 2
        match done with
        | [] => .failure
        | last :: _ => readLengths code count (List.replicate (3 + repeats) last ++ done) tries
      | 17 =>
        let repeats ← BitReader.number 3
        readLengths code count (List.replicate (3 + repeats) 0 ++ done) tries
      | 18 =>
        let repeats ← BitReader.number 7
        readLengths code count (List.replicate (11 + repeats) 0 ++ done) tries
      | length => readLengths code count (length :: done) tries

def readCodes : BitReader BlockCodes := do
  let literalCount := (← BitReader.number 5) + 257
  let distanceCount := (← BitReader.number 5) + 1
  let lengthCount := (← BitReader.number 4) + 4
  let given ← (lengthOrder.take lengthCount).mapM fun symbol =>
    return (symbol, ← BitReader.number 3)
  let given := (List.range lengthOrder.length).map fun symbol => (given.lookup symbol).getD 0
  let count := literalCount + distanceCount
  let lengths ← readLengths (.ofLengths given) count [] (count + 1)
  let literals := lengths.take literalCount
  let distances := lengths.drop literalCount
  if literalCount ≤ maxLiterals && distanceCount ≤ maxDistances && CodeTree.isComplete given &&
      CodeTree.isUsable literals && CodeTree.isUsable distances &&
      literals[endSymbol]?.any (· != 0) then
    return ⟨.ofLengths literals, .ofLengths distances⟩
  else .failure

/-- The least length for each length symbol, and how many bits are added to it. -/
def lengthBases : List (Nat × Nat) :=
  [(3, 0), (4, 0), (5, 0), (6, 0), (7, 0), (8, 0), (9, 0), (10, 0), (11, 1), (13, 1), (15, 1),
    (17, 1), (19, 2), (23, 2), (27, 2), (31, 2), (35, 3), (43, 3), (51, 3), (59, 3), (67, 4),
    (83, 4), (99, 4), (115, 4), (131, 5), (163, 5), (195, 5), (227, 5), (258, 0)]

/-- The least distance for each distance symbol, and how many bits are added to it. -/
def distanceBases : List (Nat × Nat) :=
  [(1, 0), (2, 0), (3, 0), (4, 0), (5, 1), (7, 1), (9, 2), (13, 2), (17, 3), (25, 3), (33, 4),
    (49, 4), (65, 5), (97, 5), (129, 6), (193, 6), (257, 7), (385, 7), (513, 8), (769, 8),
    (1025, 9), (1537, 9), (2049, 10), (3073, 10), (4097, 11), (6145, 11), (8193, 12),
    (12289, 12), (16385, 13), (24577, 13)]

def readExtended (bases : List (Nat × Nat)) (i : Nat) : BitReader Nat :=
  match bases[i]? with
  | none => .failure
  | some (base, bits) => return base + (← BitReader.number bits)

/-- Repeats bytes that were written `distance` before. -/
def repeatBytes (out : ByteArray) (distance : Nat) : Nat → ByteArray
  | 0 => out
  | n + 1 => repeatBytes (out.push (out.data[out.size - distance]?.getD 0)) distance n

/-- Reads symbols up to the end of a block. Every symbol takes a bit, so that as many tries as
there are bits suffice. -/
def readSymbols (codes : BlockCodes) (out : ByteArray) : Nat → BitReader ByteArray
  | 0 => .failure
  | tries + 1 => do
    let symbol ← codes.literals.decode
    if symbol < 256 then readSymbols codes (out.push (UInt8.ofNat symbol)) tries
    else if symbol = endSymbol then return out
    else
      let length ← readExtended lengthBases (symbol - endSymbol - 1)
      let distance ← readExtended distanceBases (← codes.distances.decode)
      if out.size < distance then .failure
      else readSymbols codes (repeatBytes out distance length) tries

def readBytes (out : ByteArray) : Nat → BitReader ByteArray
  | 0 => pure out
  | n + 1 => do
    let b ← BitReader.number 8
    readBytes (out.push (UInt8.ofNat b)) n

/-- Reads blocks up to the one that says it is the last. -/
def readBlocks (bits : Nat) (out : ByteArray) : Nat → BitReader ByteArray
  | 0 => .failure
  | tries + 1 => do
    let last ← BitReader.bit
    let out ← match ← BitReader.number 2 with
      | 0 => do
        BitReader.align
        let length ← BitReader.number 16
        let complement ← BitReader.number 16
        if length + complement = 0xffff then readBytes out length else .failure
      | 1 => readSymbols fixedCodes out bits
      | 2 => do readSymbols (← readCodes) out bits
      | _ => .failure
    if last then return out else readBlocks bits out tries

/-- The largest window that a header may announce, as a power of two above `2 ^ 8`. -/
def maxWindow : Nat := 7

/-- Reads a stream: a header of two bytes, blocks, and the checksum of what they hold. -/
def readStream (bits : Nat) : BitReader ByteArray := do
  let method ← BitReader.number 8
  let flags ← BitReader.number 8
  if method % 16 = 8 ∧ method / 16 ≤ maxWindow ∧ (256 * method + flags) % 31 = 0 ∧
      flags / 32 % 2 = 0 then
    let out ← readBlocks bits ByteArray.empty bits
    BitReader.align
    let check ← readBytes ByteArray.empty 4
    if check.toList = bigEndian 4 (adler32 out.toList).toNat then return out else .failure
  else .failure

/-- The bytes that a compressed stream holds; nothing may follow it. -/
def inflate (stream : ByteArray) : Option ByteArray := do
  let bits := 8 * stream.size
  let (out, position) ← (readStream bits stream).run 0
  if position = bits then some out else none

/-! ## Writing -/

def maxStored : Nat := 65535

/-- Blocks that hold bytes as they are; there are at most as many as `blocks`. -/
def storedBlocks (bytes : List UInt8) : (blocks : Nat) → List UInt8
  | 0 => []
  | blocks + 1 =>
    let here := bytes.take maxStored
    let rest := bytes.drop maxStored
    (if rest.isEmpty then 1 else 0) :: littleEndian 2 here.length ++
      littleEndian 2 (maxStored - here.length) ++ here ++
        if rest.isEmpty then [] else storedBlocks rest blocks

/-- A stream that holds bytes as they are. -/
def store (bytes : List UInt8) : List UInt8 :=
  [0x78, 0x01] ++ storedBlocks bytes (bytes.length / maxStored + 1) ++
    bigEndian 4 (adler32 bytes).toNat

end Paperdoll.Picture
