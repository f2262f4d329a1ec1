import Paperdoll.Picture.Compressed
import Paperdoll.Picture.Samples

/-!
# Picture files

A picture file is a signature and a sequence of chunks, each with its length, a name of four
letters and a checksum. The first chunk gives size and form of the picture, the `IDAT` chunks
hold its rows as one compressed stream, in which every row says how it was filtered. A name that
starts with a capital letter is that of a chunk without which a picture cannot be understood.

**`Png.decode`** reads single pictures whose rows come in order: gray and colored ones, with and
without alpha, and those that hold places in a palette. **`Png.encode`** writes rows without
filters and without compression.
-/

namespace Paperdoll.Picture.Png

def signature : List UInt8 :=
  [0x89, 0x50, 0x4e, 0x47, 0x0d, 0x0a, 0x1a, 0x0a]

/-! ## Chunks -/

structure Chunk where
  name : String
  content : List UInt8

def bigEndianNumber (bytes : List UInt8) : Nat :=
  bytes.foldl (fun n b => 256 * n + b.toNat) 0

def nameBytes (name : String) : List UInt8 :=
  name.toList.map fun c => UInt8.ofNat c.toNat

/-- A chunk with its length and its checksum. -/
def Chunk.bytes (c : Chunk) : List UInt8 :=
  let body := nameBytes c.name ++ c.content
  bigEndian 4 c.content.length ++ body ++ bigEndian 4 (crc32 body).toNat

/-- The chunks up to the one that ends the file; `limit` bounds their number. -/
def readChunks? (bytes : List UInt8) : (limit : Nat) → Option (List Chunk)
  | 0 => none
  | limit + 1 =>
    let length := bigEndianNumber (bytes.take 4)
    let body := (bytes.drop 4).take (4 + length)
    let check := (bytes.drop (8 + length)).take 4
    if body.length < 4 + length ∨ check ≠ bigEndian 4 (crc32 body).toNat then none
    else
      let chunk : Chunk :=
        ⟨String.ofList ((body.take 4).map fun b => Char.ofNat b.toNat), body.drop 4⟩
      if chunk.name = "IEND" then some [chunk]
      else (readChunks? (bytes.drop (12 + length)) limit).map (chunk :: ·)

/-! ## Header -/

/-- What the samples of a picture are. -/
inductive Kind
  | samples (form : SampleForm)
  /-- Gray samples of less than a byte. -/
  | smallGray
  /-- Places in a palette. -/
  | places
deriving DecidableEq, Repr

structure Header where
  width : Nat
  height : Nat
  /-- Bits of a sample. -/
  depth : Nat
  kind : Kind
deriving Repr

def kind? (depth code : Nat) : Option Kind :=
  let isWide := depth == 16
  if depth = 8 ∨ depth = 16 then
    match code with
    | 0 => some (.samples ⟨true, false, isWide⟩)
    | 2 => some (.samples ⟨false, false, isWide⟩)
    | 3 => if isWide then none else some .places
    | 4 => some (.samples ⟨true, true, isWide⟩)
    | 6 => some (.samples ⟨false, true, isWide⟩)
    | _ => none
  else if depth = 1 ∨ depth = 2 ∨ depth = 4 then
    match code with
    | 0 => some .smallGray
    | 3 => some .places
    | _ => none
  else none

def formCode (f : SampleForm) : UInt8 :=
  (if f.isGray then 0 else 2) + if f.hasAlpha then 4 else 0

def Header.ofChunk? (c : Chunk) : Option Header :=
  match c.content.drop 8 with
  | [depth, code, 0, 0, 0] => do
    let width := bigEndianNumber (c.content.take 4)
    let height := bigEndianNumber ((c.content.drop 4).take 4)
    let kind ← kind? depth.toNat code.toNat
    if c.name = "IHDR" ∧ 0 < width ∧ width < 2 ^ 31 ∧ 0 < height ∧ height < 2 ^ 31 then
      some { width, height, depth := depth.toNat, kind }
    else none
  | _ => none

def Header.pixelBits (h : Header) : Nat :=
  match h.kind with
  | .samples form => 8 * form.pixelSize
  | _ => h.depth

def Header.rowSize (h : Header) : Nat :=
  (h.width * h.pixelBits + 7) / 8

/-! ## The order of chunks -/

/-- The chunks of pictures that move. -/
def animationNames : List String := ["acTL", "fcTL", "fdAT"]

/-- A chunk may be passed over if it adds to a picture that can be understood without it. -/
def Chunk.isExtra (c : Chunk) : Bool :=
  c.name.toList.all Char.isAlpha && c.name.toList.head?.any Char.isLower &&
    !animationNames.contains c.name

/-- The chunks that hold a keyword and a text of their own; a file may have many of them. -/
def textNames : List String := ["tEXt", "zTXt", "iTXt", "sPLT"]

/-- The number of samples of a pixel, as its colors count. -/
def Header.channels (h : Header) : Nat :=
  match h.kind with
  | .samples form => (if form.isGray then 1 else 3) + if form.hasAlpha then 1 else 0
  | .smallGray => 1
  | .places => 3

/-- The size that the content of a chunk with a name has to have, if there is one. -/
def Header.sizeOf? (h : Header) : String → Option Nat
  | "sRGB" => some 1
  | "gAMA" | "cICP" => some 4
  | "tIME" => some 7
  | "cLLI" => some 8
  | "pHYs" => some 9
  | "mDCV" => some 24
  | "cHRM" => some 32
  | "sBIT" => some h.channels
  | "bKGD" =>
    some <| match h.kind with
      | .places => 1
      | .smallGray => 2
      | .samples form => if form.isGray then 2 else 6
  | _ => none

/-- The content starts with a keyword of 1 to 79 bytes and a zero. -/
def startsWithKeyword (content : List UInt8) : Bool :=
  let keyword := content.takeWhile (· != 0)
  0 < keyword.length && keyword.length < 80 && keyword.length < content.length

/-- The content of a chunk is what its name promises. -/
def Chunk.isSound (h : Header) (c : Chunk) : Bool :=
  (h.sizeOf? c.name).all (· == c.content.length) &&
    (!("iCCP" :: textNames).contains c.name || startsWithKeyword c.content)

/-- Extra chunks that have to come before the rows, beside those of a fixed size. -/
def earlyNames : List String := ["tRNS", "iCCP", "sPLT", "hIST"]

/-- An extra chunk may stand behind the rows if it does not say how these are to be read. -/
def mayFollowRows (h : Header) (name : String) : Bool :=
  name == "tIME" || ((h.sizeOf? name).isNone && !earlyNames.contains name)

/-- The parts of a file. -/
structure Parts where
  header : Header
  /-- The chunks before the rows. -/
  before : List Chunk
  /-- The chunks with the rows, which follow each other. -/
  rows : List Chunk

/-- The parts that chunks make up. Of the extra chunks, only texts come more than once. -/
def Parts.ofChunks? : List Chunk → Option Parts
  | [] => none
  | first :: rest => do
    let header ← Header.ofChunk? first
    let isRow (c : Chunk) : Bool := c.name == "IDAT"
    let before := rest.takeWhile (!isRow ·)
    let fromRows := rest.dropWhile (!isRow ·)
    let after := fromRows.dropWhile isRow
    let isBefore (c : Chunk) : Bool := c.name == "PLTE" || c.isExtra && c.isSound header
    let isAfter (c : Chunk) : Bool :=
      c.name == "IEND" && c.content.isEmpty ||
        c.isExtra && c.isSound header && mayFollowRows header c.name
    let single := ((before ++ after).map Chunk.name).filter fun name =>
      name == "iCCP" || (header.sizeOf? name).isSome
    if before.all isBefore && after.all isAfter && single.eraseDups.length == single.length then
      some { header, before, rows := fromRows.takeWhile isRow }
    else none

/-! ## Palettes -/

def colors? : List UInt8 → Option (List Color)
  | [] => some []
  | red :: green :: blue :: rest => (colors? rest).map (⟨red, green, blue⟩ :: ·)
  | _ => none

/-- The content of the only chunk with a name; nothing if there is none. -/
def only? (name : String) (chunks : List Chunk) : Option (List UInt8) :=
  match chunks.filter (·.name == name) with
  | [] => some []
  | [c] => some c.content
  | _ => none

/-- The colors of a palette, with the alpha given for each. A palette has no more colors than
there are samples; colors come before alphas, only a picture of places gives alphas apart, and a
gray one has no palette. -/
def Parts.palette? (p : Parts) : Option (Array Pixel) := do
  let colors ← colors? (← only? "PLTE" p.before)
  let alphas ← only? "tRNS" p.before
  let has (name : String) : Bool := p.before.any (·.name == name)
  let isPlaces := p.header.kind = .places
  let mayHavePalette := 3 ≤ p.header.channels
  let most := if isPlaces then 2 ^ p.header.depth else 256
  let inOrder := (p.before.dropWhile (·.name != "tRNS")).all (·.name != "PLTE")
  if most < colors.length ∨ colors.length < alphas.length ∨ !inOrder ∨
      (has "tRNS" ∧ !isPlaces) ∨ (has "PLTE" ∧ (colors.isEmpty ∨ !mayHavePalette)) then none
  else
    let alphas := alphas.toArray
    some (colors.zipIdx.map fun (c, i) => Pixel.ofColor c (alphas[i]?.getD 255)).toArray

/-! ## Filters -/

/-- The one of three neighbours, left, above and left above, that lies nearest to the value they
suggest. -/
def nearestNeighbour (a b c : Nat) : Nat :=
  let p : Int := a + b - c
  let distance (n : Nat) := (p - n).natAbs
  if distance a ≤ distance b ∧ distance a ≤ distance c then a
  else if distance b ≤ distance c then b
  else c

/-- What a filter predicts from the neighbours of a byte. -/
def predict? (filter a b c : Nat) : Option Nat :=
  match filter with
  | 0 => some 0
  | 1 => some a
  | 2 => some b
  | 3 => some ((a + b) / 2)
  | 4 => some (nearestNeighbour a b c)
  | _ => none

/-- Adds the predictions of a filter to the bytes of a row; `step` is the distance to the byte on
the left. -/
def unfilterRow? (step filter : Nat) (above : Array UInt8) (row : List UInt8) :
    Option (Array UInt8) :=
  row.foldlM (fun done b => do
    let i := done.size
    let at' (bytes : Array UInt8) (back : Nat) : Nat :=
      if i < back then 0 else (bytes[i - back]?.getD 0).toNat
    let prediction ← predict? filter (at' done step) (at' above 0) (at' above step)
    return done.push (UInt8.ofNat (b.toNat + prediction))) #[]

def unfilter? (step : Nat) (above : Array UInt8) : List (List UInt8) → Option (List (List UInt8))
  | [] => some []
  | [] :: _ => none
  | (filter :: row) :: rest => do
    let row ← unfilterRow? step filter.toNat above row
    let rest ← unfilter? step row rest
    return row.toList :: rest

/-! ## Pixels -/

/-- The samples of less than a byte in a row, from the high end of each byte. -/
def unpack (depth : Nat) (row : List UInt8) : List Nat :=
  row.flatMap fun b =>
    (List.range (8 / depth)).map fun i => b.toNat >>> (8 - depth * (i + 1)) % 2 ^ depth

def rowPixels? (h : Header) (colors : Array Pixel) (row : List UInt8) : Option (List Pixel) :=
  match h.kind with
  | .samples form => some ((chunks form.pixelSize row).map form.pixel)
  | .smallGray =>
    let gray (n : Nat) := UInt8.ofNat (n * (255 / (2 ^ h.depth - 1)))
    some (((unpack h.depth row).take h.width).map fun n => ⟨gray n, gray n, gray n, 255⟩)
  | .places => ((unpack h.depth row).take h.width).mapM fun n => colors[n]?

/-! ## Files -/

def decode (file : List UInt8) : Option Bitmap := do
  if file.take 8 ≠ signature then none
  else
    let parts ← Parts.ofChunks? (← readChunks? (file.drop 8) file.length)
    let header := parts.header
    let palette ← parts.palette?
    let data ← inflate (parts.rows.flatMap Chunk.content).toByteArray
    if data.size ≠ header.height * (header.rowSize + 1) then none
    else
      let step := max 1 (header.pixelBits / 8)
      let rows ← unfilter? step #[] (chunks (header.rowSize + 1) data.toList)
      let pixels ← rows.mapM (rowPixels? header palette)
      let bytes := (pixels.flatMap id).flatMap Pixel.bytes
      (Bitmap.ofBytes (UInt32.ofNat header.width) (UInt32.ofNat header.height) bytes).toOption

def encode (form : SampleForm) (width height : UInt32) (samples : List UInt8) : List UInt8 :=
  let depth : UInt8 := if form.isWide then 16 else 8
  let header : Chunk :=
    ⟨"IHDR", bigEndian 4 width.toNat ++ bigEndian 4 height.toNat ++
      [depth, formCode form, 0, 0, 0]⟩
  let rows := chunks (width.toNat * form.pixelSize) samples
  let data : Chunk := ⟨"IDAT", store (rows.flatMap (0 :: ·))⟩
  signature ++ header.bytes ++ data.bytes ++ Chunk.bytes ⟨"IEND", []⟩

def ofBitmap (b : Bitmap) : List UInt8 :=
  encode ⟨false, true, false⟩ b.width b.height b.bytes

end Paperdoll.Picture.Png
