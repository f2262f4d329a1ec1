import Paperdoll.Bitmap
import Paperdoll.Proofs.Pointwise
import Paperdoll.Word

/-!
# Rasters: bitmaps as bytes

A bitmap knows how many pixels it holds. A **raster** is what is left of it in memory: two sides and
a run of bytes, four for each pixel, with nothing to say that the bytes are as many as the sides
need. Whoever wants a pixel computes where its bytes begin, in 64 bits, and cuts them out of the
run.

**Theorem (`performAll?_sound`).** Take a raster that has been made of bytes, made blank or taken
from an image, write single pixels and change bytes in place as often as you like. Every number on
the way has room, every cut lies inside, and the raster is at all times that of a bitmap of the same
size. Its bytes are as many as the sides need; a pixel is found and written exactly if the sides
say so, and writing one changes no other; and it can be turned into an image and back.
Bytes are refused exactly if they are not as many as the sides need, or if that number exceeds 64
bits.

A full run of bytes is that of a bitmap (`exists_raster`), and from there the reasoning is about
pixels: the bytes of the pixel with number `i` are the four from `4 * i` on (`isAt_flatMap`), and
putting four bytes there is putting a pixel into the list (`splice_flatMap`). The room comes from
the number of bytes, which the number of a pixel inside the sides stays below (`start?_raster`).
-/

namespace Paperdoll

/-! ## Bytes of many pixels -/

theorem Pixel.length_flatMap_bytes (l : List Pixel) : (l.flatMap bytes).length = 4 * l.length := by
  induction l with
  | nil => rfl
  | cons p rest ih =>
    rw [List.flatMap_cons, List.length_append, ih, List.length_cons]
    show 4 + 4 * rest.length = _
    omega

theorem Pixel.flatMap_listOfBytes : ∀ (bs : List UInt8), bs.length % 4 = 0 →
    (listOfBytes bs).flatMap bytes = bs
  | [], _ => rfl
  | [_], h | [_, _], h | [_, _, _], h => by simp at h
  | red :: green :: blue :: alpha :: rest, h => by
    have fours : rest.length % 4 = 0 := by
      simp only [List.length_cons] at h
      omega
    rw [listOfBytes, List.flatMap_cons, flatMap_listOfBytes rest fours]
    rfl

/-- The bytes of a pixel are where its number says. -/
theorem Pixel.isAt_flatMap {p : Pixel} (l : List Pixel) (i : Nat) :
    p.IsAt (l.flatMap bytes) i ↔ l[i]? = some p := by
  induction l generalizing i with
  | nil =>
    constructor
    · intro h
      have room := h.lt
      simp at room
    · intro h
      cases h
  | cons q rest ih =>
    rw [List.flatMap_cons]
    cases i with
    | zero => rw [isAt_zero, List.getElem?_cons_zero, Option.some.injEq, eq_comm]
    | succ i => rw [isAt_succ, ih, List.getElem?_cons_succ]

/-- Putting four bytes in the place of a pixel puts a pixel there. -/
theorem Pixel.splice_flatMap (p : Pixel) {l : List Pixel} {i : Nat} (h : i < l.length) :
    (l.flatMap bytes).take (4 * i) ++ p.bytes ++ (l.flatMap bytes).drop (4 * i + 4) =
      (l.set i p).flatMap bytes := by
  induction l generalizing i with
  | nil => cases h
  | cons q rest ih =>
    cases i with
    | zero => rfl
    | succ i =>
      have later := ih (Nat.lt_of_succ_lt_succ h)
      rw [List.set_cons_succ, List.flatMap_cons, List.flatMap_cons, ← later]
      rfl

/-! ## Rasters -/

/-- Two sides and bytes. -/
structure Raster where
  width : UInt32
  height : UInt32
  bytes : List UInt8
deriving DecidableEq

namespace Raster

/-- The number of bytes that a size needs, product by product. -/
def byteCount? (width height : UInt32) : Option Nat := do
  let count ← wide? (width.toNat * height.toNat)
  wide? (count * 4)

def ofBytes (width height : UInt32) (bytes : List UInt8) : Except Error Raster :=
  if byteCount? width height = some bytes.length then .ok ⟨width, height, bytes⟩
  else .error (.invalidBitmap width height bytes.length)

/-- A transparent raster. Like a blank bitmap it is made whatever memory there is, also where it
would fill `2 ^ 63` bytes and more. -/
def blank (width height : UInt32) : Except Error Raster :=
  match byteCount? width height with
  | none => .error (.invalidBitmap width height 0)
  | some count => ofBytes width height (List.replicate count 0)

/-- Where the bytes of a pixel begin, if every number on the way has room and the four bytes lie
inside. -/
def start? (r : Raster) (x y : UInt32) : Option Nat := do
  let row ← wide? (y.toNat * r.width.toNat)
  let place ← wide? (row + x.toNat)
  let start ← wide? (4 * place)
  let stop ← wide? (start + 4)
  if stop ≤ r.bytes.length then some start else none

/-- The pixel in column `x` of row `y`, unless the way there breaks off. -/
def pixel? (r : Raster) (x y : UInt32) : Option (Option Pixel) :=
  if r.width ≤ x ∨ r.height ≤ y then some none
  else do
    let start ← r.start? x y
    match (r.bytes.drop start).take 4 with
    | [red, green, blue, alpha] => some (some ⟨red, green, blue, alpha⟩)
    | _ => none

/-- Puts a pixel into column `x` of row `y` and says if there is such a place, unless the way
there breaks off. -/
def setPixel? (r : Raster) (x y : UInt32) (p : Pixel) : Option (Bool × Raster) :=
  if r.width ≤ x ∨ r.height ≤ y then some (false, r)
  else do
    let start ← r.start? x y
    some (true, { r with bytes := r.bytes.take start ++ p.bytes ++ r.bytes.drop (start + 4) })

end Raster

/-- A change of bytes in place: there are as many afterwards. -/
structure Edit where
  run : List UInt8 → List UInt8
  length_run : ∀ bytes, (run bytes).length = bytes.length

def Edit.recolor (m : Recoloring) : Edit where
  run := m.applyBuffer
  length_run bytes := by rw [Recoloring.applyBuffer_eq, Recoloring.length_applyPixels]

/-- Writes a pixel or changes the bytes. -/
inductive Raster.Request
  | set (x y : UInt32) (p : Pixel)
  | edit (e : Edit)

namespace Raster

/-- The raster after a request, unless the way there breaks off. -/
def perform? (r : Raster) : Request → Option Raster
  | .set x y p => (r.setPixel? x y p).map Prod.snd
  | .edit e => some { r with bytes := e.run r.bytes }

def performAll? (r : Raster) (rs : List Request) : Option Raster :=
  rs.foldlM perform? r

/-- The bytes are as many as the sides need, and their number has 64 bits. -/
structure Full (r : Raster) : Prop where
  length : r.bytes.length = r.width.toNat * r.height.toNat * 4
  room : r.bytes.length < 2 ^ 64

end Raster

/-! ## Bitmaps and their rasters -/

namespace Bitmap

variable {b b' : Bitmap} {x y : UInt32}

def raster (b : Bitmap) : Raster := ⟨b.width, b.height, b.bytes⟩

def edit (b : Bitmap) (e : Edit) : Bitmap :=
  { b with
    pixels := (Pixel.listOfBytes (e.run b.bytes)).toArray
    size_eq := by
      rw [List.size_toArray, Pixel.length_listOfBytes, e.length_run, bytes,
        Pixel.length_flatMap_bytes, Array.length_toList, b.size_eq]
      omega }

def perform (b : Bitmap) : Raster.Request → Bitmap
  | .set x y p => (b.set? x.toNat y.toNat p).getD b
  | .edit e => b.edit e

def performAll (b : Bitmap) (rs : List Raster.Request) : Bitmap :=
  rs.foldl perform b

theorem length_bytes (b : Bitmap) : b.bytes.length = 4 * b.pixels.size := by
  rw [bytes, Pixel.length_flatMap_bytes, Array.length_toList]

theorem raster_edit (b : Bitmap) (e : Edit) :
    (b.edit e).raster = { b.raster with bytes := e.run b.raster.bytes } := by
  have fours : (e.run b.bytes).length % 4 = 0 := by
    rw [e.length_run, length_bytes, Nat.mul_mod_right]
  have kept : (b.edit e).bytes = e.run b.bytes := Pixel.flatMap_listOfBytes _ fours
  rw [raster, kept]
  rfl

theorem outside_iff : b.width ≤ x ∨ b.height ≤ y ↔ ¬ b.contains x.toNat y.toNat := by
  rw [contains_iff, UInt32.le_iff_toNat_le, UInt32.le_iff_toNat_le]
  omega

/-- **Inside the sides there is room** for all numbers on the way to a pixel. -/
theorem start?_raster (full : b.raster.Full) (inside : b.contains x.toNat y.toNat) :
    b.raster.start? x y = some (4 * b.index x.toNat y.toNat) := by
  have room : 4 * b.pixels.size < 2 ^ 64 := b.length_bytes ▸ full.room
  have below := index_lt inside
  have length : b.raster.bytes.length = 4 * b.pixels.size := b.length_bytes
  have row : y.toNat * b.raster.width.toNat ≤ b.index x.toNat y.toNat := Nat.le_add_right _ _
  have place : y.toNat * b.raster.width.toNat + x.toNat = b.index x.toNat y.toNat := rfl
  -- no number on the way is larger than that of the bytes
  simp only [Raster.start?, Option.bind_eq_bind]
  rw [wide?_of_lt (by omega), Option.bind_some, place, wide?_of_lt (by omega), Option.bind_some,
    wide?_of_lt (by omega), Option.bind_some, wide?_of_lt (by omega), Option.bind_some, length,
    if_pos (by omega)]

theorem pixel?_raster (full : b.raster.Full) (x y : UInt32) :
    b.raster.pixel? x y = some (b.get? x.toNat y.toNat) := by
  unfold Raster.pixel?
  by_cases inside : b.contains x.toNat y.toNat
  · have within : ¬ (b.raster.width ≤ x ∨ b.raster.height ≤ y) := fun h => outside_iff.1 h inside
    have below := index_lt inside
    have found : b.pixels.toList[b.index x.toNat y.toNat]? =
        some b.pixels[b.index x.toNat y.toNat] := by
      rw [Array.getElem?_toList, Array.getElem?_eq_getElem]
    have here := (Pixel.isAt_flatMap _ _).2 found
    rw [if_neg within, start?_raster full inside, get?, dif_pos inside]
    show (match (b.bytes.drop _).take 4 with | [_, _, _, _] => _ | _ => none) = _
    rw [show (b.bytes.drop _).take 4 = _ from here]
    rfl
  · have outside : b.raster.width ≤ x ∨ b.raster.height ≤ y := outside_iff.2 inside
    rw [if_pos outside, get?, dif_neg inside]

/-- Outside the sides nothing is written. -/
theorem setPixel?_raster_outside (outside : b.width ≤ x ∨ b.height ≤ y) (p : Pixel) :
    b.raster.setPixel? x y p = some (false, b.raster) :=
  if_pos outside

/-- Inside the sides a pixel is put into the list of pixels. -/
theorem setPixel?_raster_inside (full : b.raster.Full) (inside : b.contains x.toNat y.toNat)
    (p : Pixel) : ∃ b', b.set? x.toNat y.toNat p = some b' ∧
      b.raster.setPixel? x y p = some (true, b'.raster) := by
  have within : ¬ (b.raster.width ≤ x ∨ b.raster.height ≤ y) := fun h => outside_iff.1 h inside
  have below : b.index x.toNat y.toNat < b.pixels.toList.length := by
    rw [Array.length_toList]
    exact index_lt inside
  have stored : (b.pixels.set _ p (index_lt inside)).toList = b.pixels.toList.set _ p :=
    Array.toList_set ..
  have spliced := Pixel.splice_flatMap p below
  rw [← stored] at spliced
  refine ⟨_, dif_pos inside, ?_⟩
  unfold Raster.setPixel?
  rw [if_neg within, start?_raster full inside, Option.bind_eq_bind, Option.bind_some]
  exact congrArg (fun bytes => some (true, Raster.mk b.width b.height bytes)) spliced

/-! ## Requests, one after the other -/

/-- The bytes of a bitmap are as many as its sides need. -/
theorem full_raster_iff : b.raster.Full ↔ b.width.toNat * b.height.toNat * 4 < 2 ^ 64 := by
  have length : b.raster.bytes.length = b.width.toNat * b.height.toNat * 4 := by
    rw [← b.size_eq, Nat.mul_comm]
    exact b.length_bytes
  exact ⟨fun full => length ▸ full.room, fun room => ⟨length, length ▸ room⟩⟩

theorem full_of_sides (full : b.raster.Full) (sides : b'.width = b.width ∧ b'.height = b.height) :
    b'.raster.Full := by
  rw [full_raster_iff, sides.1, sides.2]
  exact full_raster_iff.1 full

theorem sides_set? {x y : Nat} {p : Pixel} (put : b.set? x y p = some b') :
    b'.width = b.width ∧ b'.height = b.height := by
  unfold set? at put
  split at put <;> cases put
  exact ⟨rfl, rfl⟩

theorem sides_perform (b : Bitmap) (r : Raster.Request) :
    (b.perform r).width = b.width ∧ (b.perform r).height = b.height := by
  cases r with
  | set x y p =>
    unfold perform
    dsimp only
    cases put : b.set? x.toNat y.toNat p with
    | none => exact ⟨rfl, rfl⟩
    | some b' => exact sides_set? put
  | edit e => exact ⟨rfl, rfl⟩

/-- **A request does to the raster what it does to the bitmap.** -/
theorem perform?_raster (full : b.raster.Full) (r : Raster.Request) :
    b.raster.perform? r = some (b.perform r).raster := by
  cases r with
  | set x y p =>
    show (b.raster.setPixel? x y p).map Prod.snd = some ((b.set? x.toNat y.toNat p).getD b).raster
    by_cases inside : b.contains x.toNat y.toNat
    · obtain ⟨b', put, written⟩ := setPixel?_raster_inside full inside p
      rw [put, written]
      rfl
    · have kept : b.set? x.toNat y.toNat p = none := dif_neg inside
      rw [kept, setPixel?_raster_outside (outside_iff.2 inside) p]
      rfl
  | edit e => exact congrArg some (b.raster_edit e).symm

theorem performAll?_raster (full : b.raster.Full) (rs : List Raster.Request) :
    b.raster.performAll? rs = some (b.performAll rs).raster ∧ (b.performAll rs).raster.Full ∧
      (b.performAll rs).width = b.width ∧ (b.performAll rs).height = b.height := by
  induction rs generalizing b with
  | nil => exact ⟨rfl, full, rfl, rfl⟩
  | cons r rest ih =>
    -- the sides stay, and with them the number of bytes that has room
    obtain ⟨run, still, width, height⟩ := ih (full_of_sides full (b.sides_perform r))
    refine ⟨?_, still, width.trans (b.sides_perform r).1, height.trans (b.sides_perform r).2⟩
    unfold Raster.performAll?
    rw [List.foldlM_cons, perform?_raster full r]
    exact run

end Bitmap

/-! ## Making rasters -/

namespace Raster

variable {width height : UInt32} {bytes : List UInt8} {r : Raster}

/-- Product by product or all at once, it is the same number that has no room. -/
theorem byteCount?_eq (width height : UInt32) :
    byteCount? width height = byteLength? width height := by
  by_cases room : width.toNat * height.toNat < 2 ^ 64
  · simp only [byteCount?, wide?_of_lt room, Option.bind_eq_bind, Option.bind_some]
    rfl
  · have large : ¬ width.toNat * height.toNat * 4 < 2 ^ 64 := by omega
    simp only [byteCount?, wide?, byteLength?, if_neg room, if_neg large, Option.bind_eq_bind,
      Option.bind_none]

theorem byteCount?_eq_some {count : Nat} : byteCount? width height = some count ↔
    width.toNat * height.toNat * 4 < 2 ^ 64 ∧ width.toNat * height.toNat * 4 = count := by
  rw [byteCount?_eq, byteLength?]
  exact Option.ite_none_right_eq_some.trans (and_congr_right fun _ => Option.some_inj)

/-- A full run of bytes is that of a bitmap. -/
theorem exists_raster (full : r.Full) :
    ∃ b, Bitmap.ofBytes r.width r.height r.bytes = .ok b ∧ b.raster = r := by
  have fits : byteLength? r.width r.height = some r.bytes.length := by
    rw [← byteCount?_eq, byteCount?_eq_some, ← full.length]
    exact ⟨full.room, rfl⟩
  have fours : r.bytes.length % 4 = 0 := by
    rw [full.length, Nat.mul_mod_left]
  refine ⟨_, dif_pos fits, ?_⟩
  have same := Pixel.flatMap_listOfBytes r.bytes fours
  exact congrArg (Raster.mk r.width r.height) same

theorem ofBytes_eq_map (width height : UInt32) (bytes : List UInt8) :
    ofBytes width height bytes = (Bitmap.ofBytes width height bytes).map Bitmap.raster := by
  unfold ofBytes
  split
  case isTrue fits =>
    obtain ⟨room, length⟩ := byteCount?_eq_some.1 fits
    obtain ⟨b, made, same⟩ := exists_raster (r := ⟨width, height, bytes⟩)
      ⟨length.symm, length ▸ room⟩
    rw [made, ← same]
    rfl
  case isFalse odd =>
    rw [byteCount?_eq] at odd
    rw [Bitmap.ofBytes, dif_neg odd]
    rfl

theorem blank_eq_map (width height : UInt32) :
    blank width height = (Bitmap.blank width height).map Bitmap.raster := by
  unfold blank Bitmap.blank
  rw [byteCount?_eq]
  cases fits : byteLength? width height with
  | none => rfl
  | some count =>
    obtain ⟨-, length⟩ := byteCount?_eq_some.1 ((byteCount?_eq width height).trans fits)
    have zeros : (Bitmap.filled width height .transparent).bytes = List.replicate count 0 := by
      have clear : Pixel.transparent.bytes = List.replicate 4 0 := rfl
      show (Array.replicate _ Pixel.transparent).toList.flatMap Pixel.bytes = _
      rw [Array.toList_replicate, List.flatMap_replicate, clear, List.flatten_replicate_replicate,
        length]
    have room : byteCount? width height = some (List.replicate count (0 : UInt8)).length := by
      rw [List.length_replicate, byteCount?_eq, fits]
    show ofBytes width height (List.replicate count 0) = _
    rw [ofBytes, if_pos room, ← zeros]
    rfl

/-- **Which bytes are those of a raster**: as many as the sides need, if that number has room. -/
theorem ofBytes_eq_ite (width height : UInt32) (bytes : List UInt8) :
    ofBytes width height bytes =
      if bytes.length = width.toNat * height.toNat * 4 ∧
          width.toNat * height.toNat * 4 < 2 ^ 64 then .ok ⟨width, height, bytes⟩
      else .error (.invalidBitmap width height bytes.length) := by
  have fits : byteCount? width height = some bytes.length ↔
      bytes.length = width.toNat * height.toNat * 4 ∧
        width.toNat * height.toNat * 4 < 2 ^ 64 := by
    rw [byteCount?_eq_some, and_comm, eq_comm]
  simp only [ofBytes, fits]

theorem full_of_ofBytes (made : ofBytes width height bytes = .ok r) : r.Full := by
  rw [ofBytes_eq_ite] at made
  split at made
  case isTrue fits =>
    cases made
    exact ⟨fits.1, fits.1 ▸ fits.2⟩
  case isFalse => cases made

theorem full_of_blank (made : blank width height = .ok r) : r.Full := by
  unfold blank at made
  split at made
  · cases made
  · exact full_of_ofBytes made

end Raster

/-! ## Images -/

/-- A library of images: the image of a size with the bytes given, if they are enough, what an
image is made of, and an image without pixels. -/
structure ImageLibrary (Image : Type) where
  ofBytes? (width height : UInt32) (bytes : List UInt8) : Option Image
  width : Image → UInt32
  height : Image → UInt32
  bytes : Image → List UInt8
  nothing : Image

namespace ImageLibrary

variable {Image : Type} {L : ImageLibrary Image} {r : Raster}

/-- The bytes of an image are in memory, enough of them make an image, and an image hands over what
it was made of. -/
structure Lawful (L : ImageLibrary Image) : Prop where
  room (image : Image) : (L.bytes image).length < 2 ^ 64
  enough {width height : UInt32} {bytes : List UInt8} :
    width.toNat * height.toNat * 4 ≤ bytes.length → bytes.length < 2 ^ 64 →
      ∃ image, L.ofBytes? width height bytes = some image
  kept {width height : UInt32} {bytes : List UInt8} {image : Image} :
    L.ofBytes? width height bytes = some image →
      L.width image = width ∧ L.height image = height ∧ L.bytes image = bytes

/-- The image of a raster; one without pixels if the library refuses the bytes. -/
def toImage (L : ImageLibrary Image) (r : Raster) : Image :=
  (L.ofBytes? r.width r.height r.bytes).getD L.nothing

def ofImage (L : ImageLibrary Image) (image : Image) : Raster :=
  ⟨L.width image, L.height image, L.bytes image⟩

/-- **A full raster is never refused**, and its image holds the same. -/
theorem ofImage_toImage (lawful : L.Lawful) (full : r.Full) :
    (L.ofBytes? r.width r.height r.bytes).isSome ∧ L.ofImage (L.toImage r) = r := by
  obtain ⟨image, accepted⟩ := lawful.enough (Nat.le_of_eq full.length.symm) full.room
  obtain ⟨width, height, bytes⟩ := lawful.kept accepted
  refine ⟨by rw [accepted]; rfl, ?_⟩
  rw [toImage, accepted, Option.getD_some, ofImage, width, height, bytes]

end ImageLibrary

/-! ## Rasters at all times -/

namespace Raster

variable {Image : Type} {L : ImageLibrary Image} {r : Raster} {b : Bitmap}

/-- The ways to make a raster. An image that is taken apart is trusted to hold as many bytes as its
sides need. -/
inductive Made (L : ImageLibrary Image) : Raster → Prop
  | ofBytes {width height : UInt32} {bytes : List UInt8} {r : Raster} :
    Raster.ofBytes width height bytes = .ok r → Made L r
  | blank {width height : UInt32} {r : Raster} : Raster.blank width height = .ok r → Made L r
  | ofImage {image : Image} :
    (L.bytes image).length = (L.width image).toNat * (L.height image).toNat * 4 →
      Made L (L.ofImage image)

theorem Made.full (lawful : L.Lawful) (made : Made L r) : r.Full := by
  cases made with
  | ofBytes made => exact full_of_ofBytes made
  | blank made => exact full_of_blank made
  | ofImage trusted => exact ⟨trusted, lawful.room _⟩

/-- What can be relied on with the raster of a bitmap: nothing breaks off, and single pixels are
those of the bitmap. -/
structure Sound (L : ImageLibrary Image) (b : Bitmap) : Prop where
  length : b.raster.bytes.length = b.width.toNat * b.height.toNat * 4
  read (x y : UInt32) : b.raster.pixel? x y = some (b.get? x.toNat y.toNat)
  missing (x y : UInt32) : b.get? x.toNat y.toNat = none ↔ b.width ≤ x ∨ b.height ≤ y
  refused (x y : UInt32) (p : Pixel) : b.width ≤ x ∨ b.height ≤ y →
    b.raster.setPixel? x y p = some (false, b.raster)
  written (x y : UInt32) (p : Pixel) : ¬ (b.width ≤ x ∨ b.height ≤ y) →
    ∃ b', b.set? x.toNat y.toNat p = some b' ∧ b.raster.setPixel? x y p = some (true, b'.raster) ∧
      ∀ i j : UInt32, b'.raster.pixel? i j =
        if i = x ∧ j = y then some (some p) else b.raster.pixel? i j
  image : (L.ofBytes? b.width b.height b.bytes).isSome ∧
    L.ofImage (L.toImage b.raster) = b.raster

theorem sound_of_full (lawful : L.Lawful) (full : b.raster.Full) : Sound L b where
  length := full.length
  read := Bitmap.pixel?_raster full
  missing x y := by
    rw [Bitmap.get?_eq_none_iff, UInt32.le_iff_toNat_le, UInt32.le_iff_toNat_le]
  refused x y p outside := Bitmap.setPixel?_raster_outside outside p
  written x y p within := by
    have inside : b.contains x.toNat y.toNat := not_not.1 (mt Bitmap.outside_iff.2 within)
    obtain ⟨b', put, written⟩ := Bitmap.setPixel?_raster_inside full inside p
    have still := Bitmap.full_of_sides full (Bitmap.sides_set? put)
    refine ⟨b', put, written, fun i j => ?_⟩
    rw [Bitmap.pixel?_raster still, Bitmap.pixel?_raster full, Bitmap.get?_set? put]
    simp only [UInt32.toNat_inj]
    exact apply_ite some _ _ _
  image := ImageLibrary.ofImage_toImage lawful full

/-- **A raster is that of a bitmap at all times**, with any library of images. -/
theorem performAll?_sound (lawful : L.Lawful) :
    (∀ width height bytes,
      Raster.ofBytes width height bytes =
        (Bitmap.ofBytes width height bytes).map Bitmap.raster ∧
      Raster.ofBytes width height bytes =
        if bytes.length = width.toNat * height.toNat * 4 ∧
            width.toNat * height.toNat * 4 < 2 ^ 64 then .ok ⟨width, height, bytes⟩
        else .error (.invalidBitmap width height bytes.length)) ∧
    (∀ width height,
      Raster.blank width height = (Bitmap.blank width height).map Bitmap.raster) ∧
    ∀ r, Made L r → ∃ b : Bitmap, b.raster = r ∧ ∀ rs,
      r.performAll? rs = some (b.performAll rs).raster ∧
      ((b.performAll rs).width = r.width ∧ (b.performAll rs).height = r.height) ∧
      Sound L (b.performAll rs) := by
  refine ⟨fun width height bytes =>
      ⟨ofBytes_eq_map width height bytes, ofBytes_eq_ite width height bytes⟩,
    blank_eq_map, fun r made => ?_⟩
  obtain ⟨b, -, rfl⟩ := exists_raster (made.full lawful)
  refine ⟨b, rfl, fun rs => ?_⟩
  obtain ⟨run, full, width, height⟩ := Bitmap.performAll?_raster (made.full lawful) rs
  exact ⟨run, ⟨width, height⟩, sound_of_full lawful full⟩

/-- The images of a library that copies, and refuses only what is too short or not in memory. -/
def Copy := { r : Raster // r.bytes.length < 2 ^ 64 }

def copying : ImageLibrary Copy where
  ofBytes? width height bytes :=
    if h : width.toNat * height.toNat * 4 ≤ bytes.length ∧ bytes.length < 2 ^ 64 then
      some ⟨⟨width, height, bytes⟩, h.2⟩
    else none
  width image := image.1.width
  height image := image.1.height
  bytes image := image.1.bytes
  nothing := ⟨⟨0, 0, []⟩, by decide⟩

theorem lawful_copying : copying.Lawful where
  room image := image.2
  enough long short := ⟨_, dif_pos ⟨long, short⟩⟩
  kept accepted := by
    unfold copying at accepted
    dsimp only at accepted
    split at accepted <;> cases accepted
    exact ⟨rfl, rfl, rfl⟩

def twoSpecks : Raster :=
  ⟨2, 1, [170, 187, 204, 255, 9, 9, 9, 9]⟩

/-- A pixel on the right, one below the row, and red for a color. -/
def threeRequests : List Request :=
  [.set 1 0 ⟨1, 2, 3, 128⟩, .set 0 1 .transparent,
    .edit (.recolor (.table (Substitution.empty.insert ⟨0xaa, 0xbb, 0xcc⟩ ⟨0xff, 0, 0⟩)))]

theorem performAll?_sound_twoSpecks :
    (∃ b : Bitmap, b.raster = twoSpecks ∧
      (b.performAll threeRequests).raster = ⟨2, 1, [255, 0, 0, 255, 1, 2, 3, 128]⟩ ∧
      Sound copying (b.performAll threeRequests)) ∧
    Raster.ofBytes 2 1 [0, 0, 0] = .error (.invalidBitmap 2 1 3) := by
  obtain ⟨bytes, -, always⟩ := performAll?_sound lawful_copying
  have made : Made copying twoSpecks :=
    .ofBytes (show Raster.ofBytes 2 1 twoSpecks.bytes = _ by rfl)
  obtain ⟨b, same, stays⟩ := always twoSpecks made
  obtain ⟨run, -, sound⟩ := stays threeRequests
  have ran : twoSpecks.performAll? threeRequests =
      some ⟨2, 1, [255, 0, 0, 255, 1, 2, 3, 128]⟩ := by
    decide +kernel
  exact ⟨⟨b, same, Option.some.inj (run.symm.trans ran), sound⟩, (bytes 2 1 [0, 0, 0]).2⟩

end Raster

end Paperdoll
