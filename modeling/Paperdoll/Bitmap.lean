import Paperdoll.Pixel

/-!
# Bitmaps

A bitmap is a rectangle of pixels, stored row by row; its type says that it holds exactly
`width * height` of them. The same type serves as the picture of a sheet and as the surface
on which sheets are drawn.

**`get?_set?`** says that writing a pixel changes that pixel and no other.
-/

namespace Paperdoll

/-- A rectangle of pixels. -/
structure Bitmap where
  width : UInt32
  height : UInt32
  pixels : Array Pixel
  size_eq : pixels.size = width.toNat * height.toNat
deriving DecidableEq

namespace Bitmap

/-! ## Making bitmaps -/

def filled (width height : UInt32) (p : Pixel) : Bitmap :=
  ⟨width, height, Array.replicate (width.toNat * height.toNat) p, by simp⟩

instance : Inhabited Bitmap := ⟨filled 0 0 .transparent⟩

def ofBytes (width height : UInt32) (bytes : List UInt8) : Except Error Bitmap :=
  if fits : byteLength? width height = some bytes.length then
    .ok {
      width, height
      pixels := (Pixel.listOfBytes bytes).toArray
      size_eq := by
        simp only [byteLength?, Option.ite_none_right_eq_some, Option.some.injEq] at fits
        simp [Pixel.length_listOfBytes, ← fits.2] }
  else .error (.invalidBitmap width height bytes.length)

/-- A transparent bitmap. It is made whatever memory there is, also where it would fill `2 ^ 63`
bytes and more, which no program can hold. -/
def blank (width height : UInt32) : Except Error Bitmap :=
  match byteLength? width height with
  | none => .error (.invalidBitmap width height 0)
  | some _ => .ok (filled width height .transparent)

/-- The bytes of the pixels, row by row. -/
def bytes (b : Bitmap) : List UInt8 :=
  b.pixels.toList.flatMap Pixel.bytes

/-! ## Single pixels -/

def contains (b : Bitmap) (x y : Nat) : Bool :=
  x < b.width.toNat && y < b.height.toNat

/-- The place of column `x` of row `y` in the array of pixels. -/
def index (b : Bitmap) (x y : Nat) : Nat :=
  y * b.width.toNat + x

theorem contains_iff {b : Bitmap} {x y : Nat} :
    b.contains x y ↔ x < b.width.toNat ∧ y < b.height.toNat := by
  simp [contains]

theorem index_lt {b : Bitmap} {x y : Nat} (h : b.contains x y) : b.index x y < b.pixels.size := by
  rw [contains_iff] at h
  rw [index, b.size_eq, Nat.mul_comm b.width.toNat]
  calc y * b.width.toNat + x < y * b.width.toNat + b.width.toNat := by omega
    _ = (y + 1) * b.width.toNat := by rw [Nat.add_mul, Nat.one_mul]
    _ ≤ b.height.toNat * b.width.toNat := Nat.mul_le_mul_right _ h.2

theorem index_inj {b : Bitmap} {x y i j : Nat} (hx : x < b.width.toNat) (hi : i < b.width.toNat) :
    b.index x y = b.index i j ↔ x = i ∧ y = j := by
  refine ⟨fun h => ?_, fun h => by rw [h.1, h.2]⟩
  have column : ∀ {x y : Nat}, x < b.width.toNat → b.index x y % b.width.toNat = x := fun hx => by
    rw [index, Nat.add_comm, Nat.add_mul_mod_self_right, Nat.mod_eq_of_lt hx]
  have row : ∀ {x y : Nat}, x < b.width.toNat → b.index x y / b.width.toNat = y := fun hx => by
    rw [index, Nat.add_comm, Nat.add_mul_div_right _ _ (by omega), Nat.div_eq_of_lt hx,
      Nat.zero_add]
  exact ⟨by rw [← column (y := y) hx, h, column hi], by rw [← row (y := y) hx, h, row hi]⟩

def get? (b : Bitmap) (x y : Nat) : Option Pixel :=
  if h : b.contains x y then
    have := index_lt h
    some b.pixels[b.index x y]
  else none

def set? (b : Bitmap) (x y : Nat) (p : Pixel) : Option Bitmap :=
  if h : b.contains x y then
    some { b with
      pixels := b.pixels.set (b.index x y) p (index_lt h)
      size_eq := by simp [b.size_eq] }
  else none

theorem get?_eq (b : Bitmap) (x y : Nat) :
    b.get? x y = if b.contains x y then b.pixels[b.index x y]? else none := by
  by_cases h : b.contains x y
  · simp [get?, h, index_lt h]
  · simp [get?, h]

theorem get?_eq_none_iff {b : Bitmap} {x y : Nat} :
    b.get? x y = none ↔ b.width.toNat ≤ x ∨ b.height.toNat ≤ y := by
  simp only [get?, dite_eq_right_iff, reduceCtorEq, imp_false, contains_iff]
  omega

theorem ext_get? {b b' : Bitmap} (width : b.width = b'.width) (height : b.height = b'.height)
    (h : ∀ x y, b.get? x y = b'.get? x y) : b = b' := by
  obtain ⟨w, v, pixels, size⟩ := b
  obtain ⟨_, _, pixels', size'⟩ := b'
  cases width
  cases height
  rw [mk.injEq]
  refine ⟨rfl, rfl, Array.ext (size.trans size'.symm) fun i hi hi' => ?_⟩
  rw [size] at hi
  have wide : 0 < w.toNat := Nat.pos_of_lt_mul_right hi
  -- the pixel with number `i` is in this column and this row
  have inside : i % w.toNat < w.toNat ∧ i / w.toNat < v.toNat :=
    ⟨Nat.mod_lt i wide, Nat.div_lt_of_lt_mul hi⟩
  have here := h (i % w.toNat) (i / w.toNat)
  simp only [get?_eq, index, contains_iff, inside, and_self, if_true, Nat.div_add_mod'] at here
  rwa [Array.getElem?_eq_getElem (by omega), Array.getElem?_eq_getElem (by omega),
    Option.some.injEq] at here

theorem get?_filled (width height : UInt32) (p : Pixel) (x y : Nat) :
    (filled width height p).get? x y =
      if x < width.toNat ∧ y < height.toNat then some p else none := by
  have bound : (filled width height p).contains x y ↔ x < width.toNat ∧ y < height.toNat :=
    contains_iff
  rw [get?_eq]
  by_cases h : (filled width height p).contains x y
  · rw [if_pos h, if_pos (bound.1 h), Array.getElem?_eq_getElem (index_lt h)]
    exact congrArg some (Array.getElem_replicate ..)
  · rw [if_neg h, if_neg fun inside => h (bound.2 inside)]

theorem get?_set? {b b' : Bitmap} {x y : Nat} {p : Pixel} (h : b.set? x y p = some b') (i j : Nat) :
    b'.get? i j = if i = x ∧ j = y then some p else b.get? i j := by
  by_cases hc : b.contains x y
  · simp only [set?, hc, dite_true, Option.some.injEq] at h
    subst h
    simp only [get?_eq, contains, index]
    by_cases hd : b.contains i j
    · have same := index_inj (y := y) (j := j) (contains_iff.1 hc).1 (contains_iff.1 hd).1
      simp only [contains, index] at hd same
      simp only [hd, if_true, Array.getElem?_set, same]
      simp only [eq_comm]
    · have : ¬ (i = x ∧ j = y) := by rintro ⟨rfl, rfl⟩; exact hd hc
      simp only [contains] at hd
      simp [hd, this]
  · simp [set?, hc] at h

/-! ## All pixels -/

/-- The bitmap of the same size whose pixels are the images of those of `b`. -/
def map (f : Pixel → Pixel) (b : Bitmap) : Bitmap :=
  { b with pixels := b.pixels.map f, size_eq := by simp [b.size_eq] }

def recolor (m : Recoloring) (b : Bitmap) : Bitmap :=
  b.map (Pixel.recolor m)

theorem bytes_recolor (m : Recoloring) (b : Bitmap) :
    (b.recolor m).bytes = m.applyBuffer b.bytes := by
  rw [Recoloring.applyBuffer_eq]
  show (b.pixels.map (Pixel.recolor m)).toList.flatMap Pixel.bytes =
    m.applyPixels (b.pixels.toList.flatMap Pixel.bytes)
  rw [Array.toList_map]
  induction b.pixels.toList with
  | nil => rfl
  | cons p ps ih =>
    rw [List.map_cons, List.flatMap_cons, List.flatMap_cons, ih, Pixel.applyPixels_bytes]

theorem getElem?_recolor (m : Recoloring) (b : Bitmap) (i : Nat) :
    (b.recolor m).pixels[i]? = b.pixels[i]?.map (Pixel.recolor m) :=
  Array.getElem?_map

theorem get?_map (f : Pixel → Pixel) (b : Bitmap) (x y : Nat) :
    (b.map f).get? x y = (b.get? x y).map f := by
  by_cases h : b.contains x y
  · have hm : (b.map f).contains x y := h
    simp only [get?, h, hm, dite_true, Option.map_some]
    simp [map, index]
  · have hm : ¬ (b.map f).contains x y := h
    simp [get?, h, hm]

end Bitmap

end Paperdoll
