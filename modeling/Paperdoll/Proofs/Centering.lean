import Mathlib.Data.List.Basic
import Paperdoll.Proofs.Layering
import Paperdoll.Proofs.Outfit

/-!
# Centering: a character in the middle of a canvas

A character is drawn with its bounds in the middle of a canvas that is large enough for them. Sums
on the way stop at the ends of the signed range, in the bounds, in the origin and in the places of
the layers.

**Theorem (`drawAt_centered`).** For a character that can come about, without frames of `2 ^ 31`
pixels or more, none of these sums stops. Every pixel of every layer gets to its place on the
canvas, one over the other, and around the bounds the canvas stays transparent.

The offsets may be anything, so that nothing is small by itself. But the body is always there and
is never moved, so the bounds hold the origin; and they are no larger than a canvas. This puts
both their ends, and with them the ends of every layer, near the origin. The argument is the same
for columns and rows; `Fits` states it for one side of the canvas.
-/

namespace Paperdoll

open Bounds (span centered margin)

/-! ## One side of the canvas -/

/-- A stretch that holds the origin fits on a side of a canvas. -/
structure Fits (start stop : Int) (side : Nat) : Prop where
  start_le : start ≤ 0
  le_stop : 0 ≤ stop
  span_le : span start stop ≤ side
  side_le : side ≤ maxCanvasSide

namespace Fits

variable {start stop offset : Int} {side length : Nat}

theorem span_eq (h : Fits start stop side) : (span start stop : Int) = stop - start := by
  obtain ⟨start_le, le_stop, span_le, side_le⟩ := h
  unfold span maxWord at span_le ⊢
  unfold maxCanvasSide at side_le
  omega

theorem margin_add_span_le (h : Fits start stop side) :
    margin side (span start stop) + span start stop ≤ side := by
  have fits := h.span_le
  unfold margin
  omega

/-- The origin is not clamped. -/
theorem centered_eq (h : Fits start stop side) :
    centered side (span start stop) start = margin side (span start stop) - start := by
  have size := h.span_eq
  obtain ⟨start_le, le_stop, span_le, side_le⟩ := h
  unfold maxCanvasSide at side_le
  have half : ((side : Int) - span start stop).tdiv 2 = margin side (span start stop) := by
    unfold margin
    rw [Int.tdiv_eq_ediv_of_nonneg (by omega)]
    omega
  unfold centered
  rw [half]
  apply clamped_eq_self
  · omega
  · unfold margin
    omega

theorem end_eq (h : Fits start stop side) (left : start ≤ offset)
    (right : clamped (offset + signed length) ≤ stop) (short : length < 2 ^ 31) :
    clamped (offset + signed length) = offset + length := by
  have size := h.span_eq
  obtain ⟨start_le, le_stop, span_le, side_le⟩ := h
  unfold maxCanvasSide at side_le
  rw [signed_eq_self short] at right ⊢
  unfold clamped at right ⊢
  omega

theorem place_eq (h : Fits start stop side) (left : start ≤ offset) (right : offset ≤ stop) :
    clamped (centered side (span start stop) start + offset) =
      margin side (span start stop) + offset - start := by
  have size := h.span_eq
  have total := h.margin_add_span_le
  rw [h.centered_eq]
  obtain ⟨start_le, le_stop, span_le, side_le⟩ := h
  unfold maxCanvasSide at side_le
  rw [clamped_eq_self (by omega) (by omega)]
  omega

end Fits

namespace Character

variable {c : Character} {b : Bounds} {width height : UInt32}

/-! ## All layers -/

/-- Every frame that is shown has sides of less than `2 ^ 31` pixels. -/
def ShortFrames (c : Character) : Prop :=
  ∀ layer ∈ c.layers, ∀ r, c.layerRegion? layer = some r →
    r.width.toNat < 2 ^ 31 ∧ r.height.toNat < 2 ^ 31

instance : Decidable c.ShortFrames :=
  inferInstanceAs (Decidable (∀ layer ∈ c.layers, ∀ r, r ∈ c.layerRegion? layer →
    r.width.toNat < 2 ^ 31 ∧ r.height.toNat < 2 ^ 31))

/-- **The body keeps the bounds at the origin**, so that both sides of the canvas fit them. -/
theorem fits_of_bounds (reachable : Reachable c) (hb : c.bounds = .ok b) (short : c.ShortFrames)
    {canvas : Bitmap} (hcanvas : Canvas.blank width height = .ok canvas)
    (hwidth : b.width ≤ width.toNat) (hheight : b.height ≤ height.toNat) :
    Fits b.left b.right width.toNat ∧ Fits b.top b.bottom height.toNat := by
  have worn : (c.sheets.get .body).isSome := isSome_get_of_reachable reachable rfl
  obtain ⟨sheet, hsheet⟩ := Option.isSome_iff_exists.1 worn
  have mem : (Slot.body, sheet) ∈ c.layers := mem_layers.2 hsheet
  obtain ⟨r, hr, holds⟩ := bounds_eq_ok hb _ mem
  obtain ⟨hw, hh⟩ := short _ mem r hr
  have unmoved : c.offsetFor .body = (0, 0) := rfl
  obtain ⟨⟨-, sideWidth⟩, ⟨-, sideHeight⟩, -⟩ := Canvas.blank_eq_ok.1 hcanvas
  rw [unmoved] at holds
  have right := holds.right
  have bottom := holds.bottom
  simp only [layerBounds, signed_eq_self hw, signed_eq_self hh, clamped] at right bottom
  exact ⟨⟨holds.left, by omega, hwidth, sideWidth⟩, ⟨holds.top, by omega, hheight, sideHeight⟩⟩

/-! ## The middle of a canvas -/

/-- The rectangle of a region that is moved by an offset, without regard to the range of the
sums. -/
def exactBounds (offset : Int × Int) (r : Region) : Bounds :=
  ⟨offset.1, offset.2, offset.1 + r.width.toNat, offset.2 + r.height.toNat⟩

def middleBounds (b : Bounds) (width height : UInt32) : Bounds :=
  ⟨margin width.toNat b.width, margin height.toNat b.height,
    margin width.toNat b.width + b.width, margin height.toNat b.height + b.height⟩

/-- The origin that puts the bounds into the middle of a canvas. -/
def middleOrigin (b : Bounds) (width height : UInt32) : Int × Int :=
  (centered width.toNat b.width b.left, centered height.toNat b.height b.top)

/-- The place of a slot when the bounds are in the middle of a canvas, without regard to the range
of the sums. -/
def middlePlace (c : Character) (b : Bounds) (width height : UInt32) (slot : Slot) : Int × Int :=
  (margin width.toNat b.width + (c.offsetFor slot).1 - b.left,
    margin height.toNat b.height + (c.offsetFor slot).2 - b.top)

section Middle

variable (fitsWidth : Fits b.left b.right width.toNat)
  (fitsHeight : Fits b.top b.bottom height.toNat) {slot : Slot} {r : Region}

include fitsWidth fitsHeight

theorem layerBounds_eq (held : b.Holds (layerBounds (c.offsetFor slot) r))
    (short : r.width.toNat < 2 ^ 31 ∧ r.height.toNat < 2 ^ 31) :
    layerBounds (c.offsetFor slot) r = exactBounds (c.offsetFor slot) r := by
  have right : (layerBounds (c.offsetFor slot) r).right = (exactBounds (c.offsetFor slot) r).right :=
    fitsWidth.end_eq held.left held.right short.1
  have bottom :
      (layerBounds (c.offsetFor slot) r).bottom = (exactBounds (c.offsetFor slot) r).bottom :=
    fitsHeight.end_eq held.top held.bottom short.2
  exact congrArg₂ (Bounds.mk (c.offsetFor slot).1 (c.offsetFor slot).2) right bottom

theorem placeFor_middleOrigin (held : b.Holds (exactBounds (c.offsetFor slot) r)) :
    c.placeFor slot (middleOrigin b width height).1 (middleOrigin b width height).2 =
      c.middlePlace b width height slot := by
  have right : (c.offsetFor slot).1 ≤ b.right :=
    Int.le_trans (Int.le_add_of_nonneg_right (Int.natCast_nonneg _)) held.right
  have bottom : (c.offsetFor slot).2 ≤ b.bottom :=
    Int.le_trans (Int.le_add_of_nonneg_right (Int.natCast_nonneg _)) held.bottom
  exact Prod.ext (fitsWidth.place_eq held.left right) (fitsHeight.place_eq held.top bottom)

theorem middleBounds_covers (held : b.Holds (exactBounds (c.offsetFor slot) r))
    {s : Sheet} {u v : Int} {p : Pixel} (h : s.pixelAt? r u v = some p) :
    (middleBounds b width height).Covers ((c.middlePlace b width height slot).1 + u)
      ((c.middlePlace b width height slot).2 + v) := by
  have columns : (b.width : Int) = b.right - b.left := fitsWidth.span_eq
  have rows : (b.height : Int) = b.bottom - b.top := fitsHeight.span_eq
  obtain ⟨left, top, right, bottom⟩ := held
  obtain ⟨column, row⟩ := Sheet.lt_of_pixelAt? h
  unfold exactBounds at left top right bottom
  unfold Bounds.Covers middleBounds middlePlace
  simp only at left top right bottom ⊢
  omega

/-- **A layer in the middle of a canvas**: nothing is clamped, and its pixels get between the
margins. -/
theorem layer_in_middle (hb : c.bounds = .ok b) (short : c.ShortFrames) :
    ∀ layer ∈ c.layers, ∃ r, c.layerRegion? layer = some r ∧
      layerBounds (c.offsetFor layer.1) r = exactBounds (c.offsetFor layer.1) r ∧
      c.placeFor layer.1 (middleOrigin b width height).1 (middleOrigin b width height).2 =
        c.middlePlace b width height layer.1 ∧
      ∀ u v p, layer.2.pixelAt? r u v = some p →
        (middleBounds b width height).Covers ((c.middlePlace b width height layer.1).1 + u)
          ((c.middlePlace b width height layer.1).2 + v) := by
  intro layer mem
  obtain ⟨r, hr, held⟩ := bounds_eq_ok hb layer mem
  have rectangle := layerBounds_eq fitsWidth fitsHeight held (short layer mem r hr)
  rw [rectangle] at held
  exact ⟨r, hr, rectangle, placeFor_middleOrigin fitsWidth fitsHeight held,
    fun u v p hp => middleBounds_covers fitsWidth fitsHeight held hp⟩

/-- A pixel that a layer shows gets between the margins. -/
theorem covers_of_layerPixel? (hb : c.bounds = .ok b) (short : c.ShortFrames)
    {layer : Slot × Sheet} (mem : layer ∈ c.layers) {u v : Int} {p : Pixel}
    (hp : c.layerPixel? layer u v = some p) :
    (middleBounds b width height).Covers ((c.middlePlace b width height layer.1).1 + u)
      ((c.middlePlace b width height layer.1).2 + v) := by
  obtain ⟨r, hr, -, -, covers⟩ := layer_in_middle fitsWidth fitsHeight hb short layer mem
  unfold layerPixel? at hp
  rw [hr, Option.bind_some] at hp
  exact covers u v p hp

/-- So no layer has a pixel around the bounds. -/
theorem filterMap_layerPixel?_eq_nil (hb : c.bounds = .ok b) (short : c.ShortFrames) {x y : Int}
    (outside : ¬ (middleBounds b width height).Covers x y) :
    (c.layers.filterMap fun layer =>
      c.layerPixel? layer (x - (c.middlePlace b width height layer.1).1)
        (y - (c.middlePlace b width height layer.1).2)) = [] := by
  rw [List.filterMap_eq_nil_iff]
  intro layer mem
  rw [Option.eq_none_iff_forall_ne_some]
  intro p hp
  apply outside
  have covered := covers_of_layerPixel? fitsWidth fitsHeight hb short mem hp
  rwa [Int.add_comm, Int.sub_add_cancel, Int.add_comm, Int.sub_add_cancel] at covered

theorem exists_place_of_covers {x y : Int} (h : (middleBounds b width height).Covers x y) :
    ∃ i < width.toNat, ∃ j < height.toNat, (i : Int) = x ∧ (j : Int) = y := by
  have inWidth : margin width.toNat b.width + b.width ≤ width.toNat :=
    fitsWidth.margin_add_span_le
  have inHeight : margin height.toNat b.height + b.height ≤ height.toNat :=
    fitsHeight.margin_add_span_le
  obtain ⟨column, row⟩ := h
  unfold middleBounds at column row
  simp only at column row
  exact ⟨x.toNat, by omega, y.toNat, by omega, by omega, by omega⟩

end Middle

/-! ## The drawing -/

/-- A drawing that shows all of a character in the middle of a transparent canvas. -/
structure InMiddle (c : Character) (b : Bounds) (width height : UInt32) (d : Drawing) : Prop where
  complete : d.failure = none
  /-- The size of the bounds is not cut off. -/
  size : (b.width : Int) = b.right - b.left ∧ (b.height : Int) = b.bottom - b.top
  /-- The origin is not clamped. -/
  origin : middleOrigin b width height =
    (margin width.toNat b.width - b.left, margin height.toNat b.height - b.top)
  /-- The rectangles of the layers are not clamped. -/
  rectangles : ∀ layer ∈ c.layers, ∀ r, c.layerRegion? layer = some r →
    layerBounds (c.offsetFor layer.1) r = exactBounds (c.offsetFor layer.1) r
  /-- The places of the layers are not clamped. -/
  places : ∀ layer ∈ c.layers,
    c.placeFor layer.1 (middleOrigin b width height).1 (middleOrigin b width height).2 =
      c.middlePlace b width height layer.1
  /-- Every pixel of a layer gets to a place on the canvas. -/
  lands : ∀ layer ∈ c.layers, ∀ u v p, c.layerPixel? layer u v = some p →
    ∃ x < width.toNat, ∃ y < height.toNat,
      (x : Int) = (c.middlePlace b width height layer.1).1 + u ∧
        (y : Int) = (c.middlePlace b width height layer.1).2 + v
  /-- Every place on the canvas shows the pixels that get there, one over the other. -/
  blended : ∀ x < width.toNat, ∀ y < height.toNat, d.surface.get? x y =
    some ((c.layers.filterMap fun layer =>
      c.layerPixel? layer (x - (c.middlePlace b width height layer.1).1)
        (y - (c.middlePlace b width height layer.1).2)).foldl Pixel.blend .transparent)
  /-- Around the bounds the canvas stays transparent. -/
  around : ∀ x < width.toNat, ∀ y < height.toNat, ¬ (middleBounds b width height).Covers x y →
    d.surface.get? x y = some .transparent

/-- **Nothing is lost in the middle of a canvas.** -/
theorem drawAt_centered (reachable : Reachable c) (hb : c.bounds = .ok b) (short : c.ShortFrames)
    {canvas : Bitmap} (hcanvas : Canvas.blank width height = .ok canvas)
    (hwidth : b.width ≤ width.toNat) (hheight : b.height ≤ height.toNat) :
    c.InMiddle b width height (c.drawAt canvas (centered width.toNat b.width b.left)
      (centered height.toNat b.height b.top)) := by
  obtain ⟨fitsWidth, fitsHeight⟩ := fits_of_bounds reachable hb short hcanvas hwidth hheight
  obtain ⟨-, -, rfl⟩ := Canvas.blank_eq_ok.1 hcanvas
  obtain ⟨complete, drawn⟩ := drawAt_of_complete (complete_of_bounds hb)
    (.filled width height .transparent) (middleOrigin b width height).1
    (middleOrigin b width height).2
  have middle := layer_in_middle fitsWidth fitsHeight hb short
  have places : ∀ layer ∈ c.layers,
      c.placeFor layer.1 (middleOrigin b width height).1 (middleOrigin b width height).2 =
        c.middlePlace b width height layer.1 := by
    intro layer mem
    obtain ⟨-, -, -, place, -⟩ := middle layer mem
    exact place
  have blended : ∀ x < width.toNat, ∀ y < height.toNat,
      (c.drawAt (.filled width height .transparent) (middleOrigin b width height).1
        (middleOrigin b width height).2).surface.get? x y =
      some ((c.layers.filterMap fun layer =>
        c.layerPixel? layer (x - (c.middlePlace b width height layer.1).1)
          (y - (c.middlePlace b width height layer.1).2)).foldl Pixel.blend .transparent) := by
    intro x hx y hy
    rw [drawn, Bitmap.get?_filled, if_pos ⟨hx, hy⟩, Option.map_some]
    unfold pixelsAt
    rw [List.filterMap_congr fun layer mem => by rw [places layer mem]]
  refine ⟨complete, ⟨fitsWidth.span_eq, fitsHeight.span_eq⟩,
    Prod.ext fitsWidth.centered_eq fitsHeight.centered_eq, ?_, places, ?_, blended, ?_⟩
  · intro layer mem r hr
    obtain ⟨r', hr', rectangle, -⟩ := middle layer mem
    cases hr.symm.trans hr'
    exact rectangle
  · intro layer mem u v p hp
    exact exists_place_of_covers fitsWidth fitsHeight
      (covers_of_layerPixel? fitsWidth fitsHeight hb short mem hp)
  · intro x hx y hy outside
    have nothing := filterMap_layerPixel?_eq_nil fitsWidth fitsHeight hb short outside
    exact (blended x hx y hy).trans (by rw [nothing]; rfl)

/-- An identity whose head is moved by one pixel to the right and two upwards. -/
def leaning : Identity where
  idle := "idle"
  armIdle := "idle"
  headOffset := ⟨.ofNat 1, (Binary.ofNat 2).neg⟩

def tiles : Atlas :=
  (Atlas.addRect {} "idle" ⟨0, 0, 2, 2⟩).addAlias "normal" "idle"

/-- The columns of each row of a bitmap that show a given pixel. -/
def columnsShowing (b : Bitmap) (p : Pixel) : List (List Nat) :=
  (List.range b.height.toNat).map fun y =>
    (List.range b.width.toNat).filter fun x => b.get? x y = some p

theorem drawAt_centered_leaning :
    ∃ c, inOnePicture leaning (.filled 2 2 ⟨4, 4, 4, 255⟩) tiles = .ok c ∧
      c.InMiddle ⟨0, -2, 3, 2⟩ 8 4 (c.drawAt (.filled 8 4 .transparent) 2 2) ∧
      columnsShowing (c.drawAt (.filled 8 4 .transparent) 2 2).surface ⟨4, 4, 4, 255⟩ =
        [[3, 4], [3, 4], [2, 3], [2, 3]] := by
  have run : ((inOnePicture leaning (.filled 2 2 ⟨4, 4, 4, 255⟩) tiles).toOption.map fun c =>
      (c.bounds.toOption, decide c.ShortFrames,
        columnsShowing (c.drawAt (.filled 8 4 .transparent) 2 2).surface ⟨4, 4, 4, 255⟩)) =
      some (some ⟨0, -2, 3, 2⟩, true, [[3, 4], [3, 4], [2, 3], [2, 3]]) := by
    decide +kernel
  obtain ⟨c, hc, heq⟩ := Option.map_eq_some_iff.1 run
  simp only [Prod.mk.injEq, decide_eq_true_eq] at heq
  obtain ⟨hb, short, shown⟩ := heq
  have ok := Error.eq_ok_of_toOption hc
  exact ⟨c, ok, drawAt_centered (reachable_inOnePicture ok) (Error.eq_ok_of_toOption hb) short
    (Canvas.blank_eq_ok.2 ⟨by decide, by decide, rfl⟩) (by decide) (by decide), shown⟩

end Character

end Paperdoll
