import Paperdoll.Proofs.Layering
import Paperdoll.Proofs.Outfit

/-!
# Cover: whether bounds hold all that is drawn

Bounds add the size of a frame to its place as a signed number. A frame of `2 ^ 31` pixels or more
counts as one of negative size, but what the sheet has of it is drawn all the same.

**Theorem (`bounds_cover_iff`).** The bounds of a character hold every pixel that drawing it
changes, on any canvas, if and only if they happen to hold the pixels of such frames
(`HoldOverlong`). A character without them is always held.

A place changes if some layer has a pixel there that can be seen (`exists_shows_of_changed`); on a
transparent canvas also only if (`changed_of_shows`). For a frame of less than `2 ^ 31` pixels the
sum is exact or stops beyond every canvas, so the rectangle of the layer holds all its pixels.
-/

namespace Paperdoll.Character

variable {c : Character} {b : Bounds}

/-! ## Pixels that can be seen -/

/-- The frame of a layer has a pixel that is not fully transparent at `(x, y)`, when the origin of
the character is in the corner of the surface. -/
def Shows (c : Character) (layer : Slot × Sheet) (r : Region) (x y : Int) : Prop :=
  c.layerRegion? layer = some r ∧ ∃ p, p.alpha ≠ 0 ∧
    layer.2.pixelAt? r (x - (c.offsetFor layer.1).1) (y - (c.offsetFor layer.1).2) = some p

theorem placeFor_zero (c : Character) (slot : Slot) : c.placeFor slot 0 0 = c.offsetFor slot := by
  obtain ⟨column, row⟩ := offsetFor_bounds c slot
  unfold placeFor
  simp only [Int.zero_add]
  rw [clamped_eq_self column.1 column.2, clamped_eq_self row.1 row.2]

theorem mem_pixelsAt_zero {x y : Int} {p : Pixel} :
    p ∈ c.pixelsAt 0 0 x y c.layers ↔ ∃ layer ∈ c.layers, ∃ r, c.layerRegion? layer = some r ∧
      layer.2.pixelAt? r (x - (c.offsetFor layer.1).1) (y - (c.offsetFor layer.1).2) = some p := by
  unfold pixelsAt layerPixel?
  simp only [List.mem_filterMap, placeFor_zero, Option.bind_eq_some_iff]

/-- A place that is changed shows a pixel of some layer. -/
theorem exists_shows_of_changed (complete : ∀ layer ∈ c.layers, (c.layerRegion? layer).isSome)
    {surface : Bitmap} {x y : Nat} (h : (c.draw surface).surface.get? x y ≠ surface.get? x y) :
    ∃ layer ∈ c.layers, ∃ r, c.Shows layer r x y := by
  apply Classical.byContradiction
  intro none
  apply h
  unfold draw
  rw [(drawAt_of_complete complete surface 0 0).2]
  have invisible : ∀ q ∈ c.pixelsAt 0 0 x y c.layers, q.alpha = 0 := by
    intro q mem
    obtain ⟨layer, hl, r, hr, hq⟩ := mem_pixelsAt_zero.1 mem
    apply Classical.byContradiction
    intro seen
    exact none ⟨layer, hl, r, hr, q, seen, hq⟩
  simp only [Pixel.foldl_blend_of_invisible invisible]
  cases surface.get? x y <;> rfl

/-- On a transparent surface, a place is changed where a layer shows a pixel. -/
theorem changed_of_shows (complete : ∀ layer ∈ c.layers, (c.layerRegion? layer).isSome)
    {surface : Bitmap} {x y : Nat} (clear : surface.get? x y = some .transparent)
    {layer : Slot × Sheet} (mem : layer ∈ c.layers) {r : Region} (h : c.Shows layer r x y) :
    (c.draw surface).surface.get? x y ≠ surface.get? x y := by
  obtain ⟨hr, p, seen, hp⟩ := h
  have above := (Pixel.alpha_le_alpha_foldl_blend (c.pixelsAt 0 0 x y c.layers) .transparent).2 p
    (mem_pixelsAt_zero.2 ⟨layer, mem, r, hr, hp⟩)
  unfold draw
  rw [(drawAt_of_complete complete surface 0 0).2, clear, Option.map_some]
  intro same
  rw [Option.some.inj same] at above
  apply seen
  rw [← UInt8.toNat_inj]
  exact Nat.le_zero.1 above

/-! ## Pixels that the bounds hold -/

/-- The bounds hold what can be seen of overlong frames on the largest canvas. -/
def HoldOverlong (c : Character) (b : Bounds) : Prop :=
  ∀ layer ∈ c.layers, ∀ r, ∀ x < maxCanvasSide, ∀ y < maxCanvasSide, c.Shows layer r x y →
    (2 ^ 31 ≤ r.width.toNat → x < b.right) ∧ (2 ^ 31 ≤ r.height.toNat → y < b.bottom)

/-- One direction: a stretch that bounds hold holds its places on a canvas. -/
theorem between_of_held {low high start place : Int} {length : Nat} (left : low ≤ start)
    (right : clamped (start + signed length) ≤ high)
    (inside : 0 ≤ place - start ∧ place - start < length) (near : place < maxCanvasSide)
    (long : 2 ^ 31 ≤ length → place < high) : low ≤ place ∧ place < high := by
  refine ⟨by omega, ?_⟩
  by_cases short : length < 2 ^ 31
  · -- The sum is exact, or it stops beyond the canvas.
    rw [signed_eq_self short] at right
    unfold clamped at right
    unfold maxCanvasSide at near
    omega
  · exact long (by omega)

theorem covers_of_shows (hb : c.bounds = .ok b) (long : c.HoldOverlong b)
    {layer : Slot × Sheet} (mem : layer ∈ c.layers) {r : Region} {x y : Nat}
    (hx : x < maxCanvasSide) (hy : y < maxCanvasSide) (h : c.Shows layer r x y) :
    b.Covers x y := by
  obtain ⟨wide, high⟩ := long layer mem r x hx y hy h
  obtain ⟨hr, p, -, hp⟩ := h
  obtain ⟨r', hr', holds⟩ := bounds_eq_ok hb layer mem
  cases hr.symm.trans hr'
  obtain ⟨column, row⟩ := Sheet.lt_of_pixelAt? hp
  exact ⟨between_of_held holds.left holds.right column (Int.ofNat_lt.2 hx) wide,
    between_of_held holds.top holds.bottom row (Int.ofNat_lt.2 hy) high⟩

def largestCanvas : Bitmap :=
  .filled 16384 16384 .transparent

/-- **When the bounds hold all that is drawn.** -/
theorem bounds_cover_iff (hb : c.bounds = .ok b) :
    (∀ surface : Bitmap, surface.IsCanvas → ∀ x y : Nat,
        (c.draw surface).surface.get? x y ≠ surface.get? x y → b.Covers x y) ↔
      c.HoldOverlong b := by
  have complete := complete_of_bounds hb
  constructor
  · intro covers layer mem r x hx y hy shows'
    -- on the largest canvas nothing is hidden by what was there before
    have clear : largestCanvas.get? x y = some .transparent := by
      unfold largestCanvas
      rw [Bitmap.get?_filled, if_pos ⟨hx, hy⟩]
    have canvas : largestCanvas.IsCanvas := Bitmap.isCanvas_filled (by decide) (by decide)
    obtain ⟨column, row⟩ := covers largestCanvas canvas x y
      (changed_of_shows complete clear mem shows')
    exact ⟨fun _ => column.2, fun _ => row.2⟩
  · intro long surface canvas x y changed
    obtain ⟨layer, mem, r, shows'⟩ := exists_shows_of_changed complete changed
    have inside : ¬ (surface.width.toNat ≤ x ∨ surface.height.toNat ≤ y) := by
      rw [← Bitmap.get?_eq_none_iff]
      intro outside
      apply changed
      unfold draw
      rw [(drawAt_of_complete complete surface 0 0).2, outside]
      rfl
    obtain ⟨width, height⟩ := canvas.sides_le
    exact covers_of_shows hb long mem (by omega) (by omega) shows'

def dot : Bitmap :=
  .filled 1 1 ⟨4, 4, 4, 255⟩

/-- Frames of `2 ^ 31` pixels in one row. -/
def planks : Atlas :=
  (Atlas.addRect {} "idle" ⟨0, 0, 2147483648, 1⟩).addAlias "normal" "idle"

/-- The character in planks, its bounds, and what it leaves on a canvas of one pixel. -/
theorem inOnePicture_planks :
    ∃ c, inOnePicture { idle := "idle", armIdle := "idle" } dot planks = .ok c ∧
      c.bounds = .ok ⟨0, 0, -2147483648, 1⟩ ∧
      (c.draw (.filled 1 1 .transparent)).surface.get? 0 0 = some ⟨4, 4, 4, 255⟩ := by
  have run : ((inOnePicture { idle := "idle", armIdle := "idle" } dot planks).toOption.map fun c =>
      (c.bounds.toOption, (c.draw (.filled 1 1 .transparent)).surface.get? 0 0)) =
      some (some ⟨0, 0, -2147483648, 1⟩, some ⟨4, 4, 4, 255⟩) := by
    decide +kernel
  obtain ⟨c, hc, heq⟩ := Option.map_eq_some_iff.1 run
  obtain ⟨hb, drawn⟩ := Prod.mk.inj heq
  exact ⟨c, Error.eq_ok_of_toOption hc, Error.eq_ok_of_toOption hb, drawn⟩

/-- The bounds of a character that can come about do not always hold what is drawn. -/
theorem exists_drawn_outside_bounds :
    ∃ c b, Reachable c ∧ c.bounds = .ok b ∧ ∃ surface : Bitmap, surface.IsCanvas ∧
      ∃ x y : Nat, (c.draw surface).surface.get? x y ≠ surface.get? x y ∧ ¬ b.Covers x y := by
  obtain ⟨c, hc, hb, drawn⟩ := inOnePicture_planks
  refine ⟨c, _, reachable_inOnePicture hc, hb, .filled 1 1 .transparent, ?_, 0, 0, ?_, ?_⟩
  · exact Bitmap.isCanvas_filled (by decide) (by decide)
  · rw [drawn]
    decide
  · unfold Bounds.Covers
    decide

theorem bounds_cover_iff_planks :
    ∃ (c : Character) (b : Bounds), c.bounds = .ok b ∧
      ((∀ surface : Bitmap, surface.IsCanvas → ∀ x y : Nat,
        (c.draw surface).surface.get? x y ≠ surface.get? x y → b.Covers x y) ↔
        c.HoldOverlong b) ∧ ¬ c.HoldOverlong b := by
  obtain ⟨c, -, hb, drawn⟩ := inOnePicture_planks
  have when := bounds_cover_iff hb
  refine ⟨c, _, hb, when, fun held => ?_⟩
  have covered := when.2 held (.filled 1 1 .transparent)
    (Bitmap.isCanvas_filled (by decide) (by decide)) 0 0 (by rw [drawn]; decide)
  exact absurd covered.1.2 (by decide)

end Paperdoll.Character
