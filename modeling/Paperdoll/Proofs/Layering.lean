import Mathlib.Data.List.TakeWhile
import Paperdoll.Character
import Paperdoll.Proofs.Imprint

/-!
# Layers: what a character leaves on a surface, and the bounds of it

Drawing goes over the layers from back to front, and so does the computation of the bounds. Both
stop at the first layer that lacks its frame.

**Theorem (`drawLayers_spec`).** Drawing fails with the first layer that lacks its frame. Every
place on the surface shows its old pixel under those that the layers before it put there
(`pixelsAt`), one over the other.

**Theorem (`bounds_eq_ok`).** If there are bounds, each layer has its frame and the bounds hold the
rectangle of the layer.

Both are inductions on the layers, with `get?_drawRegion` for one layer of the first and
`Bounds.Holds` as the invariant of the second.
-/

namespace Paperdoll.Character

variable {c : Character} {layers : List (Slot × Sheet)}

/-! ## Layers -/

theorem mem_layers {layer : Slot × Sheet} :
    layer ∈ c.layers ↔ c.sheets.get layer.1 = some layer.2 := by
  obtain ⟨slot, sheet⟩ := layer
  unfold layers
  rw [List.mem_filterMap]
  constructor
  · rintro ⟨other, -, h⟩
    obtain ⟨_, hget, heq⟩ := Option.map_eq_some_iff.1 h
    cases heq
    exact hget
  · intro hget
    refine ⟨slot, Slot.mem_drawOrder slot, ?_⟩
    rw [show c.sheets.get slot = some sheet from hget]
    rfl

theorem offsetFor_bounds (c : Character) (slot : Slot) :
    (-2 ^ 31 ≤ (c.offsetFor slot).1 ∧ (c.offsetFor slot).1 ≤ 2 ^ 31 - 1) ∧
      -2 ^ 31 ≤ (c.offsetFor slot).2 ∧ (c.offsetFor slot).2 ≤ 2 ^ 31 - 1 := by
  unfold offsetFor
  split
  next => exact ⟨wholePixels_bounds _, wholePixels_bounds _⟩
  next =>
    split
    next => exact ⟨wholePixels_bounds _, wholePixels_bounds _⟩
    next => decide

/-! ## The pixels of a layer -/

def layerRegion? (c : Character) (layer : Slot × Sheet) : Option Region :=
  layer.2.frames.get? (c.frameFor layer.1)

/-- The pixel in column `u` and row `v` of the frame that a layer shows. -/
def layerPixel? (c : Character) (layer : Slot × Sheet) (u v : Int) : Option Pixel :=
  (c.layerRegion? layer).bind fun r => layer.2.pixelAt? r u v

/-- The pixels that layers put at `(i, j)`, from back to front, when the origin of the character
is at `(x, y)`. -/
def pixelsAt (c : Character) (x y i j : Int) (layers : List (Slot × Sheet)) : List Pixel :=
  layers.filterMap fun layer =>
    c.layerPixel? layer (i - (c.placeFor layer.1 x y).1) (j - (c.placeFor layer.1 x y).2)

/-! ## Drawing -/

theorem drawLayers_nil (c : Character) (x y : Int) (surface : Bitmap) :
    c.drawLayers x y surface [] = { surface } := rfl

theorem drawLayers_cons (c : Character) (x y : Int) (surface : Bitmap) (layer : Slot × Sheet)
    (rest : List (Slot × Sheet)) :
    c.drawLayers x y surface (layer :: rest) =
      match c.layerRegion? layer with
      | none => { surface, failure := some (.frameNotFound (c.frameFor layer.1)) }
      | some r => c.drawLayers x y (layer.2.drawRegion surface r
          (c.placeFor layer.1 x y).1 (c.placeFor layer.1 x y).2) rest := by
  obtain ⟨slot, sheet⟩ := layer
  rw [drawLayers]
  unfold layerRegion? FrameTable.require
  cases sheet.frames.get? (c.frameFor slot) <;> rfl

/-- **What drawing layers leaves, and when it fails.** -/
theorem drawLayers_spec (c : Character) (x y : Int) (surface : Bitmap)
    (layers : List (Slot × Sheet)) :
    (c.drawLayers x y surface layers).failure =
        (layers.find? fun layer => (c.layerRegion? layer).isNone).map
          (fun layer => .frameNotFound (c.frameFor layer.1)) ∧
      ∀ i j : Nat, (c.drawLayers x y surface layers).surface.get? i j =
        (surface.get? i j).map fun p =>
          (c.pixelsAt x y i j
            (layers.takeWhile fun layer => (c.layerRegion? layer).isSome)).foldl Pixel.blend p := by
  induction layers generalizing surface with
  | nil =>
    refine ⟨rfl, fun i j => ?_⟩
    rw [drawLayers_nil]
    cases surface.get? i j <;> rfl
  | cons layer rest ih =>
    rw [drawLayers_cons]
    cases hr : c.layerRegion? layer with
    | none =>
      rw [List.find?_cons_of_pos (by rw [hr]; rfl), List.takeWhile_cons_of_neg (by simp [hr])]
      refine ⟨rfl, fun i j => ?_⟩
      show surface.get? i j = _
      cases surface.get? i j <;> rfl
    | some r =>
      rw [List.find?_cons_of_neg (by simp [hr]), List.takeWhile_cons_of_pos (by rw [hr]; rfl)]
      refine ⟨(ih _).1, fun i j => ?_⟩
      -- what the region leaves here lies under the layers still to come
      simp only [(ih _).2 i j, Sheet.get?_drawRegion, Option.map_map, pixelsAt,
        List.filterMap_cons, layerPixel?, hr, Option.bind_some]
      congr 1
      funext p
      simp only [Function.comp_apply]
      cases layer.2.pixelAt? r (i - (c.placeFor layer.1 x y).1)
        (j - (c.placeFor layer.1 x y).2) <;> rfl

/-- Drawing when no frame is missing. -/
theorem drawAt_of_complete (complete : ∀ layer ∈ c.layers, (c.layerRegion? layer).isSome)
    (surface : Bitmap) (x y : Int) :
    (c.drawAt surface x y).failure = none ∧
      ∀ i j : Nat, (c.drawAt surface x y).surface.get? i j =
        (surface.get? i j).map fun p => (c.pixelsAt x y i j c.layers).foldl Pixel.blend p := by
  obtain ⟨failure, shown⟩ := drawLayers_spec c x y surface c.layers
  rw [List.takeWhile_eq_self_iff.2 complete] at shown
  refine ⟨?_, shown⟩
  show (c.drawLayers x y surface c.layers).failure = none
  rw [failure, Option.map_eq_none_iff, List.find?_eq_none]
  intro layer mem
  simpa [Option.isNone_iff_eq_none, Option.isSome_iff_ne_none] using complete layer mem

/-! ## Bounds -/

theorem boundsOver_cons (c : Character) (before : Option Bounds) (layer : Slot × Sheet)
    (rest : List (Slot × Sheet)) :
    c.boundsOver before (layer :: rest) =
      match c.layerRegion? layer with
      | none => .error (.frameNotFound (c.frameFor layer.1))
      | some r => c.boundsOver (some (before.elim (layerBounds (c.offsetFor layer.1) r)
          (·.union (layerBounds (c.offsetFor layer.1) r)))) rest := by
  obtain ⟨slot, sheet⟩ := layer
  rw [boundsOver]
  unfold layerRegion? FrameTable.require
  cases sheet.frames.get? (c.frameFor slot) <;> rfl

/-- A layer has its frame, and the bounds hold the rectangle of the layer. -/
def HeldBy (c : Character) (b : Bounds) (layer : Slot × Sheet) : Prop :=
  ∃ r, c.layerRegion? layer = some r ∧ b.Holds (layerBounds (c.offsetFor layer.1) r)

/-- Widening bounds loses nothing of them. -/
theorem boundsOver_eq_ok {before after : Option Bounds}
    (h : c.boundsOver before layers = .ok after) :
    (∀ layer ∈ layers, ∃ b, after = some b ∧ c.HeldBy b layer) ∧
      ∀ b, before = some b → ∃ b', after = some b' ∧ b'.Holds b := by
  -- the layers seen so far are held because bounds only ever widen
  induction layers generalizing before with
  | nil =>
    cases h
    exact ⟨fun layer mem => absurd mem List.not_mem_nil, fun b hb => ⟨b, hb, .refl b⟩⟩
  | cons layer rest ih =>
    rw [boundsOver_cons] at h
    cases hr : c.layerRegion? layer with
    | none => rw [hr] at h; cases h
    | some r =>
      rw [hr] at h
      obtain ⟨held, widened⟩ := ih h
      obtain ⟨b', rfl, wide⟩ := widened _ rfl
      refine ⟨fun other mem => ?_, fun b hb => ⟨b', rfl, ?_⟩⟩
      · rcases List.mem_cons.1 mem with rfl | mem
        · refine ⟨b', rfl, r, hr, wide.trans ?_⟩
          cases before with
          | none => exact .refl _
          | some b => exact .union_right b _
        · exact held other mem
      · subst hb
        exact wide.trans (.union_left b _)

/-- **What bounds say.** -/
theorem bounds_eq_ok {b : Bounds} (h : c.bounds = .ok b) :
    ∀ layer ∈ c.layers, c.HeldBy b layer := by
  obtain ⟨after, hover, h⟩ := Error.bind_eq_ok.1 h
  cases after with
  | none => cases h
  | some b' =>
    cases h
    intro layer mem
    obtain ⟨_, heq, held⟩ := (boundsOver_eq_ok hover).1 layer mem
    cases heq
    exact held

theorem complete_of_bounds {b : Bounds} (h : c.bounds = .ok b) :
    ∀ layer ∈ c.layers, (c.layerRegion? layer).isSome := by
  intro layer mem
  obtain ⟨r, hr, -⟩ := bounds_eq_ok h layer mem
  rw [hr]
  rfl

end Paperdoll.Character
