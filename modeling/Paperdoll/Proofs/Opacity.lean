import Paperdoll.Proofs.Layering

/-!
# Opacity: what drawing can do to the pixels of a surface

A surface starts transparent, and sheets, parts of sheets, whole characters and single pixels are
drawn on it in any order. Some of these strokes fail halfway.

**Theorem (`paintAll_keeps_clear`).** After every run of strokes a pixel that cannot be seen has no
color either, and no further stroke makes a pixel more transparent. The colors under the invisible
pixels of a sheet make no difference to any of this, whether the sheet came with them or a
recoloring put them there.

A stroke is a long way from the mixing of two pixels, but all it does to a surface is to put pixels
over others: at each place there is a pile of them, perhaps an empty one (`Overlaid`). Strokes that
fail put down what comes before the failure. What a run leaves is thus known place by place from
`Pixel.blend` alone, whose rounding never lowers an alpha (`Pixel.alpha_le_alpha_blend`).
-/

namespace Paperdoll

/-! ## Pixels that cannot be seen -/

namespace Pixel

/-- A pixel that is fully transparent has no color. -/
def Clear (p : Pixel) : Prop :=
  p.alpha = 0 → p = transparent

/-- The pixel without the color that a transparent one hides. -/
def bleach (p : Pixel) : Pixel :=
  if p.alpha = 0 then transparent else p

theorem clear_blend {target : Pixel} (h : target.Clear) (source : Pixel) :
    (target.blend source).Clear := by
  intro unseen
  by_cases hs : source.alpha = 0
  · rw [blend_of_invisible hs] at unseen ⊢
    exact h unseen
  · -- a source that can be seen shows in the mixture
    have covered := (alpha_le_alpha_blend target source).2
    have shown : 0 < source.alpha.toNat := by
      by_contra none
      exact hs (UInt8.toNat_inj.1 (by simpa using none))
    rw [unseen, UInt8.toNat_zero] at covered
    omega

theorem clear_foldl_blend {p : Pixel} (h : p.Clear) (pile : List Pixel) :
    (pile.foldl blend p).Clear := by
  induction pile generalizing p with
  | nil => exact h
  | cons q rest ih => exact ih (clear_blend h q)

theorem blend_bleach (target source : Pixel) :
    target.blend source.bleach = target.blend source := by
  unfold bleach
  split
  next unseen => rw [blend_of_invisible rfl, blend_of_invisible unseen]
  next => rfl

end Pixel

/-! ## Sheets without hidden colors -/

namespace Sheet

def bleach (s : Sheet) : Sheet :=
  { s with pristine := s.pristine.map Pixel.bleach, working := s.working.map Pixel.bleach }

theorem pixelAt?_bleach (s : Sheet) (r : Region) (u v : Int) :
    s.bleach.pixelAt? r u v = (s.pixelAt? r u v).map Pixel.bleach := by
  unfold pixelAt?
  split
  next => exact Bitmap.get?_map Pixel.bleach s.working _ _
  next => rfl

/-- Only what can be seen of a sheet shows on a surface. -/
theorem drawRegion_bleach (s : Sheet) (surface : Bitmap) (r : Region) (dx dy : Int) :
    s.bleach.drawRegion surface r dx dy = s.drawRegion surface r dx dy := by
  obtain ⟨width, height⟩ := s.sides_drawRegion surface r dx dy
  obtain ⟨width', height'⟩ := s.bleach.sides_drawRegion surface r dx dy
  refine Bitmap.ext_get? (width'.trans width.symm) (height'.trans height.symm) fun x y => ?_
  rw [get?_drawRegion, get?_drawRegion, pixelAt?_bleach]
  congr 1
  funext p
  cases s.pixelAt? r (x - dx) (y - dy) with
  | none => rfl
  | some q => exact Pixel.blend_bleach p q

end Sheet

namespace Character

variable {c : Character}

def bleach (c : Character) : Character :=
  { c with sheets := c.sheets.map (Option.map Sheet.bleach) }

theorem layers_bleach (c : Character) :
    c.bleach.layers = c.layers.map fun layer => (layer.1, layer.2.bleach) := by
  unfold layers
  rw [List.map_filterMap]
  congr 1
  funext slot
  show (((c.sheets.map (Option.map Sheet.bleach)).get slot).map _) = _
  rw [Slotted.get_map, Option.map_map, Option.map_map]
  rfl

theorem drawLayers_bleach (x y : Int) (surface : Bitmap) (layers : List (Slot × Sheet)) :
    (c.bleach.drawLayers x y surface (layers.map fun layer => (layer.1, layer.2.bleach))) =
      c.drawLayers x y surface layers := by
  induction layers generalizing surface with
  | nil => rfl
  | cons layer rest ih =>
    have region : c.bleach.layerRegion? (layer.1, layer.2.bleach) = c.layerRegion? layer := rfl
    rw [List.map_cons, drawLayers_cons, drawLayers_cons, region]
    cases c.layerRegion? layer with
    | none => rfl
    | some r =>
      simp only [Sheet.drawRegion_bleach]
      exact ih _

end Character

namespace Bitmap

/-! ## Pixels over others -/

/-- The surface `after` is `before` with a pile of pixels put over each place. -/
structure Overlaid (before after : Bitmap) : Prop where
  width : after.width = before.width
  height : after.height = before.height
  piles : ∃ pile : Nat → Nat → List Pixel, ∀ x y, after.get? x y =
    (before.get? x y).map fun p => (pile x y).foldl Pixel.blend p

variable {a b c : Bitmap}

theorem Overlaid.refl (b : Bitmap) : b.Overlaid b where
  width := rfl
  height := rfl
  piles := ⟨fun _ _ => [], fun x y => by simp⟩

theorem Overlaid.trans (h : a.Overlaid b) (h' : b.Overlaid c) : a.Overlaid c := by
  obtain ⟨below, hbelow⟩ := h.piles
  obtain ⟨above, habove⟩ := h'.piles
  refine ⟨h'.width.trans h.width, h'.height.trans h.height,
    fun x y => below x y ++ above x y, fun x y => ?_⟩
  rw [habove, hbelow, Option.map_map]
  simp only [List.foldl_append]
  rfl

theorem Overlaid.alpha_le {x y : Nat} {p : Pixel} (h : a.Overlaid b) (hp : a.get? x y = some p) :
    ∃ q, b.get? x y = some q ∧ p.alpha ≤ q.alpha := by
  obtain ⟨pile, hpile⟩ := h.piles
  refine ⟨(pile x y).foldl Pixel.blend p, by rw [hpile, hp]; rfl, ?_⟩
  rw [UInt8.le_iff_toNat_le]
  exact (Pixel.alpha_le_alpha_foldl_blend (pile x y) p).1

theorem Overlaid.clear (h : a.Overlaid b) (clear : ∀ x y, ∀ p ∈ a.get? x y, p.Clear) (x y : Nat) :
    ∀ q ∈ b.get? x y, q.Clear := by
  intro q hq
  obtain ⟨pile, hpile⟩ := h.piles
  rw [hpile] at hq
  obtain ⟨p, hp, rfl⟩ := Option.map_eq_some_iff.1 hq
  exact Pixel.clear_foldl_blend (clear x y p hp) (pile x y)

theorem overlaid_blendAt (b : Bitmap) (x y : Nat) (source : Pixel) :
    b.Overlaid (b.blendAt x y source) where
  width := (b.sides_blendAt x y source).1
  height := (b.sides_blendAt x y source).2
  piles := by
    refine ⟨fun i j => if i = x ∧ j = y then [source] else [], fun i j => ?_⟩
    rw [get?_blendAt]
    by_cases here : i = x ∧ j = y
    · simp [here]
    · simp [here]

theorem overlaid_drawRegion (s : Sheet) (b : Bitmap) (r : Region) (dx dy : Int) :
    b.Overlaid (s.drawRegion b r dx dy) where
  width := (s.sides_drawRegion b r dx dy).1
  height := (s.sides_drawRegion b r dx dy).2
  piles := by
    refine ⟨fun x y => (s.pixelAt? r (x - dx) (y - dy)).toList, fun x y => ?_⟩
    rw [Sheet.get?_drawRegion]
    congr 1
    funext p
    simp only
    cases s.pixelAt? r (x - dx) (y - dy) <;> rfl

theorem overlaid_drawLayers (c : Character) (x y : Int) (b : Bitmap)
    (layers : List (Slot × Sheet)) :
    b.Overlaid (c.drawLayers x y b layers).surface := by
  induction layers generalizing b with
  | nil => exact .refl b
  | cons layer rest ih =>
    rw [Character.drawLayers_cons]
    cases c.layerRegion? layer with
    | none => exact .refl b
    | some r => exact (overlaid_drawRegion layer.2 b r _ _).trans (ih _)

/-! ## Strokes -/

/-- A call that draws on a surface. -/
inductive Stroke
  | frame (s : Sheet) (name : String) (dx dy : Int)
  | region (s : Sheet) (r : Region) (dx dy : Int)
  | character (c : Character) (x y : Int)
  | pixel (x y : Nat) (source : Pixel)

/-- The surface that a stroke leaves behind, also by failing. -/
def paint (b : Bitmap) : Stroke → Bitmap
  | .frame s name dx dy =>
    match s.draw b name dx dy with
    | .ok drawn => drawn
    | .error _ => b
  | .region s r dx dy => s.drawRegion b r dx dy
  | .character c x y => (c.drawAt b x y).surface
  | .pixel x y source => b.blendAt x y source

def paintAll (b : Bitmap) (strokes : List Stroke) : Bitmap :=
  strokes.foldl paint b

/-- A frame is drawn as its region, and a missing one not at all. -/
theorem paint_frame (s : Sheet) (b : Bitmap) (name : String) (dx dy : Int) :
    b.paint (.frame s name dx dy) =
      (s.frames.get? name).elim b fun r => s.drawRegion b r dx dy := by
  show (match s.draw b name dx dy with | .ok drawn => drawn | .error _ => b) = _
  unfold Sheet.draw FrameTable.require
  cases s.frames.get? name <;> rfl

/-- **One stroke** puts pixels over others. -/
theorem overlaid_paint (b : Bitmap) (stroke : Stroke) : b.Overlaid (b.paint stroke) := by
  cases stroke with
  | frame s name dx dy =>
    rw [paint_frame]
    cases s.frames.get? name with
    | none => exact .refl b
    | some r => exact overlaid_drawRegion s b r dx dy
  | region s r dx dy => exact overlaid_drawRegion s b r dx dy
  | character c x y => exact overlaid_drawLayers c x y b c.layers
  | pixel x y source => exact overlaid_blendAt b x y source

/-- **A run of strokes** puts pixels over others. -/
theorem overlaid_paintAll (b : Bitmap) (strokes : List Stroke) :
    b.Overlaid (b.paintAll strokes) := by
  induction strokes generalizing b with
  | nil => exact .refl b
  | cons stroke rest ih => exact (overlaid_paint b stroke).trans (ih _)

theorem paintAll_append (b : Bitmap) (strokes more : List Stroke) :
    b.paintAll (strokes ++ more) = (b.paintAll strokes).paintAll more :=
  List.foldl_append

def Stroke.bleach : Stroke → Stroke
  | .frame s name dx dy => .frame s.bleach name dx dy
  | .region s r dx dy => .region s.bleach r dx dy
  | .character c x y => .character c.bleach x y
  | .pixel x y source => .pixel x y source.bleach

theorem blendAt_bleach (b : Bitmap) (x y : Nat) (source : Pixel) :
    b.blendAt x y source.bleach = b.blendAt x y source := by
  unfold blendAt
  simp only [Pixel.blend_bleach]

theorem paint_bleach (b : Bitmap) (stroke : Stroke) : b.paint stroke.bleach = b.paint stroke := by
  cases stroke with
  | frame s name dx dy =>
    have frames : s.bleach.frames = s.frames := rfl
    show b.paint (.frame s.bleach name dx dy) = _
    rw [paint_frame, paint_frame, frames]
    simp only [Sheet.drawRegion_bleach]
  | region s r dx dy => exact s.drawRegion_bleach b r dx dy
  | character c x y =>
    show (c.bleach.drawLayers x y b c.bleach.layers).surface = _
    rw [Character.layers_bleach, Character.drawLayers_bleach]
    rfl
  | pixel x y source => exact b.blendAt_bleach x y source

theorem paintAll_bleach (b : Bitmap) (strokes : List Stroke) :
    b.paintAll (strokes.map Stroke.bleach) = b.paintAll strokes := by
  unfold paintAll
  rw [List.foldl_map]
  simp only [paint_bleach]

/-! ## Every run -/

/-- A surface on which nothing has been drawn: a new canvas, or one that has been cleared. -/
def Fresh (b : Bitmap) : Prop :=
  (∃ width height, Canvas.blank width height = .ok b) ∨ ∃ used : Bitmap, b = used.clear

theorem Fresh.eq_filled (h : b.Fresh) : b = filled b.width b.height .transparent := by
  rcases h with ⟨width, height, h⟩ | ⟨used, rfl⟩
  · obtain ⟨-, -, rfl⟩ := Canvas.blank_eq_ok.1 h
    rfl
  · rfl

theorem Fresh.clear (h : b.Fresh) (x y : Nat) : ∀ p ∈ b.get? x y, p.Clear := by
  intro p hp
  rw [h.eq_filled, get?_filled, Option.mem_def, Option.ite_none_right_eq_some,
    Option.some.injEq] at hp
  obtain ⟨-, rfl⟩ := hp
  exact fun _ => rfl

/-- **What cannot be seen on a surface has no color, and nothing on it gets more transparent**,
whatever is drawn on it. -/
theorem paintAll_keeps_clear (fresh : b.Fresh) (strokes : List Stroke) :
    (∀ x y p, (b.paintAll strokes).get? x y = some p → p.alpha = 0 → p = ⟨0, 0, 0, 0⟩) ∧
    (∀ stroke x y p, (b.paintAll strokes).get? x y = some p →
      ∃ q, (b.paintAll (strokes ++ [stroke])).get? x y = some q ∧ p.alpha ≤ q.alpha) ∧
    b.paintAll (strokes.map Stroke.bleach) = b.paintAll strokes := by
  refine ⟨?_, ?_, paintAll_bleach b strokes⟩
  · intro x y p hp
    exact (overlaid_paintAll b strokes).clear fresh.clear x y p hp
  · intro stroke x y p hp
    rw [paintAll_append]
    exact (overlaid_paint _ stroke).alpha_le hp

/-- A red that cannot be seen, where the sheet came with nothing, beside a veil of gray. -/
def hiddenRed : Sheet where
  pristine := ⟨2, 1, #[.transparent, ⟨9, 9, 9, 1⟩], rfl⟩
  working := ⟨2, 1, #[⟨255, 0, 0, 0⟩, ⟨9, 9, 9, 1⟩], rfl⟩
  frames := FrameTable.empty.insert "idle" ⟨0, 0, 2, 1⟩
  palette := .ofList [⟨9, 9, 9⟩]

def headless : Character where
  identity := { idle := "idle", armIdle := "idle" }
  sheets := ((Slotted.fill none).set .body (some hiddenRed)).set .head (some hiddenRed)
  applied := .fill none
  state := idleState

/-- Strokes of every kind; two of them fail, one of these halfway. -/
def veils : List Stroke :=
  [.frame hiddenRed "idle" 0 0, .frame hiddenRed "normal" 1 0, .region hiddenRed ⟨0, 0, 1, 1⟩ 0 0,
    .character headless 0 1, .pixel 1 0 ⟨200, 0, 0, 128⟩]

theorem paintAll_keeps_clear_veils :
    ∃ b, Canvas.blank 2 2 = .ok b ∧
      (b.paintAll veils).get? 0 0 = some ⟨0, 0, 0, 0⟩ ∧
      (b.paintAll veils).get? 1 1 = some ⟨9, 9, 9, 1⟩ ∧
      (∀ x y p, (b.paintAll veils).get? x y = some p → p.alpha = 0 → p = ⟨0, 0, 0, 0⟩) ∧
      (∃ q, (b.paintAll (veils ++ [.frame hiddenRed "idle" 0 1])).get? 1 1 = some q ∧
        1 ≤ q.alpha) ∧
      b.paintAll (veils.map Stroke.bleach) = b.paintAll veils := by
  have blank : Canvas.blank 2 2 = .ok (filled 2 2 .transparent) := rfl
  have corner : ((filled 2 2 .transparent).paintAll veils).get? 1 1 = some ⟨9, 9, 9, 1⟩ := by
    decide +kernel
  obtain ⟨clear, covered, bleached⟩ := paintAll_keeps_clear (.inl ⟨2, 2, blank⟩) veils
  exact ⟨_, blank, by decide +kernel, corner, clear,
    covered (.frame hiddenRed "idle" 0 1) 1 1 _ corner, bleached⟩

end Bitmap

end Paperdoll
