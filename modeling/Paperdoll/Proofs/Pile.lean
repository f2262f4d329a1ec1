import Mathlib.Data.List.Forall2
import Paperdoll.Proofs.Layering
import Paperdoll.Proofs.Outfit

/-!
# Piles: a character seen from one place

Drawing goes over the layers, and over the rows and columns of each of them. Seen from a single
place on the surface, nothing is left of these loops but a pile of pixels.

**Theorem (`drawAt_eq_pile`).** Let a character have all the frames it shows. After drawing it, each
place on the surface shows its old pixel under a pile with one pixel from every layer that covers
the place, from back to front. A layer covers the places that its frame and its sheet both reach,
counted without regard to the range of the numbers from where the layer is put.

The pile is `pixelsAt`; what remains after `drawAt_of_complete` is that a layer has a pixel in it
exactly if it covers the place (`isSome_layerPixel?`).
-/

namespace Paperdoll.Character

variable {c : Character}

/-! ## What covers a place -/

/-- The column and the row of its frame that a slot shows at `(i, j)`, when the origin of the
character is at `(x, y)`. -/
def spotFor (c : Character) (slot : Slot) (x y i j : Int) : Int × Int :=
  (i - clamped (x + (c.offsetFor slot).1), j - clamped (y + (c.offsetFor slot).2))

def CoversAt (c : Character) (x y i j : Int) (layer : Slot × Sheet) : Prop :=
  ∃ r ∈ layer.2.frames.get? (c.frameFor layer.1),
    layer.2.Covers r (c.spotFor layer.1 x y i j).1 (c.spotFor layer.1 x y i j).2

instance (c : Character) (x y i j : Int) : DecidablePred (c.CoversAt x y i j) :=
  fun layer => inferInstanceAs (Decidable (∃ r ∈ layer.2.frames.get? (c.frameFor layer.1), _))

/-- What a layer shows at `(i, j)` is a pixel of its sheet in the colors of the moment. -/
def Contributes (c : Character) (x y i j : Int) (layer : Slot × Sheet) (p : Pixel) : Prop :=
  ∃ r ∈ layer.2.frames.get? (c.frameFor layer.1),
    layer.2.working.get? (r.x.toNat + (c.spotFor layer.1 x y i j).1.toNat)
      (r.y.toNat + (c.spotFor layer.1 x y i j).2.toNat) = some p

section Layer

variable {x y i j : Int} {layer : Slot × Sheet}

theorem isSome_layerPixel? (reachable : Reachable c) (mem : layer ∈ c.layers) :
    (c.layerPixel? layer (c.spotFor layer.1 x y i j).1 (c.spotFor layer.1 x y i j).2).isSome ↔
      c.CoversAt x y i j layer := by
  have sides := sides_of_reachable reachable (mem_layers.1 mem)
  unfold layerPixel? layerRegion? CoversAt
  cases layer.2.frames.get? (c.frameFor layer.1) with
  | none => simp
  | some r => simp [Sheet.isSome_pixelAt? sides]

theorem contributes_of_layerPixel? {p : Pixel}
    (h : c.layerPixel? layer (c.spotFor layer.1 x y i j).1 (c.spotFor layer.1 x y i j).2 = some p) :
    c.Contributes x y i j layer p := by
  obtain ⟨r, hr, hp⟩ := Option.bind_eq_some_iff.1 h
  exact ⟨r, hr, Sheet.get?_of_pixelAt? hp⟩

end Layer

/-- A sieve that gives something for some members gives one thing for each of these. -/
theorem forall₂_filterMap {α β : Type} {f : α → Option β} {p : α → Prop} [DecidablePred p]
    {l : List α} (h : ∀ a ∈ l, (f a).isSome ↔ p a) :
    List.Forall₂ (fun a b => f a = some b) (l.filter p) (l.filterMap f) := by
  induction l with
  | nil => exact .nil
  | cons a rest ih =>
    have others := ih fun b mem => h b (List.mem_cons_of_mem a mem)
    have first := h a List.mem_cons_self
    cases hf : f a with
    | none =>
      rw [hf] at first
      rw [List.filter_cons_of_neg (by simpa using first), List.filterMap_cons_none hf]
      exact others
    | some b =>
      rw [hf] at first
      rw [List.filter_cons_of_pos (by simpa using first), List.filterMap_cons_some hf]
      exact .cons hf others

/-! ## The drawing -/

theorem layerRegion?_of_hasFrame
    (complete : ∀ slot sheet, c.sheets.get slot = some sheet → sheet.hasFrame (c.frameFor slot)) :
    ∀ layer ∈ c.layers, (c.layerRegion? layer).isSome := by
  intro layer mem
  unfold layerRegion?
  rw [FrameTable.isSome_get?]
  exact complete layer.1 layer.2 (mem_layers.1 mem)

/-- **Drawing leaves a pile at every place**, with a pixel from each layer that covers the place. -/
theorem drawAt_eq_pile (reachable : Reachable c)
    (complete : ∀ slot sheet, c.sheets.get slot = some sheet → sheet.hasFrame (c.frameFor slot))
    (surface : Bitmap) (x y : Int) :
    (c.drawAt surface x y).failure = none ∧
      ∀ i j : Nat,
        (∃ pile, List.Forall₂ (c.Contributes x y i j) (c.layers.filter (c.CoversAt x y i j)) pile ∧
          (c.drawAt surface x y).surface.get? i j =
            (surface.get? i j).map fun p => pile.foldl Pixel.blend p) ∧
        ((∀ layer ∈ c.layers, ¬ c.CoversAt x y i j layer) →
          (c.drawAt surface x y).surface.get? i j = surface.get? i j) := by
  obtain ⟨failure, drawn⟩ := drawAt_of_complete (layerRegion?_of_hasFrame complete) surface x y
  refine ⟨failure, fun i j => ?_⟩
  have pile : List.Forall₂ (c.Contributes x y i j) (c.layers.filter (c.CoversAt x y i j))
      (c.pixelsAt x y i j c.layers) :=
    (forall₂_filterMap fun layer mem => isSome_layerPixel? reachable mem).imp
      fun layer p => contributes_of_layerPixel?
  refine ⟨⟨_, pile, drawn i j⟩, fun nothing => ?_⟩
  rw [drawn i j]
  rw [List.filter_eq_nil_iff.2 (by simpa using nothing), List.forall₂_nil_left_iff] at pile
  rw [pile]
  simp

/-- An identity whose head is moved by two pixels to the right. -/
def craning : Identity where
  idle := "idle"
  armIdle := "idle"
  headOffset := ⟨.ofNat 2, .ofNat 0⟩

/-- Frames that start in the second column and reach beyond a picture of three. -/
def ampleFrames : Atlas :=
  (Atlas.addRect {} "idle" ⟨1, 0, 4, 4⟩).addAlias "normal" "idle"

/-- The place is covered by arms and body, but not by the head that has moved on. -/
theorem drawAt_eq_pile_craning :
    ∃ c, inOnePicture craning (.filled 3 2 ⟨200, 100, 0, 128⟩) ampleFrames = .ok c ∧
      (c.layers.filter (c.CoversAt (-1) 0 0 1)).map Prod.fst = [.backArm, .body, .frontArm] ∧
      (c.drawAt (.filled 2 2 ⟨9, 9, 9, 255⟩) (-1) 0).failure = none ∧
      ∃ pile, List.Forall₂ (c.Contributes (-1) 0 0 1) (c.layers.filter (c.CoversAt (-1) 0 0 1)) pile ∧
        (c.drawAt (.filled 2 2 ⟨9, 9, 9, 255⟩) (-1) 0).surface.get? 0 1 =
          some (pile.foldl Pixel.blend ⟨9, 9, 9, 255⟩) := by
  have run : ((inOnePicture craning (.filled 3 2 ⟨200, 100, 0, 128⟩) ampleFrames).toOption.map
      fun c => (c.layers.all fun layer => layer.2.hasFrame (c.frameFor layer.1),
        (c.layers.filter (c.CoversAt (-1) 0 0 1)).map Prod.fst)) =
      some (true, [.backArm, .body, .frontArm]) := by
    decide +kernel
  obtain ⟨c, hc, heq⟩ := Option.map_eq_some_iff.1 run
  obtain ⟨all, covering⟩ := Prod.mk.inj heq
  have ok := Error.eq_ok_of_toOption hc
  have complete : ∀ slot sheet, c.sheets.get slot = some sheet → sheet.hasFrame (c.frameFor slot) :=
    fun slot sheet loaded => List.all_eq_true.1 all (slot, sheet) (mem_layers.2 loaded)
  obtain ⟨failure, drawn⟩ := drawAt_eq_pile (reachable_inOnePicture ok) complete
    (.filled 2 2 ⟨9, 9, 9, 255⟩) (-1) 0
  obtain ⟨⟨pile, contributed, shown⟩, -⟩ := drawn 0 1
  exact ⟨c, ok, covering, failure, pile, contributed, shown⟩

end Paperdoll.Character
