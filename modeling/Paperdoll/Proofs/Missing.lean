import Paperdoll.Proofs.Layering
import Paperdoll.Proofs.Outfit

/-!
# Missing frames: where drawing and bounds stop

Drawing a character and measuring it are two passes over its layers, written apart from each other.
Each of them looks up the frame of every layer and may miss it.

**Theorem (`drawAt_fails_with_bounds`).** Take any character that calls can lead to. Drawing it
succeeds exactly if it has bounds, and fails with the same error as these: the frame is not found
that the first slot shows whose sheet lacks its frame. What is then on the surface is what the
layers before that slot leave there when they are drawn one by one.

Both passes go through a front of layers that have their frames (`drawLayers_append`,
`boundsOver_append`). The layers fall apart into such a front and, if there is one, the first layer
without its frame (`layers_cases`). Bounds could also fail because there is no layer at all; but a
character always has a body.
-/

namespace Paperdoll.Character

variable {c : Character} {front : List (Slot × Sheet)}

/-! ## The first slot without its frame -/

/-- There is a sheet in the slot, and it lacks the frame that the slot shows. -/
def Lacks (c : Character) (slot : Slot) : Prop :=
  ∃ sheet ∈ c.sheets.get slot, ¬ sheet.hasFrame (c.frameFor slot)

instance (c : Character) : DecidablePred c.Lacks :=
  fun slot => inferInstanceAs (Decidable (∃ sheet ∈ c.sheets.get slot, _))

def firstLacking? (c : Character) : Option Slot :=
  Slot.drawOrder.find? fun slot => c.Lacks slot

/-- The layers behind a slot. -/
def layersBefore (c : Character) (slot : Slot) : List (Slot × Sheet) :=
  c.layers.takeWhile fun layer => layer.1 ≠ slot

theorem lacks_iff {slot : Slot} {sheet : Sheet} (loaded : c.sheets.get slot = some sheet) :
    c.Lacks slot ↔ c.layerRegion? (slot, sheet) = none := by
  have frame : (c.layerRegion? (slot, sheet)).isSome = sheet.hasFrame (c.frameFor slot) :=
    FrameTable.isSome_get? sheet.frames (c.frameFor slot)
  unfold Lacks
  rw [loaded, ← Option.not_isSome_iff_eq_none, frame]
  simp

def layersIn (c : Character) (slots : List Slot) : List (Slot × Sheet) :=
  slots.filterMap fun slot => (c.sheets.get slot).map fun sheet => (slot, sheet)

theorem complete_layersIn {slots : List Slot} (h : ∀ slot ∈ slots, ¬ c.Lacks slot) :
    ∀ layer ∈ c.layersIn slots,
      c.sheets.get layer.1 = some layer.2 ∧ (c.layerRegion? layer).isSome := by
  intro layer mem
  obtain ⟨slot, hslot, hlayer⟩ := List.mem_filterMap.1 mem
  obtain ⟨sheet, loaded, rfl⟩ := Option.map_eq_some_iff.1 hlayer
  have here := h slot hslot
  rw [lacks_iff loaded] at here
  exact ⟨loaded, Option.isSome_iff_ne_none.2 here⟩

/-- **The first layer without its frame, and what is before it.** -/
theorem layers_cases (c : Character) :
    (c.firstLacking? = none ∧ ∀ layer ∈ c.layers, (c.layerRegion? layer).isSome) ∨
    ∃ slot sheet rest, c.firstLacking? = some slot ∧
      c.layers = c.layersBefore slot ++ (slot, sheet) :: rest ∧
      (∀ layer ∈ c.layersBefore slot, (c.layerRegion? layer).isSome) ∧
      c.layerRegion? (slot, sheet) = none := by
  cases first : c.firstLacking? with
  | none =>
    have nowhere : ∀ slot ∈ Slot.drawOrder, ¬ c.Lacks slot := by
      simpa [firstLacking?] using first
    exact .inl ⟨rfl, fun layer mem => (complete_layersIn nowhere layer mem).2⟩
  | some slot =>
    obtain ⟨here, back, more, order, behind⟩ := List.find?_eq_some_iff_append.1 first
    obtain ⟨sheet, worn, frameless⟩ := of_decide_eq_true here
    have loaded : c.sheets.get slot = some sheet := worn
    have missing := (lacks_iff loaded).1 ⟨sheet, worn, frameless⟩
    have nowhere : ∀ other ∈ back, ¬ c.Lacks other := by simpa using behind
    have complete := complete_layersIn nowhere
    have split : c.layers = c.layersIn back ++ (slot, sheet) :: c.layersIn more := by
      unfold layers
      rw [order, List.filterMap_append, List.filterMap_cons_some (by rw [loaded]; rfl)]
      rfl
    have before : c.layersBefore slot = c.layersIn back := by
      unfold layersBefore
      rw [split, List.takeWhile_append_of_pos, List.takeWhile_cons_of_neg (by simp),
        List.append_nil]
      rintro ⟨other, otherSheet⟩ mem
      rw [decide_eq_true_iff]
      rintro rfl
      -- it would be the same layer, but that one has no frame
      obtain ⟨loaded', some⟩ := complete _ mem
      cases loaded.symm.trans loaded'
      rw [missing] at some
      cases some
    refine .inr ⟨slot, sheet, c.layersIn more, rfl, ?_, ?_, missing⟩
    · rw [before]
      exact split
    · rw [before]
      exact fun layer mem => (complete layer mem).2

/-! ## Two passes through the same front -/

def drawLayer (c : Character) (x y : Int) (surface : Bitmap) (layer : Slot × Sheet) :
    Except Error Bitmap :=
  layer.2.draw surface (c.frameFor layer.1) (c.placeFor layer.1 x y).1 (c.placeFor layer.1 x y).2

theorem drawLayer_of_region {layer : Slot × Sheet} {r : Region} (h : c.layerRegion? layer = some r)
    (x y : Int) (surface : Bitmap) :
    c.drawLayer x y surface layer =
      .ok (layer.2.drawRegion surface r (c.placeFor layer.1 x y).1 (c.placeFor layer.1 x y).2) := by
  unfold layerRegion? at h
  unfold drawLayer Sheet.draw FrameTable.require
  rw [h]
  rfl

/-- Layers that have their frames are drawn one by one. -/
theorem drawLayers_append (complete : ∀ layer ∈ front, (c.layerRegion? layer).isSome)
    (x y : Int) (surface : Bitmap) :
    ∃ drawn, front.foldlM (c.drawLayer x y) surface = .ok drawn ∧
      ∀ rest, c.drawLayers x y surface (front ++ rest) = c.drawLayers x y drawn rest := by
  induction front generalizing surface with
  | nil => exact ⟨surface, rfl, fun rest => rfl⟩
  | cons layer front ih =>
    obtain ⟨here, others⟩ := List.forall_mem_cons.1 complete
    obtain ⟨r, hr⟩ := Option.isSome_iff_exists.1 here
    obtain ⟨drawn, each, through⟩ := ih others
      (layer.2.drawRegion surface r (c.placeFor layer.1 x y).1 (c.placeFor layer.1 x y).2)
    refine ⟨drawn, ?_, fun rest => ?_⟩
    · rw [List.foldlM_cons, drawLayer_of_region hr]
      exact each
    · rw [List.cons_append, drawLayers_cons, hr]
      exact through rest

theorem boundsOver_append (complete : ∀ layer ∈ front, (c.layerRegion? layer).isSome)
    (before : Option Bounds) :
    ∃ after, (before.isSome ∨ front ≠ [] → after.isSome) ∧
      ∀ rest, c.boundsOver before (front ++ rest) = c.boundsOver after rest := by
  induction front generalizing before with
  | nil => exact ⟨before, fun h => h.resolve_right fun ne => ne rfl, fun rest => rfl⟩
  | cons layer front ih =>
    obtain ⟨here, others⟩ := List.forall_mem_cons.1 complete
    obtain ⟨r, hr⟩ := Option.isSome_iff_exists.1 here
    obtain ⟨after, measured, through⟩ := ih others (some (before.elim
      (layerBounds (c.offsetFor layer.1) r) (·.union (layerBounds (c.offsetFor layer.1) r))))
    refine ⟨after, fun _ => measured (.inl rfl), fun rest => ?_⟩
    rw [List.cons_append, boundsOver_cons, hr]
    exact through rest

/-! ## The end of both passes -/

theorem layers_ne_nil (reachable : Reachable c) : c.layers ≠ [] := by
  have body : (c.sheets.get .body).isSome := isSome_get_of_reachable reachable rfl
  obtain ⟨sheet, loaded⟩ := Option.isSome_iff_exists.1 body
  have mem : (.body, sheet) ∈ c.layers := mem_layers.2 loaded
  exact List.ne_nil_of_mem mem

/-- **How drawing and bounds end.** -/
theorem drawAt_bounds_cases (reachable : Reachable c) (surface : Bitmap) (x y : Int) :
    (c.firstLacking? = none ∧ (c.drawAt surface x y).failure = none ∧ ∃ b, c.bounds = .ok b) ∨
    ∃ slot, c.firstLacking? = some slot ∧
      (c.drawAt surface x y).failure = some (.frameNotFound (c.frameFor slot)) ∧
      c.bounds = .error (.frameNotFound (c.frameFor slot)) ∧
      (c.layersBefore slot).foldlM (c.drawLayer x y) surface =
        .ok (c.drawAt surface x y).surface := by
  rcases c.layers_cases with
    ⟨first, complete⟩ | ⟨slot, sheet, rest, first, split, complete, missing⟩
  · refine .inl ⟨first, (drawAt_of_complete complete surface x y).1, ?_⟩
    obtain ⟨after, measured, through⟩ := boundsOver_append complete none
    obtain ⟨b, rfl⟩ := Option.isSome_iff_exists.1 (measured (.inr (layers_ne_nil reachable)))
    have all := through []
    rw [List.append_nil] at all
    unfold bounds
    rw [all]
    exact ⟨b, rfl⟩
  · -- both loops get through the layers before and stop at the same one
    obtain ⟨drawn, each, drawing⟩ := drawLayers_append complete x y surface
    obtain ⟨after, -, measuring⟩ := boundsOver_append complete none
    have stopped : c.drawAt surface x y =
        { surface := drawn, failure := some (.frameNotFound (c.frameFor slot)) } := by
      unfold drawAt
      rw [split, drawing, drawLayers_cons, missing]
    refine .inr ⟨slot, first, by rw [stopped], ?_, by rw [stopped]; exact each⟩
    unfold bounds
    rw [split, measuring, boundsOver_cons, missing]
    rfl

/-- **Drawing fails where measuring does**, with the same error, and leaves the layers before. -/
theorem drawAt_fails_with_bounds (reachable : Reachable c) (surface : Bitmap) (x y : Int) :
    ((c.drawAt surface x y).failure = none ↔ ∃ b, c.bounds = .ok b) ∧
    (∀ e, (c.drawAt surface x y).failure = some e ↔ c.bounds = .error e) ∧
    (∀ e, c.bounds = .error e ↔
      ∃ slot, c.firstLacking? = some slot ∧ e = .frameNotFound (c.frameFor slot)) ∧
    (∀ slot, c.bounds ≠ .error (.missingSheet slot)) ∧
    ∀ slot, c.firstLacking? = some slot →
      (c.layersBefore slot).foldlM (c.drawLayer x y) surface =
        .ok (c.drawAt surface x y).surface := by
  rcases drawAt_bounds_cases reachable surface x y with
    ⟨first, drawn, b, measured⟩ | ⟨slot, first, drawn, measured, left⟩
  · rw [first, drawn, measured]
    simp
  · rw [first, drawn, measured]
    simp [left, eq_comm]

/-- A single frame, for body and arms that do nothing. -/
def idleOnly : Atlas :=
  .addRect {} "idle" ⟨0, 0, 1, 1⟩

/-- The head lacks its frame; arms and body are drawn. -/
theorem drawAt_fails_with_bounds_idleOnly :
    ∃ c, inOnePicture { idle := "idle", armIdle := "idle" } (.filled 1 1 ⟨4, 4, 4, 128⟩) idleOnly =
        .ok c ∧
      c.firstLacking? = some .head ∧
      (c.layersBefore .head).map Prod.fst = [.backArm, .body, .frontArm] ∧
      c.bounds = .error (.frameNotFound "normal") ∧
      (c.drawAt (.filled 2 2 .transparent) 1 1).failure = some (.frameNotFound "normal") ∧
      (c.layersBefore .head).foldlM (c.drawLayer 1 1) (.filled 2 2 .transparent) =
        .ok (c.drawAt (.filled 2 2 .transparent) 1 1).surface := by
  have run : ((inOnePicture { idle := "idle", armIdle := "idle" } (.filled 1 1 ⟨4, 4, 4, 128⟩)
      idleOnly).toOption.map fun c =>
        (c.firstLacking?, (c.layersBefore .head).map Prod.fst, c.frameFor .head)) =
      some (some .head, [.backArm, .body, .frontArm], "normal") := by
    decide +kernel
  obtain ⟨c, hc, heq⟩ := Option.map_eq_some_iff.1 run
  simp only [Prod.mk.injEq] at heq
  obtain ⟨first, before, frame⟩ := heq
  have ok := Error.eq_ok_of_toOption hc
  obtain ⟨-, same, error, -, left⟩ :=
    drawAt_fails_with_bounds (reachable_inOnePicture ok) (.filled 2 2 .transparent) 1 1
  have measured : c.bounds = .error (.frameNotFound "normal") :=
    (error _).2 ⟨.head, first, by rw [frame]⟩
  exact ⟨c, ok, first, before, measured, (same _).2 measured, left .head first⟩

end Paperdoll.Character
