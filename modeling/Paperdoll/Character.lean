import Paperdoll.Character.Bounds
import Paperdoll.Character.Identity
import Paperdoll.Character.Slotted
import Paperdoll.Sheet

/-!
# Characters

A character is an identity dressed in sheets. The sheets of one part always take the same
directives; applying new ones replaces the old ones on all of them, and directives that
cannot be read leave the character as it is.

**Frames.** What a slot shows follows from the state: the head region knows `climb` and
`normal` only, body and arms show the frame of that name, and in the idle state the frame that
the identity chooses.

**Drawing** (`Character.drawAt`). The loaded sheets are drawn from back to front, each at its
offset from the origin. Drawing stops at the first sheet that lacks its frame; what has been
drawn until then stays on the surface.
-/

namespace Paperdoll

def idleState : String := "idle"

/-- A dressed character. -/
structure Character where
  identity : Identity
  sheets : Slotted (Option Sheet)
  /-- What was applied to each part since it was last in the colors it came with. -/
  applied : Parted (Option String)
  state : String

namespace Character

/-- The directives in force. A part in the colors it came with answers like one that was given
the empty text. -/
def directives (c : Character) (part : BodyPart) : String :=
  (c.applied.get part).getD ""

theorem directives_of_set {c d : Character} {part : BodyPart} {text : Option String}
    (h : c.applied = d.applied.set part text) (other : BodyPart) :
    c.directives other = if other = part then text.getD "" else d.directives other := by
  unfold directives
  rw [h, Parted.get_set]
  split <;> rfl

/-! ## Recoloring -/

/-- Applies a directive text to the sheets in the given slots, one after the other, until one of
them refuses it. Gives the sheets that are left and what made it stop. -/
def recolorSlots (text : String) (sheets : Slotted (Option Sheet)) :
    List Slot → Slotted (Option Sheet) × Option Error
  | [] => (sheets, none)
  | slot :: rest =>
    match sheets.get slot with
    | none => recolorSlots text sheets rest
    | some sheet =>
      match sheet.applyDirectives text with
      | .error e => (sheets, some e)
      | .ok sheet => recolorSlots text (sheets.set slot (some sheet)) rest

/-- Puts a part under new directives. Gives the character that is left, also by a failure, and
what made it fail. -/
def recolorPart (c : Character) (part : BodyPart) (text : String) : Character × Option Error :=
  match recolorSlots text c.sheets part.slots with
  | (sheets, some e) => ({ c with sheets }, some e)
  | (sheets, none) => ({ c with sheets, applied := c.applied.set part (some text) }, none)

def applyDirectives (c : Character) (part : BodyPart) (text : String) : Except Error Character :=
  match c.recolorPart part text with
  | (c, none) => .ok c
  | (_, some e) => .error e

/-- Brings a part back to the colors it came with. -/
def reset (c : Character) (part : BodyPart) : Character :=
  let sheets := part.slots.foldl
    (fun sheets slot => sheets.set slot ((sheets.get slot).map Sheet.reset)) c.sheets
  { c with sheets, applied := c.applied.set part none }

def setState (c : Character) (state : String) : Character :=
  { c with state }

/-! ## Assembling -/

/-- Applies the directives of the identity to the given parts. -/
def dress (c : Character) : List BodyPart → Except Error Character
  | [] => .ok c
  | part :: rest => do
    let c ← c.applyDirectives part (c.identity.directives part)
    c.dress rest

def firstMissing? (sheets : Slotted (Option Sheet)) : Option Slot :=
  Slot.drawOrder.find? fun slot => slot.isRequired && (sheets.get slot).isNone

/-- The character of an identity with the given sheets; of two sheets for one slot the later one
counts. -/
def assemble (identity : Identity) (sheets : List (Slot × Sheet)) : Except Error Character :=
  let worn := sheets.foldl (fun worn s => worn.set s.1 (some s.2)) (Slotted.fill none)
  match firstMissing? worn with
  | some slot => .error (.missingSheet slot)
  | none =>
    let bare : Character :=
      { identity, sheets := worn, applied := .fill none, state := idleState }
    bare.dress BodyPart.all

/-! ## Colors -/

def partSheets (c : Character) (part : BodyPart) : List Sheet :=
  part.slots.filterMap c.sheets.get

/-- The colors that can be seen on a part. -/
def partPalette (c : Character) (part : BodyPart) : Palette :=
  (c.partSheets part).foldl (fun p sheet => p.union sheet.visibleColors) .empty

/-! ## Frames and places -/

def headState (c : Character) : String :=
  if "climb".toList.isPrefixOf c.state.toList then "climb" else "normal"

/-- The frame of the state, or `idle` in its stead when the character does nothing. -/
def idleOr (c : Character) (idle : String) : String :=
  if c.state = idleState then idle else c.state

def bodyState (c : Character) : String := c.idleOr c.identity.idle

def armState (c : Character) : String := c.idleOr c.identity.armIdle

/-- The frame that a slot shows. -/
def frameFor (c : Character) (slot : Slot) : String :=
  if slot.isHeadRegion then c.headState else if slot.isArm then c.armState else c.bodyState

/-- How far a slot is moved. -/
def offsetFor (c : Character) (slot : Slot) : Int × Int :=
  if slot.isHeadRegion then c.identity.headOffset.toPixels
  else if slot.isArm then c.identity.armOffset.toPixels
  else (0, 0)

/-- The loaded sheets from back to front. -/
def layers (c : Character) : List (Slot × Sheet) :=
  Slot.drawOrder.filterMap fun slot => (c.sheets.get slot).map fun sheet => (slot, sheet)

/-- Where a slot is drawn when the origin of the character is at `(x, y)`. -/
def placeFor (c : Character) (slot : Slot) (x y : Int) : Int × Int :=
  let (dx, dy) := c.offsetFor slot
  (clamped (x + dx), clamped (y + dy))

/-! ## Drawing -/

/-- What is on a surface after drawing, and what made it stop. -/
structure Drawing where
  surface : Bitmap
  failure : Option Error := none

/-- Draws layers one over the other until one of them lacks its frame. -/
def drawLayers (c : Character) (x y : Int) (surface : Bitmap) : List (Slot × Sheet) → Drawing
  | [] => { surface }
  | (slot, sheet) :: rest =>
    let (dx, dy) := c.placeFor slot x y
    match sheet.frames.require (c.frameFor slot) with
    | .error e => { surface, failure := some e }
    | .ok r => c.drawLayers x y (sheet.drawRegion surface r dx dy) rest

def drawAt (c : Character) (surface : Bitmap) (x y : Int) : Drawing :=
  c.drawLayers x y surface c.layers

def draw (c : Character) (surface : Bitmap) : Drawing :=
  c.drawAt surface 0 0

/-! ## Bounds -/

/-- The rectangle of a region that is moved by an offset. -/
def layerBounds (offset : Int × Int) (r : Region) : Bounds where
  left := offset.1
  top := offset.2
  -- Sizes are added as signed numbers.
  right := clamped (offset.1 + signed r.width.toNat)
  bottom := clamped (offset.2 + signed r.height.toNat)

/-- Widens the bounds by those of each layer. -/
def boundsOver (c : Character) (b : Option Bounds) :
    List (Slot × Sheet) → Except Error (Option Bounds)
  | [] => .ok b
  | (slot, sheet) :: rest => do
    let r ← sheet.frames.require (c.frameFor slot)
    let layer := layerBounds (c.offsetFor slot) r
    c.boundsOver (some (b.elim layer (·.union layer))) rest

/-- The rectangle that the character fills when its origin is at zero. -/
def bounds (c : Character) : Except Error Bounds := do
  match ← c.boundsOver none c.layers with
  | some b => return b
  -- A character without a single sheet is missing the first one.
  | none => .error (.missingSheet .backArm)

end Character

end Paperdoll
