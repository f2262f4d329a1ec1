import Paperdoll.Text.Blank
import Paperdoll.Text.Quoted

/-!
# Slots and body parts

A character is drawn from seven sheets, one to a **slot**, and recolored through four **body
parts**. The body takes the torso, the head and both arms along, so these four always wear
the same colors; each of the other parts owns one slot.

`Slot.drawOrder` is the order from back to front, and `Slot.mem_slots_part` says that every
slot is recolored through the part it belongs to.
-/

namespace Paperdoll

/-- A logical part of a character, the unit of recoloring. -/
inductive BodyPart
  | body
  | hair
  | facialHair
  | mask
deriving DecidableEq, Repr

/-- The place of one sheet on a character. -/
inductive Slot
  | backArm
  | body
  | frontArm
  | head
  | hair
  | facialHair
  | mask
deriving DecidableEq, Repr

namespace Slot

/-- All slots, from the one drawn first to the one drawn last. -/
def drawOrder : List Slot :=
  [.backArm, .body, .frontArm, .head, .hair, .facialHair, .mask]

def name : Slot → String
  | .backArm => "back arm"
  | .body => "body"
  | .frontArm => "front arm"
  | .head => "head"
  | .hair => "hair"
  | .facialHair => "facial hair"
  | .mask => "mask"

/-- Slots that move with the head and show its frame. -/
def isHeadRegion : Slot → Bool
  | .head | .hair | .facialHair | .mask => true
  | _ => false

def isArm : Slot → Bool
  | .backArm | .frontArm => true
  | _ => false

/-- Slots without which a character cannot be drawn. -/
def isRequired : Slot → Bool
  | .backArm | .body | .frontArm | .head => true
  | _ => false

def part : Slot → BodyPart
  | .backArm | .body | .frontArm | .head => .body
  | .hair => .hair
  | .facialHair => .facialHair
  | .mask => .mask

def ofName? (name : String) : Option Slot :=
  drawOrder.find? fun slot => slot.name == name

theorem mem_drawOrder (slot : Slot) : slot ∈ drawOrder := by
  cases slot <;> decide

end Slot

namespace BodyPart

def all : List BodyPart :=
  [.body, .hair, .facialHair, .mask]

def name : BodyPart → String
  | .body => "body"
  | .hair => "hair"
  | .facialHair => "facial hair"
  | .mask => "mask"

/-- The slots that a part recolors, in the order in which it visits them. -/
def slots : BodyPart → List Slot
  | .body => [.backArm, .body, .head, .frontArm]
  | .hair => [.hair]
  | .facialHair => [.facialHair]
  | .mask => [.mask]

/-- A small letter for a capital one, a space for a hyphen or an underscore. -/
def foldChar (c : Char) : Char :=
  if c = '-' ∨ c = '_' then ' ' else c.toLower

/-- The form in which part names are compared. -/
def foldName (text : String) : String :=
  String.ofList ((Text.trim text).toList.map foldChar)

/-- The part a text names, or the text in the form in which it was compared. -/
def parse (text : String) : Except String BodyPart :=
  match foldName text with
  | "body" => .ok .body
  | "hair" => .ok .hair
  | "facial hair" | "facialhair" => .ok .facialHair
  | "mask" | "facial mask" | "facialmask" => .ok .mask
  | other => .error other

/-- The message for a text, in its compared form, that names no part. -/
def unknownMessage (folded : String) : String :=
  "unknown body part " ++ Text.quote folded

theorem mem_all (part : BodyPart) : part ∈ all := by
  cases part <;> decide

theorem mem_slots {part : BodyPart} {slot : Slot} : slot ∈ part.slots ↔ slot.part = part := by
  cases part <;> cases slot <;> decide

end BodyPart

theorem Slot.mem_slots_part (slot : Slot) : slot ∈ slot.part.slots :=
  BodyPart.mem_slots.2 rfl

end Paperdoll
