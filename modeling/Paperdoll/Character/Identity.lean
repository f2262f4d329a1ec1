import Paperdoll.Character.Slot
import Paperdoll.Json.Library
import Paperdoll.Word

/-!
# Identities

An identity says how a character looks: which pictures its parts are drawn from, how each part
is recolored, which frames it shows when idle, and how far head and arms are moved. It is a
record of eighteen fields, each of which may be missing. **`Identity.read?`** reads it and
**`Identity.write`** writes it with any library for documents.

A saved player is a larger record that holds an identity somewhere in its contents.
-/

namespace Paperdoll

open Json (Dialect Library Tree)

/-- A displacement in pixels. -/
structure Offset where
  x : Binary .single
  y : Binary .single
deriving DecidableEq, Repr

instance : Inhabited Offset := ⟨⟨.zero false, .zero false⟩⟩

/-- The whole number of pixels nearest to a displacement, a half away from zero. -/
def wholePixels (x : Binary .single) : Int :=
  if x.isNaN then 0
  else if x.isFinite then clamped x.roundAway
  else if x.negative then -2 ^ 31
  else 2 ^ 31 - 1

theorem wholePixels_bounds (x : Binary .single) :
    -2 ^ 31 ≤ wholePixels x ∧ wholePixels x ≤ 2 ^ 31 - 1 := by
  unfold wholePixels
  split
  next => omega
  next =>
    split
    next => exact clamped_bounds _
    next => split <;> omega

def Offset.toPixels (o : Offset) : Int × Int :=
  (wholePixels o.x, wholePixels o.y)

/-- A choice among the pictures of a part: a folder, a picture in it, and its directives. -/
structure Style where
  group : String := ""
  kind : String := ""
  directives : String := ""
deriving DecidableEq, Repr, Inhabited

/-- How a character looks. -/
structure Identity where
  name : String := ""
  species : String := ""
  gender : String := ""
  hair : Style := {}
  bodyDirectives : String := ""
  emoteDirectives : String := ""
  facialHair : Style := {}
  facialMask : Style := {}
  /-- The frame of the body when the character is idle. -/
  idle : String := ""
  /-- The frame of the arms when the character is idle. -/
  armIdle : String := ""
  headOffset : Offset := default
  armOffset : Offset := default
deriving DecidableEq, Repr, Inhabited

namespace Identity

def directives (i : Identity) : BodyPart → String
  | .body => i.bodyDirectives
  | .hair => i.hair.directives
  | .facialHair => i.facialHair.directives
  | .mask => i.facialMask.directives

/-! ## As a document -/

def fieldNames : List String :=
  ["name", "species", "gender", "hairGroup", "hairType", "hairDirectives", "bodyDirectives",
    "emoteDirectives", "facialHairGroup", "facialHairType", "facialHairDirectives",
    "facialMaskGroup", "facialMaskType", "facialMaskDirectives", "personalityIdle",
    "personalityArmIdle", "personalityHeadOffset", "personalityArmOffset"]

section Library

variable (L : Library)

def readOffset? (d : L.Document) : Option Offset := do
  match ← L.items? d with
  | [x, y] => return ⟨← L.single? x, ← L.single? y⟩
  | _ => none

/-- A field that is empty when it is missing. -/
def readText? : Option L.Document → Option String
  | none => some ""
  | some d => L.text? d

/-- An offset that is zero when it is missing. -/
def readOffsetField? : Option L.Document → Option Offset
  | none => some default
  | some d => readOffset? L d

/-- The identity that a document holds. -/
def ofDocument? (d : L.Document) : Option Identity := do
  match ← L.fields? fieldNames d with
  | [name, species, gender, hairGroup, hairType, hairDirectives, bodyDirectives, emoteDirectives,
      facialHairGroup, facialHairType, facialHairDirectives, facialMaskGroup, facialMaskType,
      facialMaskDirectives, idle, armIdle, headOffset, armOffset] =>
    return {
      name := ← readText? L name
      species := ← readText? L species
      gender := ← readText? L gender
      hair := ⟨← readText? L hairGroup, ← readText? L hairType, ← readText? L hairDirectives⟩
      bodyDirectives := ← readText? L bodyDirectives
      emoteDirectives := ← readText? L emoteDirectives
      facialHair := ⟨← readText? L facialHairGroup, ← readText? L facialHairType,
        ← readText? L facialHairDirectives⟩
      facialMask := ⟨← readText? L facialMaskGroup, ← readText? L facialMaskType,
        ← readText? L facialMaskDirectives⟩
      idle := ← readText? L idle
      armIdle := ← readText? L armIdle
      headOffset := ← readOffsetField? L headOffset
      armOffset := ← readOffsetField? L armOffset }
  | _ => none

/-- The identity that a text holds. -/
def read? (text : String) : Option Identity := do
  let d ← L.document? text
  ofDocument? L d

def offsetText (o : Offset) : String :=
  L.arrayText [L.singleText o.x, L.singleText o.y]

def fieldStrings (i : Identity) : List String :=
  [i.name, i.species, i.gender, i.hair.group, i.hair.kind, i.hair.directives, i.bodyDirectives,
    i.emoteDirectives, i.facialHair.group, i.facialHair.kind, i.facialHair.directives,
    i.facialMask.group, i.facialMask.kind, i.facialMask.directives, i.idle, i.armIdle]

/-- The text of an identity whose offsets are already written. -/
def writeWith (i : Identity) (headOffset armOffset : String) : String :=
  L.objectText (fieldNames.zip (i.fieldStrings.map L.quoted ++ [headOffset, armOffset]))

/-- The compact text of an identity. -/
def write (i : Identity) : String :=
  i.writeWith L (offsetText L i.headOffset) (offsetText L i.armOffset)

end Library

/-! ## In the strict form -/

def ofTree? : Tree → Option Identity :=
  ofDocument? .strict

def parse? : String → Option Identity :=
  read? .strict

def text : Identity → String :=
  write .strict

end Identity

/-! ## Saved players -/

/-- A record of a save file: what it is, in which version, and its contents. -/
structure SavedRecord where
  identifier : String
  version : UInt32
  contents : Tree

namespace SavedRecord

/-- How deep containers may be nested in a document that is kept as a whole. -/
def maxDepth : Nat := 127

/-- The record that a document holds; its contents lie one level below. -/
def ofTree? (t : Tree) : Option SavedRecord := do
  match ← Dialect.strict.fields? ["identifier", "version", "content"] t with
  | [identifier, version, contents] =>
    return {
      identifier := ← (← identifier).toText?
      version := ← match version with
        | none => some 0
        | some t => (Dialect.strict.readWord t).toOption
      contents := ← (← contents).canonical? (maxDepth - 1) }
  | _ => none

def parse? (text : String) : Option SavedRecord := do
  let t ← Dialect.strict.parse text
  ofTree? t

def identity? (r : SavedRecord) : Option Identity := do
  let t ← r.contents.member? "identity"
  Identity.ofTree? t

def text (r : SavedRecord) : String :=
  Json.objectText [("identifier", Json.quoted r.identifier), ("version", toString r.version.toNat),
    ("content", r.contents.text)]

end SavedRecord

end Paperdoll
