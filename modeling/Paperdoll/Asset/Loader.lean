import Paperdoll.Asset.Source
import Paperdoll.Character
import Paperdoll.Frame.Document
import Paperdoll.Text.Utf8

/-!
# Dressing a character from assets

Each slot has a picture and a file that declares its frames; where they lie follows from the
identity (**`Identity.sheetFiles?`**). A **`Loader`** takes the contents of assets from a source
and pictures from a decoder that is given to it. **`Loader.loadCharacter`** loads the sheets in
drawing order and stops at the first that cannot be had.
-/

namespace Paperdoll

/-- The two files of a sheet. -/
structure SheetFiles where
  picture : String
  frames : String
deriving DecidableEq, Repr

/-- The files of a style, unless the identity makes no choice. -/
def Style.sheetFiles? (style : Style) (species : String) : Option SheetFiles :=
  if style.group = "" ∨ style.kind = "" then none
  else
    let folder := "/humanoid/" ++ species ++ "/" ++ style.group
    some ⟨folder ++ "/" ++ style.kind ++ ".png", folder ++ "/default.frames"⟩

/-- The files of a slot. Frames of the body, the head and the arms are shared by all species. -/
def Identity.sheetFiles? (i : Identity) (slot : Slot) : Option SheetFiles :=
  let shared (name : String) : SheetFiles :=
    ⟨"/humanoid/" ++ i.species ++ "/" ++ name ++ ".png", "/humanoid/" ++ name ++ ".frames"⟩
  match slot with
  | .body => some (shared (i.gender ++ "body"))
  | .head => some (shared (i.gender ++ "head"))
  | .frontArm => some (shared "frontarm")
  | .backArm => some (shared "backarm")
  | .hair => i.hair.sheetFiles? i.species
  | .facialHair => i.facialHair.sheetFiles? i.species
  | .mask => i.facialMask.sheetFiles? i.species

/-- Why a character cannot be loaded. -/
inductive LoadError
  | asset (error : AssetError)
  /-- The picture cannot be decoded. -/
  | picture (path : String)
  /-- The frames file is no text. -/
  | notText (path : String) (fault : Text.Utf8.Fault)
  /-- The frames file holds no atlas. -/
  | frames (path : String)
  /-- Reading the frames file breaks off. -/
  | brokenOff (path : String)
  /-- Picture and frames do not agree. -/
  | sheet (path : String) (error : Error)
  /-- The identity leaves a field empty that the paths need. -/
  | incompleteIdentity (field : String)
  | sprite (error : Error)
deriving DecidableEq, Repr

/-- The message, for those errors whose wording is fixed. -/
def LoadError.message? : LoadError → Option String
  | .asset e => e.message?
  | .notText path fault => some ("Frames file " ++ path ++ " is not valid UTF-8: " ++ fault.message)
  | .sheet path e => some ("Invalid sprite sheet " ++ path ++ ": " ++ e.message)
  | .incompleteIdentity field => some ("Identity has no " ++ field)
  | .sprite e => some e.message
  | .picture _ | .frames _ | .brokenOff _ => none

/-- A source of assets with ways to decode them. -/
structure Loader where
  source : AssetSource (List UInt8)
  decodePicture : List UInt8 → Option Bitmap
  decodeFrames : String → Json.Reading Atlas := Atlas.parse Json.Dialect.relaxed

namespace Loader

variable (l : Loader)

def readAsset (path : String) : Except LoadError (List UInt8) :=
  (l.source.read path).mapError .asset

def loadPicture (path : String) : Except LoadError Bitmap := do
  let bytes ← l.readAsset path
  match l.decodePicture bytes with
  | some b => return b
  | none => .error (.picture path)

def loadFrames (path : String) : Except LoadError Atlas := do
  let bytes ← l.readAsset path
  let text ← (Text.Utf8.decode bytes).mapError (.notText path)
  match l.decodeFrames text with
  | .ok a => return a
  | .error .refused => .error (.frames path)
  | .error .brokenOff => .error (.brokenOff path)

/-- A sheet from its two files, the picture first. -/
def loadSheet (files : SheetFiles) : Except LoadError Sheet := do
  let picture ← l.loadPicture files.picture
  let atlas ← l.loadFrames files.frames
  (Sheet.ofAtlas picture atlas).mapError (.sheet files.picture)

/-- The sheets of the given slots; a slot without a choice of style is left out. -/
def loadSheets (i : Identity) : List Slot → Except LoadError (List (Slot × Sheet))
  | [] => .ok []
  | slot :: rest =>
    match i.sheetFiles? slot with
    | none => loadSheets i rest
    | some files => do
      let sheet ← l.loadSheet files
      let others ← loadSheets i rest
      return (slot, sheet) :: others

def loadCharacter (i : Identity) : Except LoadError Character := do
  if i.species = "" then .error (.incompleteIdentity "species")
  else if i.gender = "" then .error (.incompleteIdentity "gender")
  else
    let sheets ← l.loadSheets i Slot.drawOrder
    (Character.assemble i sheets).mapError .sprite

end Loader

end Paperdoll
