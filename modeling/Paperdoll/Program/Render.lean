import Paperdoll.Asset.Loader
import Paperdoll.Picture.Enlarged
import Paperdoll.Program.Arguments
import Paperdoll.Program.PictureFile
import Paperdoll.Settings

/-!
# The program for characters

`render` draws a character and writes the picture; `palette` lists the colors of one of its
parts. The character is read from an identity or from a saved player; its sheets are looked up
below a directory of assets.
-/

namespace Paperdoll.RenderProgram

/-! ## Arguments -/

/-- The word that a text writes; a minus is allowed before zero only. -/
def word? (s : String) : Option UInt32 :=
  let (negative, digits) := match s.toList with
    | '+' :: rest => (false, rest)
    | '-' :: rest => (true, rest)
    | cs => (false, cs)
  let n := Json.digitsNumber digits
  if digits.isEmpty || !digits.all Char.isDigit || 2 ^ 32 ≤ n || (negative && 0 < n) then none
  else some (UInt32.ofNat n)

def part? (s : String) : Option BodyPart :=
  (BodyPart.parse s).toOption

/-- A part and directives behind an equals sign. -/
def replacement? (s : String) : Option (BodyPart × String) := do
  let (part, directives) ← Text.cutOnce '=' s
  return (← part? part, directives)

/-- The picture that is written when no other is named. -/
def usualOutput : String := "character.png"

def identityOperand : Operand where
  name := "IDENTITY"
  about := "Player record or bare identity JSON"
  accepts := FileName.isPath

def renderCommand : Command where
  name := "render"
  about := "Render a character to a PNG"
  options := [
    { short := some 'o', long := "output", kind := .value, valueName := "OUTPUT"
      about := "Output PNG path", usual := some usualOutput, accepts := FileName.isPath },
    { short := some 's', long := "state", kind := .value, valueName := "STATE"
      about := "Action state, e.g. `idle`, `walk.3`, `climb.1`" },
    { long := "scale", kind := .value, valueName := "FACTOR", about := "Integer upscale factor"
      accepts := fun s => (word? s).isSome },
    { long := "set", kind := .valueAgain, valueName := "PART=DIRECTIVES"
      about := "Replace a part's directives, as `PART=DIRECTIVES`"
      accepts := fun s => (replacement? s).isSome }]
  operands := [identityOperand]

def paletteCommand : Command where
  name := "palette"
  about := "Print the visible colors of one body part"
  options := [
    { short := some 'd', long := "directives", kind := .value, valueName := "DIRECTIVES"
      about := "Directives to apply to the part before listing its colors" }]
  operands := [
    identityOperand,
    { name := "PART", about := "Body part: body, hair, facial-hair or mask"
      accepts := fun s => (part? s).isSome }]

def commandLine : CommandLine where
  name := "render_character"
  version := "0.1.0"
  about := "Render and recolor Starbound-style humanoid characters"
  options := [
    { short := some 'c', long := "config", kind := .value, valueName := "FILE"
      about := "TOML settings file", accepts := FileName.isPath },
    { short := some 'a', long := "assets", kind := .value, valueName := "DIR"
      about := "Root of the unpacked asset tree", accepts := FileName.isPath }]
  commands := [renderCommand, paletteCommand]

/-! ## Input -/

def settingsEnding : String := "toml"

/-- The contents of a settings file; where there is none, its ending is added to the name. -/
def readSettingsFile (path : String) : Task (List UInt8) := do
  match ← Task.read? path with
  | some bytes => if FileName.ending? path = some settingsEnding then return bytes else Task.fail
  | none => Task.read (← Task.need (FileName.withEnding? path settingsEnding))

/-- The settings of a call. A picture has to have pixels. -/
def readSettings (given : Given) : Task Settings := do
  let root := given.value? "assets"
  let settings ← match given.value? "config" with
    | none => Task.need (Settings.ofDocument? root {})
    | some path => do Task.need (Settings.ofFile? root (← readSettingsFile path))
  if settings.scale = 0 then Task.fail else return settings

/-- The identity that a document holds: that of a saved player if it has contents, else its own. -/
def identityOf? (t : Json.Tree) : Option Identity := do
  let t ← t.canonical? SavedRecord.maxDepth
  match t.member? "content" with
  | some _ => (← SavedRecord.ofTree? t).identity?
  | none => Identity.ofTree? t

def readIdentity (path : String) : Task Identity := do
  let text ← Task.succeed (Text.Utf8.decode (← Task.read path))
  let t ← Task.need (Json.Dialect.strict.parse text)
  Task.need (identityOf? t)

/-! ## Assets -/

/-- The paths of the assets that the character of an identity may need. -/
def assetPaths (i : Identity) : List String :=
  (Slot.drawOrder.filterMap i.sheetFiles?).flatMap fun f => [f.picture, f.frames]

/-- The assets below a root, as far as they can be read, with their paths. -/
def readAssets (root : String) : List String → Task (List (String × List UInt8))
  | [] => return []
  | path :: rest => do
    let content ← match Asset.resolve root path with
      | .ok file => Task.read? file
      | .error _ => pure none
    let others ← readAssets root rest
    return (content.map fun bytes => (path, bytes)).toList ++ others

def loadCharacter (root : String) (i : Identity) : Task Character := do
  let assets ← readAssets root (assetPaths i)
  let find (path : String) := (assets.find? (·.1 == path)).map Prod.snd
  let l : Loader := {
    source := {
      read := fun path => (find path).elim (.error (.notFound path)) .ok
      has := fun path => (find path).isSome }
    decodePicture := Picture.Png.decode }
  match l.loadCharacter i with
  | .ok c => return c
  | .error (.brokenOff _) => throw .brokenOff
  | .error _ => Task.fail

/-! ## Rendering -/

def applyAll (c : Character) : List (BodyPart × String) → Except Error Character
  | [] => .ok c
  | (part, directives) :: rest => do
    let c ← c.applyDirectives part directives
    applyAll c rest

/-- The size of the canvas: that of the settings if both sides are given there, else that of the
character. -/
def canvasSize (settings : Settings) (b : Bounds) : Nat × Nat :=
  if settings.canvasWidth = 0 ∨ settings.canvasHeight = 0 then (b.width, b.height)
  else (settings.canvasWidth.toNat, settings.canvasHeight.toNat)

/-- The picture of a character, in the middle of its canvas. -/
def picture (settings : Settings) (c : Character) : Except Error Bitmap := do
  let b ← c.bounds
  let (width, height) := canvasSize settings b
  let canvas ← Canvas.blank (UInt32.ofNat width) (UInt32.ofNat height)
  let drawing := c.drawAt canvas (Bounds.centered width b.width b.left)
    (Bounds.centered height b.height b.top)
  match drawing.failure with
  | none => return drawing.surface
  | some e => .error e

def render (settings : Settings) (path : String) (given : Given) : Task Unit := do
  let i ← readIdentity path
  let c ← loadCharacter settings.assetRoot i
  let c ← Task.succeed (applyAll c ((given.values "set").filterMap replacement?))
  let c := c.setState ((given.value? "state").getD settings.state)
  let b ← Task.succeed (picture settings c)
  let scale := ((given.value? "scale").bind word?).getD settings.scale
  let b ← Task.need (b.enlarge? (max 1 scale.toNat))
  Task.writePicture ((given.value? "output").getD usualOutput) b

/-! ## Listing colors -/

def palette (settings : Settings) (path : String) (part : BodyPart) (directives : Option String) :
    Task Unit := do
  let i ← readIdentity path
  let c ← loadCharacter settings.assetRoot i
  let c ← match directives with
    | some directives => Task.succeed (c.applyDirectives part directives)
    | none => pure c
  let colors := (c.partPalette part).colors
  if colors.isEmpty then Task.print (part.name ++ " has no visible colors (no sheet loaded)")
  else
    Task.print
      (s!"{colors.length} colors of " ++ part.name ++ " (" ++ c.directives part ++ "):")
    for color in colors do
      Task.print ("  " ++ toString color)

/-! ## Calls -/

def run (call : Invocation) : Task Unit := do
  let settings ← readSettings call.given
  match call.command, call.given.operands with
  | "render", [path] => render settings path call.given
  | "palette", [path, part] =>
    match part? part with
    | some part => palette settings path part (call.given.value? "directives")
    | none => throw .misuse
  | _, _ => throw .misuse

end Paperdoll.RenderProgram
