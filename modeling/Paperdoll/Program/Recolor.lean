import Paperdoll.Program.Arguments
import Paperdoll.Program.PictureFile
import Paperdoll.Sheet

/-!
# The program for directives

`parse` shows how a directive text is read and which replacements it makes; `apply` recolors a
picture and lists what became of its colors.
-/

namespace Paperdoll.RecolorProgram

def parseCommand : Command where
  name := "parse"
  about := "Parse a directive string and print its structure"
  options := [
    { short := some 'p', long := "probe", kind := .values, valueName := "COLOR"
      about := "Also print every color of the given hex list through the mutation" }]
  operands := [
    { name := "DIRECTIVES", about := "Directive string, e.g. `?replace;aabbcc=112233`" }]

def applyCommand : Command where
  name := "apply"
  about := "Apply a directive string to a PNG"
  options := [
    { short := some 'o', long := "output", kind := .value, valueName := "OUTPUT"
      accepts := FileName.isPath
      about := "Output PNG path (optional, defaults to `<input>_recolored.png`)" },
    { short := some 'n', long := "dry-run", kind := .flag
      about := "Only print the color mapping, do not write an image" }]
  operands := [
    { name := "INPUT_PNG", about := "Input PNG path", accepts := FileName.isPath },
    { name := "DIRECTIVES", about := "Directive string" }]

def commandLine : CommandLine where
  name := "directive_utils"
  version := "1.0"
  about := "Directive utility - parse directive strings and recolor sprite sheets"
  options := []
  commands := [parseCommand, applyCommand]

def arrow (p : Color × Color) : String :=
  toString p.1 ++ " -> " ++ toString p.2

/-! ## Showing directives -/

/-- Prints a directive with its number, and its pairs if it is a replacement. -/
def showDirective (index : Nat) (d : Directive) : Task Unit := do
  Task.print (s!"  [{index}] " ++ d.text)
  if d.isReplace then
    let s ← Task.succeed (Substitution.ofArgs d.args)
    for p in s.pairs do
      Task.print ("        " ++ arrow p)

/-- Prints directives, the first of which has number `index`. -/
def showDirectives (index : Nat) : List Directive → Task Unit
  | [] => return
  | d :: ds => do
    showDirective index d
    showDirectives (index + 1) ds

def probe (m : Recoloring) (value : String) : Task Unit := do
  let c ← Task.succeed (Color.parse value)
  Task.print ("  " ++ toString c ++ " => " ++ toString (m.apply c))

def parse (text : String) (probes : List String) : Task Unit := do
  let ds ← Task.succeed (Directive.parseAll text)
  Task.print s!"{ds.length} directive(s):"
  showDirectives 0 ds
  let m ← Task.succeed (Recoloring.ofDirectives ds)
  Task.print ("Canonical: " ++ Directive.textOf ds)
  Task.print s!"Replace tables composed: {m.depth}"
  for value in probes do
    probe m value

/-! ## Recoloring a picture -/

/-- A sheet with one frame that is the whole picture. -/
def wholeSheet (b : Bitmap) : Except Error Sheet :=
  Sheet.ofAtlas b (Atlas.addRect {} "sheet" ⟨0, 0, b.width, b.height⟩)

/-- Recolors a picture and says what became of its colors. -/
def apply (input text : String) (output : Option String) (isDry : Bool) : Task Unit := do
  let sheet ← Task.succeed (wholeSheet (← Task.readPicture input))
  let sheet ← Task.succeed (sheet.applyDirectives text)
  let colors := (sheet.colorMap.map ColorMap.pairs).getD []
  let changed := colors.filter fun p => p.1 != p.2
  Task.print s!"{colors.length} palette colors, {changed.length} recolored:"
  for p in changed do
    Task.print ("  " ++ arrow p)
  if !isDry then
    Task.writePicture (output.getD (FileName.beside input "_recolored.png")) sheet.working

/-! ## Calls -/

def run (call : Invocation) : Task Unit :=
  match call.command, call.given.operands with
  | "parse", [text] => parse text (call.given.values "probe")
  | "apply", [input, text] =>
    apply input text (call.given.value? "output") (call.given.has "dry-run")
  | _, _ => throw .misuse

end Paperdoll.RecolorProgram
