import Paperdoll.Text.Utf8
import Paperdoll.Toml.Document

/-!
# Settings

Where assets are found, and how a character is shown when the command line does not say. A
settings file may change each of these; keys it does not know are passed over.

A value is taken generously: numbers and truth values pass for texts; texts, truth values and
rounded numbers pass for words. A list or a table passes for nothing. A key may also be a way into
the value of another, such as `state.x` or `scale[0]`, and makes a container of that value.
-/

namespace Paperdoll

open Toml (Document)

structure Settings where
  /-- The directory that holds the assets. -/
  assetRoot : String := "assets"
  /-- The state of the character. -/
  state : String := "idle"
  /-- How many pixels of the picture a pixel of the character fills, along each side. -/
  scale : UInt32 := 1
  /-- The size of the canvas; a zero fits it to the character. -/
  canvasWidth : UInt32 := 0
  canvasHeight : UInt32 := 0
deriving DecidableEq, Repr

/-! ## Values of settings -/

namespace Toml.Value

/-- The text that a value passes for. -/
def toText? : Value → Option String
  | text s => some s
  | date s => some s
  | integer n => some (toString n)
  | float x => some x.plainText
  | bool b => some (if b then "true" else "false")
  | array _ | table _ => none

/-- The natural number of 64 bits nearest to a number; what is no number counts as zero. -/
def naturalOfFloat (x : Binary .double) : Nat :=
  if x.isNaN || x.negative then 0
  else if x.isFinite then min x.roundAway.toNat (2 ^ 64 - 1)
  else 2 ^ 64 - 1

/-- The number that a text writes; words for true and false count as one and zero. -/
def naturalOfText? (s : String) : Option Nat :=
  match String.ofList (s.toList.map Char.toLower) with
  | "true" | "on" | "yes" => some 1
  | "false" | "off" | "no" => some 0
  | _ =>
    let digits := match s.toList with
      | '+' :: rest => rest
      | cs => cs
    let n := Json.digitsNumber digits
    if digits.isEmpty || !digits.all Char.isDigit || 2 ^ 64 ≤ n then none else some n

def toNatural? : Value → Option Nat
  | text s => naturalOfText? s
  | date s => naturalOfText? s
  | integer n => if 0 ≤ n then some n.toNat else none
  | float x => some (naturalOfFloat x)
  | bool b => some (if b then 1 else 0)
  | array _ | table _ => none

def toWord? (v : Value) : Option UInt32 := do
  let n ← v.toNatural?
  if n < 2 ^ 32 then some (UInt32.ofNat n) else none

end Toml.Value

namespace Settings

/-! ## Ways into values -/

def isStepChar (c : Char) : Bool :=
  c.isAlphanum || c == '_' || c == '-'

def afterStep? (cs : List Char) : Option (List Char) :=
  let step := cs.takeWhile isStepChar
  if step.isEmpty then none else some (cs.drop step.length)

/-- What follows an index and its closing bracket; blanks may stand around the index, and a minus
before it. An index fits into a signed number of 64 bits. -/
def afterIndex? (cs : List Char) : Option (List Char) :=
  let (negative, cs) := match cs.dropWhile Toml.isSpace with
    | '-' :: cs => (true, cs)
    | cs => (false, cs)
  let digits := cs.takeWhile Char.isDigit
  let n := Json.digitsNumber digits
  match (cs.drop digits.length).dropWhile Toml.isSpace with
  | ']' :: rest =>
    if digits.isEmpty || 2 ^ 63 + (if negative then 1 else 0) ≤ n then none else some rest
  | _ => none

/-- The characters are further steps and indexes; there are at most `limit` of them. -/
def isWay : (limit : Nat) → List Char → Bool
  | _, [] => true
  | limit + 1, '.' :: cs => (afterStep? cs).any (isWay limit)
  | limit + 1, '[' :: cs => (afterIndex? cs).any (isWay limit)
  | _, _ => false

/-- The way that a key writes leads into the value of another key. -/
def leadsInto (field key : String) : Bool :=
  let cs := key.toList
  match afterStep? cs with
  | some [] | none => false
  | some rest => cs.take (cs.length - rest.length) == field.toList && isWay rest.length rest

/-! ## Settings of documents -/

/-- A setting that a file may change. -/
def field? {α : Type} (d : Document) (key : String) (read : Toml.Value → Option α) (usual : α) :
    Option α :=
  if d.keys.any (leadsInto key) then none
  else
    match d.get? [key] with
    | none => some usual
    | some v => read v

/-- The settings that a document makes. A root given by other means is not looked up. -/
def ofDocument? (root : Option String) (d : Document) : Option Settings := do
  let usual : Settings := {}
  return {
    assetRoot := ← match root with
      | some root => some root
      | none => field? d "asset_root" Toml.Value.toText? usual.assetRoot
    state := ← field? d "state" Toml.Value.toText? usual.state
    scale := ← field? d "scale" Toml.Value.toWord? usual.scale
    canvasWidth := ← field? d "canvas_width" Toml.Value.toWord? usual.canvasWidth
    canvasHeight := ← field? d "canvas_height" Toml.Value.toWord? usual.canvasHeight }

/-- The text of a settings file, without a byte order mark. -/
def fileText (bytes : List UInt8) : String :=
  Text.Utf8.decodeLossy (if [0xef, 0xbb, 0xbf].isPrefixOf bytes then bytes.drop 3 else bytes)

def ofFile? (root : Option String) (bytes : List UInt8) : Option Settings := do
  ofDocument? root (← Document.parse? (fileText bytes))

end Settings

end Paperdoll
