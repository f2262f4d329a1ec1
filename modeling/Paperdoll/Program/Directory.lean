import Paperdoll.Asset.Source
import Paperdoll.Program.Script
import Paperdoll.Text.Split

/-!
# Scripts in a directory

**`Script.runIn`** performs a script in a directory that is given as a value: it answers what the
script reads from the files in it, keeps what the script writes, and collects the printed lines.

Paths are cut at slashes. A step may stay where it is or go up, but only a directory can be
stepped from, and nothing outside the directory is in reach.
-/

namespace Paperdoll

namespace AssetTree

variable {α : Type}

/-- A directory with the given files; of two files with one path the later one counts. -/
def ofList (files : List (List String × α)) : AssetTree α :=
  ⟨files.reverse⟩

def isDirectory (t : AssetTree α) (components : List String) : Bool :=
  components.isEmpty ||
    match t.at? components with
    | .directory => true
    | _ => false

/-- Where steps lead from the directory that `walked` leads to. -/
def follow? (t : AssetTree α) (walked : List String) : List String → Option (List String)
  | [] => some walked
  | step :: rest =>
    if !t.isDirectory walked then none
    else if step = "" ∨ step = "." then t.follow? walked rest
    else if step = ".." then
      if walked.isEmpty then none else t.follow? walked.dropLast rest
    else if isTooLong step then none
    else t.follow? (walked ++ [step]) rest

/-- The components of the place that a path leads to; nothing need be there, but all before it
are directories. -/
def locate? (t : AssetTree α) (path : String) : Option (List String) :=
  if path = "" ∨ path.toList.head? = some '/' then none
  else t.follow? [] (Text.pieces '/' path)

def open? (t : AssetTree α) (path : String) : Option α := do
  match t.at? (← t.locate? path) with
  | .file content => some content
  | _ => none

/-- Puts a file where a path leads, unless a directory is there. -/
def put? (t : AssetTree α) (path : String) (content : α) : Option (AssetTree α) := do
  let place ← t.locate? path
  if t.isDirectory place then none
  else some ⟨(place, content) :: t.files.filter (·.1 != place)⟩

end AssetTree

/-- What is left after a script. -/
structure Outcome (α : Type) where
  result : α
  /-- The printed lines, in order. -/
  lines : List String
  files : AssetTree (List UInt8)

namespace Script

def runIn {α : Type} (files : AssetTree (List UInt8)) : Script α → Outcome α
  | done result => { result, lines := [], files }
  | print line next =>
    let rest := next.runIn files
    { rest with lines := line :: rest.lines }
  | read path next => (next (files.open? path)).runIn files
  | write path content next =>
    match files.put? path content with
    | some files => (next true).runIn files
    | none => (next false).runIn files

end Script

end Paperdoll
