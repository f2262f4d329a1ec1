import Paperdoll.Text.Quoted
import Paperdoll.Text.Split

/-!
# Asset paths

Assets are addressed by components between slashes or backslashes. Empty components and single
dots count for nothing, so one asset has many spellings; **`Asset.normalize`** gives the one
without them. A path with two dots, which would climb out of the tree, is invalid, and so is
a path without components.
-/

namespace Paperdoll

/-- Why an asset cannot be read. -/
inductive AssetError
  | notFound (path : String)
  | invalidPath (path : String)
  /-- Something is there, but it cannot be read as a file. -/
  | unreadable (path : String)
deriving DecidableEq, Repr

def AssetError.message? : AssetError → Option String
  | .notFound path => some ("Asset not found: " ++ path)
  | .invalidPath path => some ("Invalid asset path: " ++ Text.quote path)
  | .unreadable _ => none

namespace Asset

def isSeparator (c : Char) : Bool := c == '/' || c == '\\'

/-- The parts of a path between separators, empty ones and single dots left out. -/
def parts (path : String) : List String :=
  ((path.toList.splitOnP isSeparator).map String.ofList).filter fun p => p != "" && p != "."

/-- The components of a valid path. -/
def components (path : String) : Except AssetError (List String) :=
  let ps := parts path
  if ps.isEmpty || ps.contains ".." then .error (.invalidPath path) else .ok ps

def normalize (path : String) : Except AssetError String :=
  (components path).map fun ps => "/".intercalate ps

def join (base component : String) : String :=
  if base = "" ∨ base.toList.getLast? = some '/' then base ++ component
  else base ++ "/" ++ component

/-- The file that holds an asset when the tree lies below `root`. -/
def resolve (root path : String) : Except AssetError String := do
  let normal ← normalize path
  return (Text.pieces '/' normal).foldl join root

end Asset

end Paperdoll
