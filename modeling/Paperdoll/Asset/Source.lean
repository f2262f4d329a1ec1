import Paperdoll.Asset.Path
import Std.Data.TreeMap

/-!
# Asset sources

A source is whatever answers a path with the contents of an asset (**`AssetSource`**). Two kinds
are at hand: an **`AssetStore`** holds assets in memory under their normalized paths, and an
**`AssetTree`** is a directory of files, with the errors that a file system gives.
-/

namespace Paperdoll

/-- Contents by path. -/
structure AssetSource (α : Type) where
  read : String → Except AssetError α
  has : String → Bool

/-! ## Assets in memory -/

/-- Assets in memory, by normalized path. -/
structure AssetStore (α : Type) where
  map : Std.TreeMap String α := ∅

namespace AssetStore

variable {α : Type}

def empty : AssetStore α := {}

def find? (s : AssetStore α) (path : String) : Option α :=
  match Asset.normalize path with
  | .ok key => s.map[key]?
  | .error _ => none

/-- What was stored under a path before an asset is stored there, and the store that holds it; an
invalid path changes nothing. -/
def exchange (s : AssetStore α) (path : String) (content : α) : Option α × AssetStore α :=
  match Asset.normalize path with
  | .ok key => (s.map[key]?, ⟨s.map.insert key content⟩)
  | .error _ => (none, s)

def insert (s : AssetStore α) (path : String) (content : α) : AssetStore α :=
  (s.exchange path content).2

def take (s : AssetStore α) (path : String) : Option α × AssetStore α :=
  match Asset.normalize path with
  | .ok key => (s.map[key]?, ⟨s.map.erase key⟩)
  | .error _ => (none, s)

def read (s : AssetStore α) (path : String) : Except AssetError α := do
  let key ← Asset.normalize path
  match s.map[key]? with
  | some content => return content
  | none => .error (.notFound path)

def has (s : AssetStore α) (path : String) : Bool :=
  (s.find? path).isSome

def size (s : AssetStore α) : Nat := s.map.size

def isEmpty (s : AssetStore α) : Bool := s.map.isEmpty

def toSource (s : AssetStore α) : AssetSource α :=
  ⟨s.read, s.has⟩

end AssetStore

/-! ## A directory of files -/

/-- A directory, by the components of the paths of its files. -/
structure AssetTree (α : Type) where
  files : List (List String × α)

namespace AssetTree

variable {α : Type}

/-- What is found at the end of a list of components. -/
inductive Entry (α : Type)
  | file (content : α)
  | directory
  | missing
  /-- The path cannot be walked: it passes through a file, or a name cannot exist. -/
  | blocked

/-- The longest name that a file system admits, in bytes. -/
def maxName : Nat := 255

def isTooLong (name : String) : Bool :=
  maxName < name.utf8ByteSize

/-- What has exactly these components. -/
def at? (t : AssetTree α) (components : List String) : Entry α :=
  match t.files.find? (·.1 == components) with
  | some (_, content) => .file content
  | none => if t.files.any (components.isPrefixOf ·.1) then .directory else .missing

/-- Follows components from the place that `walked` leads to. -/
def walk (t : AssetTree α) (walked : List String) : List String → Entry α
  | [] => t.at? walked
  | name :: rest =>
    if isTooLong name then .blocked
    else
      let here := walked ++ [name]
      match t.at? here with
      | .file content => if rest.isEmpty then .file content else .blocked
      | .directory => t.walk here rest
      | found => found

/-- What a path leads to. A null character anywhere keeps the path from being looked up. -/
def entry (t : AssetTree α) (components : List String) : Entry α :=
  if components.any (·.toList.contains '\x00') then .blocked else t.walk [] components

def read (t : AssetTree α) (path : String) : Except AssetError α := do
  let components ← Asset.components path
  match t.entry components with
  | .file content => return content
  | .missing => .error (.notFound path)
  | .directory | .blocked => .error (.unreadable path)

def has (t : AssetTree α) (path : String) : Bool :=
  match Asset.components path with
  | .error _ => false
  | .ok components =>
    match t.entry components with
    | .file _ => true
    | _ => false

def toSource (t : AssetTree α) : AssetSource α :=
  ⟨t.read, t.has⟩

end AssetTree

end Paperdoll
