import Paperdoll.Text.Split

/-!
# File names

The name of a file is the last step of its path; what stands behind the last dot of the name says
what kind of file it is. A dot at the front of a name starts no such ending.
-/

namespace Paperdoll.FileName

def isPath (s : String) : Bool := s != ""

/-- The path up to its last slash, that slash included, and what follows. -/
def cutLast (path : String) : String × String :=
  let name := (path.toList.reverse.takeWhile (· != '/')).reverse
  (String.ofList (path.toList.take (path.length - name.length)), String.ofList name)

/-- The name of the file that a path leads to. -/
def ofPath? (path : String) : Option String := do
  let steps := (Text.pieces '/' path).filter fun s => s != "" && s != "."
  let name ← steps.getLast?
  if name = ".." then none else some name

/-- A name before and behind its last dot. -/
def cutEnding? (name : String) : Option (String × String) :=
  let ending := (name.toList.reverse.takeWhile (· != '.')).reverse
  let length := name.length - ending.length
  if length < 2 then none
  else some (String.ofList (name.toList.take (length - 1)), String.ofList ending)

def ending? (path : String) : Option String := do
  let name ← ofPath? path
  let (_, ending) ← cutEnding? name
  return ending

def isPicture (path : String) : Bool :=
  match ending? path with
  | none => false
  | some ending => ["png", "apng"].contains (String.ofList (ending.toList.map Char.toLower))

/-- The path with an ending added to the name of the file, without the slashes behind it; there is
none if the path leads to no name. -/
def withEnding? (path ending : String) : Option String := do
  let _ ← ofPath? path
  return go path.toList.reverse ++ "." ++ ending
where
  /-- The characters up to the end of the name, from the characters in reverse order. -/
  go : List Char → String
    | '/' :: cs | '.' :: '/' :: cs => go cs
    | cs => String.ofList cs.reverse

/-- The path of a file beside another, whose name goes on before its ending. -/
def beside (path addition : String) : String :=
  let (folder, name) := cutLast path
  let stem := ((cutEnding? name).map Prod.fst).getD name
  folder ++ stem ++ addition

end Paperdoll.FileName
