import Paperdoll.Frame.Atlas
import Paperdoll.Json.Dialect

/-!
# Atlases as documents

An atlas is a record of `frameGrid`, `frameList` and `aliases`, each of which may be missing or
`null`. **`Atlas.parse`** reads one from either written form.
-/

namespace Paperdoll

open Json (Dialect Reading Tree)

variable (d : Dialect)

def readPair (t : Tree) : Reading (UInt32 × UInt32) := do
  match ← d.readWords 2 t with
  | [a, b] => return (a, b)
  | _ => .error .refused

/-- The corners of a rectangle: left, top, right, bottom. -/
def readCorners (t : Tree) : Reading Corners := do
  match ← d.readWords 4 t with
  | [left, top, right, bottom] => return ⟨left, top, right, bottom⟩
  | _ => .error .refused

def readText (t : Tree) : Reading String :=
  Json.need t.toText?

def readRow (t : Tree) : Reading (List (Option String)) := do
  (← Json.need t.items?).mapM (Tree.optional readText)

def readNames (t : Tree) : Reading (List (List (Option String))) := do
  (← Json.need t.items?).mapM readRow

/-- The names of the fields of a grid, none of which may be missing. -/
def gridFields : List String := ["size", "dimensions", "names"]

def readGridField (g : FrameGrid) : String × Tree → Reading FrameGrid
  | ("size", t) => do
    let (cellWidth, cellHeight) ← readPair d t
    return { g with cellWidth, cellHeight }
  | ("dimensions", t) => do
    let (columns, rows) ← readPair d t
    return { g with columns, rows }
  | (_, t) => return { g with names := ← readNames t }

def readGrid (t : Tree) : Reading FrameGrid := do
  let g ← d.readFields gridFields (readGridField d) ⟨0, 0, 0, 0, []⟩ t
  if (d.fields gridFields t).1.length = gridFields.length then return g else .error .refused

/-- Named rectangles; of two with the same name the later one counts. -/
def readRects (t : Tree) : Reading (Std.TreeMap String Corners) := do
  (← Json.need t.members?).foldlM (fun map member => do
    let name ← Json.need member.1
    let corners ← readCorners d member.2
    return map.insert name corners) ∅

/-- Further names, all of them, in the order in which they are written. -/
def readAliases (t : Tree) : Reading (List (String × String)) := do
  (← Json.need t.members?).mapM fun member => do
    return (← Json.need member.1, ← readText member.2)

def readAtlasField (a : Atlas) : String × Tree → Reading Atlas
  | ("frameGrid", t) => return { a with grid := ← t.optional (readGrid d) }
  | ("frameList", t) => return { a with rects := ← t.optional (readRects d) }
  | (_, t) => return { a with aliases := ← t.optional readAliases }

def Atlas.ofTree (t : Tree) : Reading Atlas :=
  d.readFields ["frameGrid", "frameList", "aliases"] (readAtlasField d) {} t

def Atlas.parse (text : String) : Reading Atlas := do
  Atlas.ofTree d (← Json.need (d.parse text))

end Paperdoll
