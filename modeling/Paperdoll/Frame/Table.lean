import Paperdoll.Error
import Paperdoll.Frame.Atlas
import Std.Data.TreeMap

/-!
# Frame tables

A frame table gives the region of each frame by name. **`FrameTable.build`** fills it from an
atlas: first the grid, row by row, then the rectangles, in the order of their names, then the
further names, each of which takes the region that its target has at that moment. A name that
is given a region again keeps the last one.
-/

namespace Paperdoll

/-- The regions of the frames of a sheet. -/
structure FrameTable where
  map : Std.TreeMap String Region := ∅

namespace FrameTable

def empty : FrameTable := {}

instance : Inhabited FrameTable := ⟨empty⟩

def insert (t : FrameTable) (name : String) (region : Region) : FrameTable :=
  ⟨t.map.insert name region⟩

def get? (t : FrameTable) (name : String) : Option Region :=
  t.map[name]?

def contains (t : FrameTable) (name : String) : Bool :=
  t.map.contains name

/-- The region of a frame that has to be there. -/
def require (t : FrameTable) (name : String) : Except Error Region :=
  match t.get? name with
  | some region => .ok region
  | none => .error (.frameNotFound name)

/-- The frames in the order of their names. -/
def entries (t : FrameTable) : List (String × Region) :=
  t.map.toList

def size (t : FrameTable) : Nat :=
  t.map.size

def isEmpty (t : FrameTable) : Bool :=
  t.map.isEmpty

/-- The least size, measured from the corner of the sheet, that holds every region. -/
def extent (t : FrameTable) : UInt32 × UInt32 :=
  t.entries.foldl (fun e entry => (max e.1 entry.2.right, max e.2 entry.2.bottom)) (0, 0)

@[simp]
theorem get?_empty (name : String) : empty.get? name = none := by
  simp [empty, get?]

theorem get?_insert (t : FrameTable) (name : String) (region : Region) (other : String) :
    (t.insert name region).get? other = if name = other then some region else t.get? other := by
  simp [insert, get?, Std.TreeMap.getElem?_insert]

theorem isSome_get? (t : FrameTable) (name : String) : (t.get? name).isSome = t.contains name :=
  Std.TreeMap.isSome_getElem?_eq_contains

/-! ## Building -/

/-- The region of the cell in a column and a row of the grid. -/
def cell (grid : FrameGrid) (column row : Nat) : Region :=
  ⟨capped (column * grid.cellWidth.toNat), capped (row * grid.cellHeight.toNat),
    grid.cellWidth, grid.cellHeight⟩

/-- Adds the cells of a row from the given column on. -/
def addCells (grid : FrameGrid) (row : Nat) (t : FrameTable) (column : Nat) :
    List (Option String) → Except Error FrameTable
  | [] => .ok t
  | name :: names =>
    if grid.columns.toNat ≤ column then
      .error (.frameMismatch (.columnOutside column grid.columns grid.rows))
    else
      let t := match name with
        | none => t
        | some name => t.insert name (cell grid column row)
      addCells grid row t (column + 1) names

def addRows (grid : FrameGrid) (t : FrameTable) (row : Nat) :
    List (List (Option String)) → Except Error FrameTable
  | [] => .ok t
  | names :: rest =>
    if grid.rows.toNat ≤ row then
      .error (.frameMismatch (.rowOutside row grid.columns grid.rows))
    else do
      let t ← addCells grid row t 0 names
      addRows grid t (row + 1) rest

def addRects (t : FrameTable) : List (String × Corners) → Except Error FrameTable
  | [] => .ok t
  | (name, c) :: rest =>
    match Region.ofCorners? c with
    | none => .error (.frameMismatch (.inverted name c.left c.top c.right c.bottom))
    | some region => (t.insert name region).addRects rest

/-- Adds further names for frames that are already in the table. -/
def addAliases (t : FrameTable) : List (String × String) → Except Error FrameTable
  | [] => .ok t
  | (name, target) :: rest => do
    let region ← t.require target
    (t.insert name region).addAliases rest

/-- The table of the frames that an atlas declares. -/
def build (a : Atlas) : Except Error FrameTable := do
  let t ← match a.grid with
    | none => .ok empty
    | some grid => addRows grid empty 0 grid.names
  let t ← t.addRects ((a.rects.getD ∅).toList)
  t.addAliases (a.aliases.getD [])

end FrameTable

end Paperdoll
