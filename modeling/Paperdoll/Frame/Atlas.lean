import Paperdoll.Frame.Region
import Std.Data.TreeMap

/-!
# Atlases

An atlas declares the frames of a sheet in up to three ways: a grid of equal cells with a name
for each cell in use, a list of named rectangles, and further names for frames that are
already declared. The rectangles are kept in the order of their names, the further names in
the order in which they were declared.
-/

namespace Paperdoll

structure FrameGrid where
  cellWidth : UInt32
  cellHeight : UInt32
  columns : UInt32
  rows : UInt32
  /-- The names of the cells, row by row; `none` marks a cell without a frame. -/
  names : List (List (Option String))
deriving DecidableEq, Repr

/-- What is declared about the frames of one sheet. -/
structure Atlas where
  grid : Option FrameGrid := none
  rects : Option (Std.TreeMap String Corners) := none
  /-- Each further name with the name of the frame it stands for. -/
  aliases : Option (List (String × String)) := none

namespace Atlas

instance : Inhabited Atlas := ⟨{}⟩

def ofGrid (grid : FrameGrid) : Atlas :=
  { grid := some grid }

/-- Declares a rectangle; an earlier one of the same name is dropped. -/
def addRect (a : Atlas) (name : String) (corners : Corners) : Atlas :=
  { a with rects := some ((a.rects.getD ∅).insert name corners) }

def addAlias (a : Atlas) (name target : String) : Atlas :=
  { a with aliases := some (a.aliases.getD [] ++ [(name, target)]) }

/-- Nothing is declared, not even an empty list. -/
def isEmpty (a : Atlas) : Bool :=
  a.grid.isNone && a.rects.isNone && a.aliases.isNone

end Atlas

end Paperdoll
