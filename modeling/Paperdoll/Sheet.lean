import Paperdoll.Canvas
import Paperdoll.Frame.Table
import Paperdoll.Palette

/-!
# Sheets

A sheet is a picture that holds the frames of one slot. It keeps the pixels it came with beside
the ones that are drawn, so that every recoloring starts afresh: directives replace each other
and never add up, and directives that cannot be read change nothing.

**Drawing.** `Sheet.stamps` lists the pixels that a region puts on a surface: those that lie in
the region, on the sheet and on the surface. `Sheet.drawRegion` puts them there one after the
other.
-/

namespace Paperdoll

/-- A picture with named frames, in its current colors. -/
structure Sheet where
  /-- The picture as it came. -/
  pristine : Bitmap
  /-- The picture as it is drawn. -/
  working : Bitmap
  frames : FrameTable
  /-- The colors that can be seen in the picture as it came. -/
  palette : Palette
  /-- The directive text in force; empty also after a recoloring that came without one. -/
  directives : String := ""
  /-- What the recoloring in force made of the palette, if there is one. -/
  colorMap : Option ColorMap := none

namespace Sheet

/-- The sheet of a picture and the frames declared for it. -/
def ofAtlas (picture : Bitmap) (atlas : Atlas) : Except Error Sheet := do
  let frames ← FrameTable.build atlas
  return {
    pristine := picture
    working := picture
    frames
    palette := .ofPixels picture.pixels.toList }

/-! ## Recoloring -/

/-- The sheet in the colors it came with. -/
def reset (s : Sheet) : Sheet :=
  { s with working := s.pristine, directives := "", colorMap := none }

/-- The colors it came with, under a recoloring. -/
def recolor (s : Sheet) (m : Recoloring) : Sheet :=
  { s with
    working := s.pristine.recolor m
    directives := ""
    colorMap := some (.derive s.palette m) }

/-- The colors it came with, under a directive text. -/
def applyDirectives (s : Sheet) (text : String) : Except Error Sheet := do
  let m ← Recoloring.parse text
  return { s.recolor m with directives := text }

def visibleColors (s : Sheet) : Palette :=
  match s.colorMap with
  | some m => m.targets
  | none => s.palette

/-! ## Drawing -/

/-- A pixel on its way to a place on a surface. -/
structure Stamp where
  x : Nat
  y : Nat
  pixel : Pixel
deriving DecidableEq, Repr

/-- The place on a side of `length` pixels, if `z` is one. -/
def place? (length : UInt32) (z : Int) : Option Nat :=
  if 0 ≤ z ∧ z < length.toNat then some z.toNat else none

/-- How many pixels of a stretch from `start` on lie on a side of `side` pixels. -/
def reach (start length side : UInt32) : Nat :=
  min length.toNat (side.toNat - start.toNat)

/-- The stamp for the pixel in a column and a row of a region whose corner goes to `(dx, dy)`. -/
def stamp? (s : Sheet) (r : Region) (surface : Bitmap) (dx dy : Int) (row column : Nat) :
    Option Stamp := do
  let y ← place? surface.height (dy + row)
  let x ← place? surface.width (dx + column)
  let pixel ← s.working.get? (r.x.toNat + column) (r.y.toNat + row)
  return ⟨x, y, pixel⟩

/-- The pixels that a region puts on a surface, row by row. -/
def stamps (s : Sheet) (r : Region) (surface : Bitmap) (dx dy : Int) : List Stamp :=
  (List.range (reach r.y r.height s.working.height)).flatMap fun row =>
    (List.range (reach r.x r.width s.working.width)).filterMap fun column =>
      s.stamp? r surface dx dy row column

/-- Puts a pixel over the one at its place. -/
def press (surface : Bitmap) (stamp : Stamp) : Bitmap :=
  surface.blendAt stamp.x stamp.y stamp.pixel

/-- Draws a region with its corner at `(dx, dy)`. -/
def drawRegion (s : Sheet) (surface : Bitmap) (r : Region) (dx dy : Int) : Bitmap :=
  (s.stamps r surface dx dy).foldl press surface

def draw (s : Sheet) (surface : Bitmap) (frame : String) (dx dy : Int) : Except Error Bitmap := do
  let r ← s.frames.require frame
  return s.drawRegion surface r dx dy

def hasFrame (s : Sheet) (frame : String) : Bool :=
  s.frames.contains frame

end Sheet

end Paperdoll
