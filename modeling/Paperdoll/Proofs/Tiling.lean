import Mathlib.Data.List.Nodup
import Paperdoll.Proofs.Coat
import Paperdoll.Proofs.Imprint
import Paperdoll.Proofs.Resolution

/-!
# Tiling: the frames of a grid lie on the sheet as its cells do

The corners of cells are products of words, capped where they leave the range. Far beyond the
sheet, different cells may therefore have the same region. But a frame is drawn only as far as the
sheet has it, and of such a region the sheet has nothing.

**Theorem (`performAll_tiledBy`).** Take a sheet whose frames are declared by a grid alone, and
recolor it at will. A frame that the surface holds takes from the sheet the pixels whose column
and row, divided by the size of a cell, give the last cell of its name, and no others. Frames of
different cells have no pixel in common. If each cell has a name of its own and the cells fill the
sheet, to draw each frame where its cell is, in whatever order, is to draw the whole sheet.

That the cap does no harm is a fact about one direction (`mem_stretch_iff`). From it follow the
pixels that a frame takes (`cellOf_eq_of_mem_taken`, `exists_mem_taken_cellAt`) and the one pixel
that it shows at a place (`pixelAt?_cellAt`). Of all cells of a full grid only one has a pixel for
a place (`filterMap_cellPixel?`), so no order of drawing differs from another.
-/

namespace Paperdoll

/-! ## What drawing takes from a sheet -/

namespace Sheet

variable {s : Sheet} {r : Region} {surface : Bitmap} {dx dy : Int} {x y : Nat} {t : Stamp}

/-- The stamps of a region, each with the column and the row of the sheet from which it is taken. -/
def taken (s : Sheet) (r : Region) (surface : Bitmap) (dx dy : Int) : List ((Nat × Nat) × Stamp) :=
  (List.range (reach r.y r.height s.working.height)).flatMap fun row =>
    (List.range (reach r.x r.width s.working.width)).filterMap fun column =>
      (s.stamp? r surface dx dy row column).map fun t =>
        ((r.x.toNat + column, r.y.toNat + row), t)

/-- What drawing a frame takes from the sheet. -/
def takenBy (s : Sheet) (frame : String) (surface : Bitmap) (dx dy : Int) :
    List ((Nat × Nat) × Stamp) :=
  (s.frames.get? frame).elim [] fun r => s.taken r surface dx dy

/-- The surface holds all that the sheet has of a region. -/
def Fits (s : Sheet) (r : Region) (surface : Bitmap) (dx dy : Int) : Prop :=
  (0 ≤ dx ∧ dx + reach r.x r.width s.working.width ≤ surface.width.toNat) ∧
    0 ≤ dy ∧ dy + reach r.y r.height s.working.height ≤ surface.height.toNat

theorem map_snd_taken (s : Sheet) (r : Region) (surface : Bitmap) (dx dy : Int) :
    (s.taken r surface dx dy).map Prod.snd = s.stamps r surface dx dy := by
  unfold taken stamps
  simp only [List.map_flatMap, List.map_filterMap, Option.map_map, Function.comp_def,
    Option.map_id']

theorem drawRegion_eq_foldl_taken (s : Sheet) (surface : Bitmap) (r : Region) (dx dy : Int) :
    s.drawRegion surface r dx dy =
      (s.taken r surface dx dy).foldl (fun surface t => press surface t.2) surface := by
  unfold drawRegion
  rw [← map_snd_taken, List.foldl_map]

theorem mem_taken :
    ((x, y), t) ∈ s.taken r surface dx dy ↔
      ∃ row < reach r.y r.height s.working.height, ∃ column < reach r.x r.width s.working.width,
        s.stamp? r surface dx dy row column = some t ∧
          r.x.toNat + column = x ∧ r.y.toNat + row = y := by
  unfold taken
  simp only [List.mem_flatMap, List.mem_filterMap, List.mem_range, Option.map_eq_some_iff,
    Prod.mk.injEq]
  constructor
  · rintro ⟨row, hrow, column, hcolumn, _, hstamp, ⟨hx, hy⟩, rfl⟩
    exact ⟨row, hrow, column, hcolumn, hstamp, hx, hy⟩
  · rintro ⟨row, hrow, column, hcolumn, hstamp, hx, hy⟩
    exact ⟨row, hrow, column, hcolumn, t, hstamp, ⟨hx, hy⟩, rfl⟩

theorem get?_of_mem_taken (h : ((x, y), t) ∈ s.taken r surface dx dy) :
    s.working.get? x y = some t.pixel := by
  obtain ⟨row, -, column, -, hstamp, rfl, rfl⟩ := mem_taken.1 h
  exact (stamp?_eq_some.1 hstamp).2.2.2.2

/-- What is taken lies in the part of the region that the sheet has. -/
theorem lt_of_mem_taken (h : ((x, y), t) ∈ s.taken r surface dx dy) :
    (r.x.toNat ≤ x ∧ x < r.x.toNat + reach r.x r.width s.working.width) ∧
      r.y.toNat ≤ y ∧ y < r.y.toNat + reach r.y r.height s.working.height := by
  obtain ⟨row, hrow, column, hcolumn, -, rfl, rfl⟩ := mem_taken.1 h
  omega

/-- A surface that holds the region takes all of that part. -/
theorem exists_mem_taken (fits : s.Fits r surface dx dy)
    (hx : r.x.toNat ≤ x ∧ x < r.x.toNat + reach r.x r.width s.working.width)
    (hy : r.y.toNat ≤ y ∧ y < r.y.toNat + reach r.y r.height s.working.height) :
    ∃ t, ((x, y), t) ∈ s.taken r surface dx dy := by
  obtain ⟨wide, high⟩ := fits
  have inside : s.working.get? x y ≠ none := by
    rw [Ne, Bitmap.get?_eq_none_iff]
    unfold reach at hx hy
    omega
  obtain ⟨p, hp⟩ := Option.ne_none_iff_exists'.1 inside
  refine ⟨⟨(dx + (x - r.x.toNat)).toNat, (dy + (y - r.y.toNat)).toNat, p⟩, mem_taken.2
    ⟨y - r.y.toNat, by omega, x - r.x.toNat, by omega, stamp?_eq_some.2 ?_, by omega, by omega⟩⟩
  refine ⟨?_, ?_, ?_, ?_, ?_⟩
  · show dy + (y - r.y.toNat : Nat) = ((dy + (y - r.y.toNat)).toNat : Int)
    omega
  · show (dy + (y - r.y.toNat)).toNat < surface.height.toNat
    omega
  · show dx + (x - r.x.toNat : Nat) = ((dx + (x - r.x.toNat)).toNat : Int)
    omega
  · show (dx + (x - r.x.toNat)).toNat < surface.width.toNat
    omega
  · rw [Nat.add_sub_cancel' hx.1, Nat.add_sub_cancel' hy.1]
    exact hp

end Sheet

/-! ## One direction -/

open Sheet (reach)

section Stretch

variable {size side : UInt32} {index x : Nat}

/-- **The part of a stretch that a side has** is the one that division gives. A stretch whose start
had to be capped begins where the longest side ends. -/
theorem mem_stretch_iff (pos : 0 < size.toNat) :
    ((capped (index * size.toNat)).toNat ≤ x ∧
        x < (capped (index * size.toNat)).toNat +
          reach (capped (index * size.toNat)) size side) ↔
      x < side.toNat ∧ x / size.toNat = index := by
  have longest : side.toNat ≤ maxWord := Nat.le_of_lt_succ side.toNat_lt
  rw [Nat.div_eq_iff pos]
  unfold reach
  rw [toNat_capped]
  by_cases small : index * size.toNat ≤ maxWord
  · rw [Nat.min_eq_left small]
    omega
  · rw [Nat.min_eq_right (by omega)]
    omega

/-- Two stretches may start at the same place, far beyond every side. -/
example : capped (2 * 2147483648) = capped (3 * 2147483648) := by decide

theorem mem_stretch_iff_sub (pos : 0 < size.toNat) :
    (0 ≤ (x : Int) - (index * size.toNat : Nat) ∧
        (x : Int) - (index * size.toNat : Nat) < reach (capped (index * size.toNat)) size side) ↔
      x < side.toNat ∧ x / size.toNat = index := by
  have longest : side.toNat ≤ maxWord := Nat.le_of_lt_succ side.toNat_lt
  rw [← mem_stretch_iff pos]
  unfold reach
  rw [toNat_capped]
  omega

theorem start_add_sub (pos : 0 < size.toNat) (h : x < side.toNat ∧ x / size.toNat = index) :
    (capped (index * size.toNat)).toNat + ((x : Int) - (index * size.toNat : Nat)).toNat = x := by
  have longest : side.toNat ≤ maxWord := Nat.le_of_lt_succ side.toNat_lt
  have here := (mem_stretch_iff_sub pos).2 h
  rw [toNat_capped]
  omega

end Stretch

/-! ## The pixels of a cell -/

/-- Column and row of the cell that a pixel of the sheet belongs to. -/
def FrameGrid.cellOf (grid : FrameGrid) (x y : Nat) : Nat × Nat :=
  (x / grid.cellWidth.toNat, y / grid.cellHeight.toNat)

/-- A cell has at least one pixel. -/
structure FrameGrid.HasArea (grid : FrameGrid) : Prop where
  width : 0 < grid.cellWidth.toNat
  height : 0 < grid.cellHeight.toNat

namespace Sheet

open FrameTable (cellAt)

variable {s : Sheet} {grid : FrameGrid} {name : String} {place : Nat × Nat} {surface : Bitmap}
  {dx dy : Int} {x y : Nat}

/-- What is taken of a cell belongs to it. -/
theorem cellOf_eq_of_mem_taken (area : grid.HasArea) {t : Stamp}
    (h : ((x, y), t) ∈ s.taken (cellAt grid place) surface dx dy) :
    x < s.working.width.toNat ∧ y < s.working.height.toNat ∧ grid.cellOf x y = place := by
  obtain ⟨column, row⟩ := lt_of_mem_taken h
  obtain ⟨hx, hcolumn⟩ := (mem_stretch_iff area.width).1 column
  obtain ⟨hy, hrow⟩ := (mem_stretch_iff area.height).1 row
  exact ⟨hx, hy, Prod.ext hcolumn hrow⟩

/-- All that belongs to a cell is taken, if the surface holds it. -/
theorem exists_mem_taken_cellAt (area : grid.HasArea)
    (fits : s.Fits (cellAt grid (grid.cellOf x y)) surface dx dy)
    (hx : x < s.working.width.toNat) (hy : y < s.working.height.toNat) :
    ∃ t, ((x, y), t) ∈ s.taken (cellAt grid (grid.cellOf x y)) surface dx dy :=
  exists_mem_taken fits ((mem_stretch_iff area.width).2 ⟨hx, rfl⟩)
    ((mem_stretch_iff area.height).2 ⟨hy, rfl⟩)

/-- The pixel at a place of the sheet, if it belongs to a cell. -/
def cellPixel? (s : Sheet) (grid : FrameGrid) (x y : Nat) (place : Nat × Nat) : Option Pixel :=
  if grid.cellOf x y = place then s.working.get? x y else none

/-- **What the frame of a cell shows at a place**, when it is drawn where the cell is. -/
theorem pixelAt?_cellAt (area : grid.HasArea) (s : Sheet) (place : Nat × Nat) (x y : Nat) :
    s.pixelAt? (cellAt grid place) (x - (place.1 * grid.cellWidth.toNat : Nat))
        (y - (place.2 * grid.cellHeight.toNat : Nat)) = s.cellPixel? grid x y place := by
  obtain ⟨column, row⟩ := place
  rw [pixelAt?_eq]
  unfold cellPixel?
  by_cases belongs : x < s.working.width.toNat ∧ y < s.working.height.toNat ∧
      grid.cellOf x y = (column, row)
  · obtain ⟨hx, hy, cell⟩ := belongs
    obtain ⟨hcolumn, hrow⟩ := Prod.mk.inj cell
    have left := (mem_stretch_iff_sub area.width).2 ⟨hx, hcolumn⟩
    have top := (mem_stretch_iff_sub area.height).2 ⟨hy, hrow⟩
    -- on the sheet the corner of the cell is not capped
    rw [if_pos cell, if_pos ⟨left.1, left.2, top.1, top.2⟩]
    show s.working.get? ((capped (column * grid.cellWidth.toNat)).toNat + _)
      ((capped (row * grid.cellHeight.toNat)).toNat + _) = _
    rw [start_add_sub area.width ⟨hx, hcolumn⟩, start_add_sub area.height ⟨hy, hrow⟩]
  · rw [if_neg]
    · split
      next cell =>
        rw [eq_comm, Bitmap.get?_eq_none_iff]
        by_cases hx : x < s.working.width.toNat
        · exact .inr (Nat.le_of_not_lt fun hy => belongs ⟨hx, hy, cell⟩)
        · exact .inl (Nat.le_of_not_lt hx)
      next => rfl
    · rintro ⟨left, before, top, above⟩
      obtain ⟨hx, hcolumn⟩ := (mem_stretch_iff_sub area.width).1 ⟨left, before⟩
      obtain ⟨hy, hrow⟩ := (mem_stretch_iff_sub area.height).1 ⟨top, above⟩
      exact belongs ⟨hx, hy, Prod.ext hcolumn hrow⟩

end Sheet

/-! ## Full grids -/

/-- Each cell has a name, and no two have the same. -/
structure FrameGrid.Full (grid : FrameGrid) : Prop where
  rows : grid.names.length = grid.rows.toNat
  columns : ∀ cells ∈ grid.names, cells.length = grid.columns.toNat
  named : ∀ cells ∈ grid.names, none ∉ cells
  distinct : grid.names.flatten.Nodup

theorem eq_of_mem_namedCells {grid : FrameGrid} {c d : String × Nat × Nat}
    (hc : c ∈ namedCells 0 grid.names) (hd : d ∈ namedCells 0 grid.names) (same : c.2 = d.2) :
    c = d := by
  obtain ⟨name, column, row⟩ := c
  obtain ⟨other, place⟩ := d
  cases same
  obtain ⟨cells, there, here⟩ := mem_namedCells.1 hc
  obtain ⟨_, there', here'⟩ := mem_namedCells.1 hd
  cases there.symm.trans there'
  cases here.symm.trans here'
  rfl

theorem map_fst_rowCells (row column : Nat) (names : List (Option String)) :
    (rowCells row column names).map Prod.fst = names.filterMap id := by
  induction names generalizing column with
  | nil => rfl
  | cons name names ih =>
    cases name with
    | none => exact ih (column + 1)
    | some name => exact congrArg (name :: ·) (ih (column + 1))

theorem map_fst_namedCells (row : Nat) (names : List (List (Option String))) :
    (namedCells row names).map Prod.fst = names.flatten.filterMap id := by
  induction names generalizing row with
  | nil => rfl
  | cons cells rest ih =>
    rw [FrameTable.namedCells_cons, List.map_append, map_fst_rowCells, ih, List.flatten_cons,
      List.filterMap_append]

theorem lookup_eq_some_of_mem {α : Type} {entries : List (String × α)} {name : String} {a : α}
    (distinct : (entries.map Prod.fst).Nodup) (mem : (name, a) ∈ entries) :
    entries.lookup name = some a := by
  obtain ⟨front, back, rfl⟩ := List.append_of_mem mem
  refine List.lookup_eq_some_iff.2 ⟨front, back, rfl, fun entry before => ?_⟩
  rw [bne_iff_ne]
  rintro rfl
  rw [List.map_append, List.map_cons] at distinct
  exact (List.nodup_append.1 distinct).2.2 _ (List.mem_map_of_mem before) _ List.mem_cons_self rfl

namespace FrameGrid.Full

variable {grid : FrameGrid} {name : String} {column row : Nat}

theorem nodup_names (full : grid.Full) : ((namedCells 0 grid.names).map Prod.fst).Nodup := by
  rw [map_fst_namedCells]
  refine full.distinct.filterMap fun cell other name here there => ?_
  exact Eq.trans here (Eq.symm there)

/-- The last cell of a name is the only one. -/
theorem lastCell?_eq (full : grid.Full) {place : Nat × Nat}
    (mem : (name, place) ∈ namedCells 0 grid.names) : grid.lastCell? name = some place := by
  refine lookup_eq_some_of_mem ?_ (List.mem_reverse.2 mem)
  rw [List.map_reverse, List.nodup_reverse]
  exact full.nodup_names

theorem exists_mem (full : grid.Full) (hcolumn : column < grid.columns.toNat)
    (hrow : row < grid.rows.toNat) : ∃ name, (name, column, row) ∈ namedCells 0 grid.names := by
  rw [← full.rows] at hrow
  have mem := List.getElem_mem hrow
  have wide := full.columns _ mem
  rw [← wide] at hcolumn
  cases here : grid.names[row][column] with
  | none => exact absurd (here ▸ List.getElem_mem hcolumn) (full.named _ mem)
  | some name =>
    exact ⟨name, mem_namedCells.2 ⟨_, List.getElem?_eq_getElem hrow, by
      rw [List.getElem?_eq_getElem hcolumn, here]⟩⟩

end FrameGrid.Full

/-! ## Drawing cell by cell -/

namespace Sheet

open FrameTable (cellAt)

variable {s : Sheet} {grid : FrameGrid}

/-- The frames of the sheet are the cells of a grid, the last cell of each name. -/
def CutBy (s : Sheet) (grid : FrameGrid) : Prop :=
  ∀ name, s.frames.get? name = (grid.lastCell? name).map (cellAt grid)

/-- Draws the frame of a cell where the cell is. -/
def drawCell (s : Sheet) (grid : FrameGrid) (surface : Bitmap) (cell : String × Nat × Nat) :
    Except Error Bitmap :=
  s.draw surface cell.1 (cell.2.1 * grid.cellWidth.toNat : Nat)
    (cell.2.2 * grid.cellHeight.toNat : Nat)

/-- Cells drawn one after the other, seen from one place. -/
theorem foldlM_drawCell (cut : s.CutBy grid) (area : grid.HasArea)
    {cells : List (String × Nat × Nat)} (last : ∀ c ∈ cells, grid.lastCell? c.1 = some c.2)
    (surface : Bitmap) :
    ∃ drawn, cells.foldlM (s.drawCell grid) surface = .ok drawn ∧
      drawn.width = surface.width ∧ drawn.height = surface.height ∧
      ∀ x y : Nat, drawn.get? x y = (surface.get? x y).map fun p =>
        (cells.filterMap fun c => s.cellPixel? grid x y c.2).foldl Pixel.blend p := by
  induction cells generalizing surface with
  | nil =>
    refine ⟨surface, rfl, rfl, rfl, fun x y => ?_⟩
    cases surface.get? x y <;> rfl
  | cons c cells ih =>
    -- the first cell is drawn under the others
    obtain ⟨here, others⟩ := List.forall_mem_cons.1 last
    obtain ⟨drawn, each, width, height, shown⟩ := ih others (s.drawRegion surface (cellAt grid c.2)
      (c.2.1 * grid.cellWidth.toNat : Nat) (c.2.2 * grid.cellHeight.toNat : Nat))
    obtain ⟨sameWidth, sameHeight⟩ := s.sides_drawRegion surface (cellAt grid c.2)
      (c.2.1 * grid.cellWidth.toNat : Nat) (c.2.2 * grid.cellHeight.toNat : Nat)
    have step : s.drawCell grid surface c = .ok (s.drawRegion surface (cellAt grid c.2)
        (c.2.1 * grid.cellWidth.toNat : Nat) (c.2.2 * grid.cellHeight.toNat : Nat)) := by
      unfold drawCell draw FrameTable.require
      rw [cut, here]
      rfl
    refine ⟨drawn, ?_, width.trans sameWidth, height.trans sameHeight, fun x y => ?_⟩
    · rw [List.foldlM_cons, step]
      exact each
    · rw [shown, get?_drawRegion, pixelAt?_cellAt area, Option.map_map, List.filterMap_cons]
      congr 1
      funext p
      rw [Function.comp_apply]
      cases s.cellPixel? grid x y c.2 <;> rfl

def whole (s : Sheet) : Region :=
  ⟨0, 0, s.working.width, s.working.height⟩

theorem pixelAt?_whole (s : Sheet) (x y : Nat) :
    s.pixelAt? s.whole (x - (0 : Int)) (y - (0 : Int)) = s.working.get? x y := by
  unfold pixelAt? whole
  simp only [Int.sub_zero, Int.toNat_natCast, UInt32.toNat_zero, Nat.zero_add]
  split
  next => rfl
  next outside =>
    rw [eq_comm, Bitmap.get?_eq_none_iff]
    omega

/-- Of the cells of a full grid, in whatever order, just one has a pixel for a place. -/
theorem filterMap_cellPixel? (area : grid.HasArea) (full : grid.Full)
    (width : s.working.width.toNat = grid.columns.toNat * grid.cellWidth.toNat)
    (height : s.working.height.toNat = grid.rows.toNat * grid.cellHeight.toNat)
    {order : List (String × Nat × Nat)} (perm : order.Perm (namedCells 0 grid.names)) (x y : Nat) :
    (order.filterMap fun c => s.cellPixel? grid x y c.2) = (s.working.get? x y).toList := by
  unfold cellPixel?
  cases here : s.working.get? x y with
  | none =>
    rw [List.filterMap_eq_nil_iff.2]
    · rfl
    · intro c _
      split <;> rfl
  | some p =>
    have inside : ¬ (s.working.width.toNat ≤ x ∨ s.working.height.toNat ≤ y) := by
      rw [← Bitmap.get?_eq_none_iff, here]
      exact Option.some_ne_none p
    have hcolumn : x / grid.cellWidth.toNat < grid.columns.toNat := by
      rw [Nat.div_lt_iff_lt_mul area.width]
      omega
    have hrow : y / grid.cellHeight.toNat < grid.rows.toNat := by
      rw [Nat.div_lt_iff_lt_mul area.height]
      omega
    -- the cell at this place is there, and it is the only one that has it
    obtain ⟨name, named⟩ := full.exists_mem hcolumn hrow
    have mem : (name, grid.cellOf x y) ∈ namedCells 0 grid.names := named
    have others : ∀ c ∈ order, c ≠ (name, grid.cellOf x y) →
        (if grid.cellOf x y = c.2 then some p else none) = none := by
      intro c hc ne
      refine if_neg fun same => ne ?_
      exact eq_of_mem_namedCells (perm.mem_iff.1 hc) mem same.symm
    have nodup : order.Nodup := perm.nodup_iff.2 (.of_map _ full.nodup_names)
    rw [filterMap_of_unique nodup others, if_pos (perm.mem_iff.2 mem), if_pos rfl]

/-- **To draw the cells of a full grid is to draw the sheet.** -/
theorem foldlM_drawCell_of_full (cut : s.CutBy grid) (area : grid.HasArea) (full : grid.Full)
    (width : s.working.width.toNat = grid.columns.toNat * grid.cellWidth.toNat)
    (height : s.working.height.toNat = grid.rows.toNat * grid.cellHeight.toNat)
    {order : List (String × Nat × Nat)} (perm : order.Perm (namedCells 0 grid.names))
    (surface : Bitmap) :
    order.foldlM (s.drawCell grid) surface = .ok (s.drawRegion surface s.whole 0 0) := by
  have last : ∀ c ∈ order, grid.lastCell? c.1 = some c.2 := fun c hc =>
    full.lastCell?_eq (perm.mem_iff.1 hc)
  obtain ⟨drawn, each, sameWidth, sameHeight, shown⟩ := foldlM_drawCell cut area last surface
  obtain ⟨wholeWidth, wholeHeight⟩ := s.sides_drawRegion surface s.whole 0 0
  rw [each]
  refine congrArg Except.ok (Bitmap.ext_get? (sameWidth.trans wholeWidth.symm)
    (sameHeight.trans wholeHeight.symm) fun x y => ?_)
  rw [shown, get?_drawRegion, pixelAt?_whole, filterMap_cellPixel? area full width height perm]
  cases s.working.get? x y <;> rfl

end Sheet

/-! ## Every sheet with a grid -/

/-- Nothing but a grid is declared. -/
structure Atlas.OnlyGrid (a : Atlas) (grid : FrameGrid) : Prop where
  grid : a.grid = some grid
  rects : ∀ name : String, a.rectMap[name]? = none
  aliases : a.aliasList = []

namespace Sheet

open FrameTable (cellAt)

variable {s : Sheet} {grid : FrameGrid}

theorem cutBy_of_ofAtlas {picture : Bitmap} {a : Atlas} {fresh : Sheet}
    (only : a.OnlyGrid grid) (h : ofAtlas picture a = .ok fresh) : fresh.CutBy grid := by
  obtain ⟨t, built, made⟩ := Error.bind_eq_ok.1 h
  cases made
  intro name
  rcases FrameTable.build_cases a with
    ⟨-, fault, failed⟩ | ⟨-, -, t', ok, agrees⟩ | ⟨-, _, _, _, -, -, -, failed⟩
  · cases built.symm.trans failed
  · cases built.symm.trans ok
    show t.get? name = _
    rw [agrees, only.aliases, List.length_nil, Atlas.resolve?, Atlas.base?, only.rects, only.grid]
    rfl
  · cases built.symm.trans failed

theorem frames_performAll {picture : Bitmap} {a : Atlas} {fresh : Sheet}
    (h : ofAtlas picture a = .ok fresh) (rs : List Request) :
    (fresh.performAll rs).frames = fresh.frames := by
  obtain ⟨bare, -⟩ := ofAtlas_eq_ok h
  rw [← bare, performAll_wear, frames_wear, frames_wear]

/-- The frames of the sheet are the cells of a grid, and they lie on the sheet as these do. -/
structure TiledBy (s : Sheet) (grid : FrameGrid) : Prop where
  /-- The frames are the names in the grid. -/
  named : ∀ name, s.hasFrame name ↔ (grid.lastCell? name).isSome
  /-- To draw a frame is to press what it takes from the sheet. -/
  drawn : ∀ name, s.hasFrame name → ∀ surface dx dy,
    s.draw surface name dx dy =
        .ok ((s.takenBy name surface dx dy).foldl (fun surface t => press surface t.2) surface) ∧
      ∀ t ∈ s.takenBy name surface dx dy, s.working.get? t.1.1 t.1.2 = some t.2.pixel
  /-- What a frame takes belongs to the last cell of its name. -/
  within : ∀ name surface dx dy, ∀ t ∈ s.takenBy name surface dx dy,
    grid.lastCell? name = some (grid.cellOf t.1.1 t.1.2)
  /-- It takes all of the cell that the sheet has, if the surface holds it. -/
  all : ∀ name place, grid.lastCell? name = some place → ∀ surface dx dy,
    s.Fits (cellAt grid place) surface dx dy → ∀ x y,
      (x, y) ∈ (s.takenBy name surface dx dy).map Prod.fst ↔
        x < s.working.width.toNat ∧ y < s.working.height.toNat ∧ grid.cellOf x y = place
  /-- Frames of different cells have no pixel in common. -/
  apart : ∀ name other, grid.lastCell? name ≠ grid.lastCell? other →
    ∀ surface dx dy surface' dx' dy',
      List.Disjoint ((s.takenBy name surface dx dy).map Prod.fst)
        ((s.takenBy other surface' dx' dy').map Prod.fst)
  /-- All cells together are the sheet, in whatever order they are drawn. -/
  together : grid.Full →
    s.working.width.toNat = grid.columns.toNat * grid.cellWidth.toNat →
    s.working.height.toNat = grid.rows.toNat * grid.cellHeight.toNat →
    ∀ order : List (String × Nat × Nat), order.Perm (namedCells 0 grid.names) → ∀ surface,
      order.foldlM (s.drawCell grid) surface = .ok (s.drawRegion surface s.whole 0 0)

theorem mem_takenBy {name : String} {surface : Bitmap} {dx dy : Int} {t : (Nat × Nat) × Stamp} :
    t ∈ s.takenBy name surface dx dy ↔
      ∃ r, s.frames.get? name = some r ∧ t ∈ s.taken r surface dx dy := by
  unfold takenBy
  cases s.frames.get? name <;> simp

theorem CutBy.lastCell?_of_mem (cut : s.CutBy grid) (area : grid.HasArea) {name : String}
    {surface : Bitmap} {dx dy : Int} {x y : Nat} {t : Stamp}
    (h : ((x, y), t) ∈ s.takenBy name surface dx dy) :
    (x < s.working.width.toNat ∧ y < s.working.height.toNat) ∧
      grid.lastCell? name = some (grid.cellOf x y) := by
  obtain ⟨r, hr, mem⟩ := mem_takenBy.1 h
  rw [cut, Option.map_eq_some_iff] at hr
  obtain ⟨place, last, rfl⟩ := hr
  obtain ⟨hx, hy, rfl⟩ := cellOf_eq_of_mem_taken area mem
  exact ⟨⟨hx, hy⟩, last⟩

theorem CutBy.tiledBy (cut : s.CutBy grid) (area : grid.HasArea) : s.TiledBy grid where
  named name := by
    unfold hasFrame
    rw [← FrameTable.isSome_get?, cut, Option.isSome_map]
  drawn name has surface dx dy := by
    unfold hasFrame at has
    rw [← FrameTable.isSome_get?] at has
    obtain ⟨r, hr⟩ := Option.isSome_iff_exists.1 has
    unfold draw FrameTable.require takenBy
    rw [hr]
    exact ⟨congrArg Except.ok (drawRegion_eq_foldl_taken s surface r dx dy),
      fun t mem => get?_of_mem_taken mem⟩
  within name surface dx dy t mem := (cut.lastCell?_of_mem area mem).2
  all name place last surface dx dy fits x y := by
    constructor
    · intro mem
      obtain ⟨⟨_, t⟩, ht, rfl⟩ := List.mem_map.1 mem
      obtain ⟨⟨hx, hy⟩, cell⟩ := cut.lastCell?_of_mem area ht
      exact ⟨hx, hy, Option.some.inj (cell.symm.trans last)⟩
    · rintro ⟨hx, hy, rfl⟩
      obtain ⟨t, ht⟩ := exists_mem_taken_cellAt area fits hx hy
      refine List.mem_map.2 ⟨((x, y), t), mem_takenBy.2 ⟨_, ?_, ht⟩, rfl⟩
      rw [cut, last]
      rfl
  apart name other ne surface dx dy surface' dx' dy' := by
    rintro ⟨x, y⟩ here there
    obtain ⟨⟨_, t⟩, ht, rfl⟩ := List.mem_map.1 here
    obtain ⟨⟨_, t'⟩, ht', rfl⟩ := List.mem_map.1 there
    exact ne ((cut.lastCell?_of_mem area ht).2.trans (cut.lastCell?_of_mem area ht').2.symm)
  together full width height order perm surface :=
    foldlM_drawCell_of_full cut area full width height perm surface

/-- **The frames of a grid tile the sheet**, in whatever colors it is. -/
theorem performAll_tiledBy {picture : Bitmap} {a : Atlas} {fresh : Sheet} (only : a.OnlyGrid grid)
    (area : grid.HasArea) (h : ofAtlas picture a = .ok fresh) (rs : List Request) :
    (fresh.performAll rs).TiledBy grid := by
  have cut : (fresh.performAll rs).CutBy grid := by
    intro name
    rw [frames_performAll h]
    exact cutBy_of_ofAtlas only h name
  exact cut.tiledBy area

/-- A left and a right half of a sheet of two by two pixels. -/
def halves : FrameGrid :=
  ⟨1, 2, 2, 1, [[some "left", some "right"]]⟩

theorem full_halves : halves.Full where
  rows := rfl
  columns := by decide
  named := by decide
  distinct := by decide

/-- What the halves of `fourSpecks` show after `mixedCalls`: the skin has become black, and the
hidden color has not come to light. -/
def halvesDrawn : Bitmap :=
  ⟨2, 2, #[⟨0, 0, 0, 0x40⟩, ⟨0, 0, 0, 255⟩, .transparent, .transparent], rfl⟩

/-- The right half is drawn first, on a sheet that has been recolored. -/
theorem performAll_tiledBy_halves :
    ∃ fresh, ofAtlas fourSpecks (.ofGrid halves) = .ok fresh ∧
      (fresh.performAll mixedCalls).TiledBy halves ∧
      [("right", 1, 0), ("left", 0, 0)].foldlM ((fresh.performAll mixedCalls).drawCell halves)
          (.filled 2 2 .transparent) = .ok halvesDrawn ∧
      (fresh.performAll mixedCalls).drawRegion (.filled 2 2 .transparent)
          (fresh.performAll mixedCalls).whole 0 0 = halvesDrawn := by
  have run : ((ofAtlas fourSpecks (.ofGrid halves)).toOption.map fun fresh =>
      ((fresh.performAll mixedCalls).working.width, (fresh.performAll mixedCalls).working.height,
        (fresh.performAll mixedCalls).drawRegion (.filled 2 2 .transparent)
          (fresh.performAll mixedCalls).whole 0 0)) =
      some (2, 2, halvesDrawn) := by
    decide +kernel
  obtain ⟨fresh, hfresh, shown⟩ := Option.map_eq_some_iff.1 run
  simp only [Prod.mk.injEq] at shown
  obtain ⟨width, height, drawn⟩ := shown
  have ok := Error.eq_ok_of_toOption hfresh
  have only : (Atlas.ofGrid halves).OnlyGrid halves :=
    { grid := rfl, rects := fun _ => Std.TreeMap.getElem?_emptyc, aliases := rfl }
  have tiled := performAll_tiledBy only ⟨by decide, by decide⟩ ok mixedCalls
  refine ⟨fresh, ok, tiled, ?_, drawn⟩
  rw [← drawn]
  refine tiled.together full_halves ?_ ?_ _ (.swap ..) _
  · rw [width]; rfl
  · rw [height]; rfl

end Sheet

end Paperdoll
