import Mathlib.Data.List.ProdSigma
import Mathlib.Order.Basic
import Paperdoll.Proofs.Footprint
import Paperdoll.Proofs.Pile
import Paperdoll.Proofs.Tiling
import Paperdoll.Proofs.Tinting

/-!
# Extents: when a sheet holds all of its frames

The extent of a frame table is the least size that holds every region. It is found by going over
the frames in no particular order, and the edges of a region are words: an edge beyond the last
word counts as the last word. One size is within another if it is in both directions.

**Theorem (`extent_decides`).** On sides shorter than the last word the extent tells exactly
whether the sheet holds all frames: it stays within the sides if and only if every region does, in
exact arithmetic. The order in which the frames are listed makes no difference, and a cell whose
corner had to be capped is not taken for one that lies on the sheet. If the extent stays within the
sides of a sheet, every frame is drawn uncropped: drawing makes one call for each pixel of the
region, which puts that pixel over the surface.

What carries the first half is that the extent is a least upper bound (`extentOf_le_iff`), so that
it depends on the members of a list only, and that a capped edge stays beyond the sides where the
exact one does (`edges_le_iff`). For the second half, a region that lies on the sheet loses nothing
to it (`reach_of_le`), so the loops go over all of its rows and columns, and a surface that holds
it leaves nothing out either (`exists_stamp?`).
-/

namespace Paperdoll

/-! ## Regions on a sheet -/

namespace Region

variable {r : Region} {width height : UInt32}

/-- The region ends where a sheet with these sides does, or before. -/
def LiesOn (r : Region) (width height : UInt32) : Prop :=
  r.x.toNat + r.width.toNat ≤ width.toNat ∧ r.y.toNat + r.height.toNat ≤ height.toNat

instance : Decidable (r.LiesOn width height) :=
  inferInstanceAs (Decidable (_ ∧ _))

/-- Where the region ends, as far as words go. -/
def edges (r : Region) : UInt32 × UInt32 :=
  (r.right, r.bottom)

/-- Rows and columns of the region, row by row. -/
def spots (r : Region) : List (Nat × Nat) :=
  List.range r.height.toNat ×ˢ List.range r.width.toNat

theorem length_spots (r : Region) : r.spots.length = r.width.toNat * r.height.toNat := by
  unfold spots
  rw [List.length_product, List.length_range, List.length_range, Nat.mul_comm]

/-- **On short sides the edges tell whether the region lies on the sheet.** -/
theorem edges_le_iff (hwidth : width.toNat < maxWord) (hheight : height.toNat < maxWord) :
    r.edges ≤ (width, height) ↔ r.LiesOn width height := by
  unfold edges right bottom LiesOn
  rw [Prod.mk_le_mk, capped_le_iff hwidth, capped_le_iff hheight]

/-- On the longest side a region that ends beyond it looks the same as one that ends with it. -/
example : (⟨4294967295, 0, 2, 1⟩ : Region).edges = (⟨0, 0, 4294967295, 1⟩ : Region).edges := by
  decide

end Region

namespace FrameTable

variable {t : FrameTable} {listing other : List (String × Region)} {size : UInt32 × UInt32}
  {width height : UInt32}

/-- **A cell lies on a sheet where it would without the cap**, or not at all. -/
theorem liesOn_cell_iff (hwidth : width.toNat < maxWord) (hheight : height.toNat < maxWord)
    (grid : FrameGrid) (column row : Nat) :
    (cell grid column row).LiesOn width height ↔
      (column + 1) * grid.cellWidth.toNat ≤ width.toNat ∧
        (row + 1) * grid.cellHeight.toNat ≤ height.toNat := by
  unfold cell Region.LiesOn
  simp only [toNat_capped, Nat.add_mul, Nat.one_mul]
  omega

/-! ## The extent of a list -/

/-- A size enlarged so far that it holds a region. -/
def grow (size : UInt32 × UInt32) (entry : String × Region) : UInt32 × UInt32 :=
  (max size.1 entry.2.right, max size.2 entry.2.bottom)

/-- The extent of frames, taken in the order in which they are listed. -/
def extentOf (listing : List (String × Region)) : UInt32 × UInt32 :=
  listing.foldl grow (0, 0)

/-- The list has the frames of the table and no others, in whatever order. -/
def ListedBy (t : FrameTable) (listing : List (String × Region)) : Prop :=
  ∀ name r, (name, r) ∈ listing ↔ t.get? name = some r

theorem extent_eq (t : FrameTable) : t.extent = extentOf t.entries := rfl

theorem listedBy_entries (t : FrameTable) : t.ListedBy t.entries := fun _ _ =>
  Std.TreeMap.mem_toList_iff_getElem?_eq_some

theorem grow_le_iff {start : UInt32 × UInt32} {entry : String × Region} :
    grow start entry ≤ size ↔ start ≤ size ∧ entry.2.edges ≤ size := by
  simp only [grow, Region.edges, Prod.le_def, max_le_word_iff]
  exact and_and_and_comm

theorem foldl_grow_le_iff {start : UInt32 × UInt32} :
    listing.foldl grow start ≤ size ↔ start ≤ size ∧ ∀ entry ∈ listing, entry.2.edges ≤ size := by
  induction listing generalizing start with
  | nil => simp
  | cons entry rest ih => rw [List.foldl_cons, ih, grow_le_iff, List.forall_mem_cons, and_assoc]

/-- **The extent is the least size that no region exceeds.** -/
theorem extentOf_le_iff : extentOf listing ≤ size ↔ ∀ entry ∈ listing, entry.2.edges ≤ size := by
  unfold extentOf
  rw [foldl_grow_le_iff]
  exact and_iff_right ⟨UInt32.zero_le, UInt32.zero_le⟩

theorem extentOf_congr (same : ∀ entry, entry ∈ listing ↔ entry ∈ other) :
    extentOf listing = extentOf other := by
  have least : ∀ size, extentOf listing ≤ size ↔ extentOf other ≤ size := fun size => by
    simp only [extentOf_le_iff, same]
  have below := (least _).2 (Prod.le_def.2 ⟨UInt32.le_refl _, UInt32.le_refl _⟩)
  have above := (least _).1 (Prod.le_def.2 ⟨UInt32.le_refl _, UInt32.le_refl _⟩)
  exact Prod.ext (UInt32.le_antisymm below.1 above.1) (UInt32.le_antisymm below.2 above.2)

theorem ListedBy.extentOf_eq (h : t.ListedBy listing) : extentOf listing = t.extent := by
  rw [extent_eq]
  exact extentOf_congr fun ⟨name, r⟩ => (h name r).trans (t.listedBy_entries name r).symm

theorem extent_le_iff (hwidth : width.toNat < maxWord) (hheight : height.toNat < maxWord) :
    t.extent ≤ (width, height) ↔ ∀ name r, t.get? name = some r → r.LiesOn width height := by
  rw [extent_eq, extentOf_le_iff]
  simp only [Region.edges_le_iff hwidth hheight, Prod.forall, t.listedBy_entries _ _]

end FrameTable

/-! ## Frames that are drawn uncropped -/

/-- The surface holds the region when its corner goes to `(dx, dy)`. -/
def Region.FitsOn (r : Region) (surface : Bitmap) (dx dy : Int) : Prop :=
  (0 ≤ dx ∧ dx + r.width.toNat ≤ surface.width.toNat) ∧
    0 ≤ dy ∧ dy + r.height.toNat ≤ surface.height.toNat

namespace Sheet

variable {s : Sheet} {frame : String} {r : Region} {surface : Bitmap} {dx dy : Int}

/-- The stamp takes the pixel in a row and a column of the region to the surface. -/
def Carries (s : Sheet) (r : Region) (dx dy : Int) (spot : Nat × Nat) (t : Stamp) : Prop :=
  (t.x : Int) = dx + spot.2 ∧ (t.y : Int) = dy + spot.1 ∧
    s.working.get? (r.x.toNat + spot.2) (r.y.toNat + spot.1) = some t.pixel

/-- Drawing a frame shows all of its region. -/
structure Uncropped (s : Sheet) (frame : String) (r : Region) (surface : Bitmap) (dx dy : Int)
    (calls : List Stamp) : Prop where
  /-- These are the calls that the loops make. -/
  calls_eq : s.calls? r surface dx dy = some calls
  drawn : s.draw surface frame dx dy = .ok (calls.foldl press surface)
  /-- There is one call for each pixel of the region. -/
  length_eq : calls.length = r.width.toNat * r.height.toNat
  carried : List.Forall₂ (s.Carries r dx dy) r.spots calls
  /-- No two calls go to one place. -/
  once : (calls.map Stamp.place).Nodup
  /-- Each pixel lies over the one that was there before. -/
  blended : ∀ t ∈ calls, ∃ old, surface.get? t.x t.y = some old ∧
    (calls.foldl press surface).get? t.x t.y = some (old.blend t.pixel)
  /-- Other places keep what they had. -/
  around : ∀ x y, (x, y) ∉ calls.map Stamp.place →
    (calls.foldl press surface).get? x y = surface.get? x y

theorem reach_of_le {start length side : UInt32} (h : start.toNat + length.toNat ≤ side.toNat) :
    reach start length side = length.toNat := by
  unfold reach
  omega

/-- The loops go over all rows and columns of a region that lies on the sheet. They are nested, and
this is one sieve over the pairs. -/
theorem stamps_eq_filterMap (lies : r.LiesOn s.working.width s.working.height) :
    s.stamps r surface dx dy =
      r.spots.filterMap fun spot => s.stamp? r surface dx dy spot.1 spot.2 := by
  unfold stamps Region.spots
  rw [reach_of_le lies.1, reach_of_le lies.2]
  show _ = ((List.range _).flatMap fun row => (List.range _).map (Prod.mk row)).filterMap _
  simp only [List.filterMap_flatMap, List.filterMap_map, Function.comp_def]

theorem exists_stamp? (lies : r.LiesOn s.working.width s.working.height)
    (fits : r.FitsOn surface dx dy) {spot : Nat × Nat} (mem : spot ∈ r.spots) :
    ∃ t, s.stamp? r surface dx dy spot.1 spot.2 = some t := by
  obtain ⟨row, column⟩ := spot
  obtain ⟨hrow, hcolumn⟩ := List.mem_product.1 mem
  rw [List.mem_range] at hrow hcolumn
  have width := reach_of_le lies.1
  have height := reach_of_le lies.2
  have all : s.Fits r surface dx dy := by
    unfold Fits
    rw [width, height]
    exact fits
  -- what is taken from here on the sheet is the stamp of this row and column
  obtain ⟨t, ht⟩ := exists_mem_taken all (x := r.x.toNat + column) (y := r.y.toNat + row)
    (by omega) (by omega)
  obtain ⟨row', -, column', -, hstamp, hx, hy⟩ := mem_taken.1 ht
  cases Nat.add_left_cancel hx
  cases Nat.add_left_cancel hy
  exact ⟨t, hstamp⟩

theorem carries_of_stamp? {spot : Nat × Nat} {t : Stamp}
    (h : s.stamp? r surface dx dy spot.1 spot.2 = some t) : s.Carries r dx dy spot t := by
  obtain ⟨hy, -, hx, -, hp⟩ := stamp?_eq_some.1 h
  exact ⟨hx.symm, hy.symm, hp⟩

/-- **One call for each pixel of the region**, row by row. -/
theorem forall₂_carries (lies : r.LiesOn s.working.width s.working.height)
    (fits : r.FitsOn surface dx dy) :
    List.Forall₂ (s.Carries r dx dy) r.spots (s.stamps r surface dx dy) := by
  -- a sieve that gives something for every spot
  have some_each : ∀ spot ∈ r.spots,
      (s.stamp? r surface dx dy spot.1 spot.2).isSome ↔ True := fun spot mem =>
    iff_true_intro (Option.isSome_iff_exists.2 (exists_stamp? lies fits mem))
  have each := Character.forall₂_filterMap some_each
  have all : r.spots.filter (fun _ => decide True) = r.spots :=
    List.filter_eq_self.2 fun _ _ => rfl
  rw [all, ← stamps_eq_filterMap lies] at each
  exact each.imp fun spot t => carries_of_stamp?

theorem exists_get?_of_mem_stamps {t : Stamp} (h : t ∈ s.stamps r surface dx dy) :
    ∃ old, surface.get? t.x t.y = some old := by
  have inside := inside_of_mem_stamps h
  rw [← Option.ne_none_iff_exists', Ne, Bitmap.get?_eq_none_iff]
  omega

theorem pixelAt?_of_mem_stamps {t : Stamp} (h : t ∈ s.stamps r surface dx dy) :
    s.pixelAt? r (t.x - dx) (t.y - dy) = some t.pixel := by
  obtain ⟨old, inside⟩ := exists_get?_of_mem_stamps h
  have here : t.goesTo t.x t.y := Stamp.goesTo_iff.2 ⟨rfl, rfl⟩
  have mem := List.mem_map_of_mem (f := Stamp.pixel) (List.mem_filter.2 ⟨h, here⟩)
  rw [filter_stamps inside] at mem
  exact Option.mem_toList.1 mem

/-- Where a stamp goes, its pixel is the only one that is put there. -/
theorem get?_drawRegion_of_mem {t : Stamp} (h : t ∈ s.stamps r surface dx dy) :
    ∃ old, surface.get? t.x t.y = some old ∧
      (s.drawRegion surface r dx dy).get? t.x t.y = some (old.blend t.pixel) := by
  obtain ⟨old, hold⟩ := exists_get?_of_mem_stamps h
  refine ⟨old, hold, ?_⟩
  rw [get?_drawRegion, hold, pixelAt?_of_mem_stamps h]
  rfl

theorem get?_foldl_press_of_not_mem {stamps : List Stamp} {x y : Nat}
    (missed : (x, y) ∉ stamps.map Stamp.place) :
    (stamps.foldl press surface).get? x y = surface.get? x y := by
  have nothing : stamps.filter (·.goesTo x y) = [] := by
    rw [List.filter_eq_nil_iff]
    intro t mem goes
    obtain ⟨rfl, rfl⟩ := Stamp.goesTo_iff.1 goes
    exact missed (List.mem_map_of_mem mem)
  rw [get?_foldl_press, nothing]
  cases surface.get? x y <;> rfl

/-- **A frame that lies on the sheet is drawn uncropped** on a surface that holds it. -/
theorem exists_uncropped (known : s.frames.get? frame = some r)
    (lies : r.LiesOn s.working.width s.working.height) {dx dy : Int32}
    (fits : r.FitsOn surface dx.toInt dy.toInt) :
    ∃ calls, s.Uncropped frame r surface dx.toInt dy.toInt calls := by
  have carried := forall₂_carries lies fits
  exact ⟨s.stamps r surface dx.toInt dy.toInt, {
    calls_eq := calls?_eq dx.le_toInt dx.toInt_lt dy.le_toInt dy.toInt_lt
    drawn := draw_of_get? known surface _ _
    length_eq := by rw [← carried.length_eq, r.length_spots]
    carried
    once := nodup_places
    blended := fun t mem => get?_drawRegion_of_mem mem
    around := fun x y missed => get?_foldl_press_of_not_mem missed }⟩

end Sheet

/-! ## The extent of a sheet -/

namespace FrameTable

/-- **The extent decides whether a sheet holds all of its frames**, and on a sheet that does they
are drawn uncropped. -/
theorem extent_decides (t : FrameTable) (width height : UInt32) (hwidth : width.toNat < maxWord)
    (hheight : height.toNat < maxWord) :
    (∀ listing, t.ListedBy listing → extentOf listing = t.extent) ∧
    (∀ other : FrameTable, (∀ name, other.get? name = t.get? name) → other.extent = t.extent) ∧
    (t.extent ≤ (width, height) ↔ ∀ name r, t.get? name = some r → r.LiesOn width height) ∧
    (∀ grid column row, (cell grid column row).LiesOn width height ↔
      (column + 1) * grid.cellWidth.toNat ≤ width.toNat ∧
        (row + 1) * grid.cellHeight.toNat ≤ height.toNat) ∧
    (t.extent ≤ (width, height) →
      ∀ s : Sheet, s.frames = t → s.working.width = width → s.working.height = height →
        ∀ name r, t.get? name = some r → ∀ surface (dx dy : Int32),
          r.FitsOn surface dx.toInt dy.toInt →
            ∃ calls, s.Uncropped name r surface dx.toInt dy.toInt calls) := by
  have decides := extent_le_iff (t := t) hwidth hheight
  refine ⟨fun listing listed => listed.extentOf_eq, fun other same => ?_, decides,
    liesOn_cell_iff hwidth hheight, fun within => ?_⟩
  · have listed : t.ListedBy other.entries := fun name r => by
      rw [other.listedBy_entries, same]
    exact listed.extentOf_eq
  · rintro s rfl rfl rfl name r known surface dx dy fits
    exact Sheet.exists_uncropped known (decides.1 within name r known) fits

/-- A grid whose right cell goes beyond a sheet of three columns, and a rectangle that takes its
name. -/
def patched : Atlas :=
  (Atlas.ofGrid ⟨2, 2, 2, 1, [[some "left", some "right"]]⟩).addRect "right" ⟨2, 0, 3, 2⟩

/-- The last pixel in the first row turns blue. -/
def blueTip : List Sheet.Request :=
  [.applyDirectives "?replace;030000=0000ff"]

/-- The frames fill the sheet and are drawn into the last corner of the surface. One more frame
that ends beyond the last word does not look contained, although its end would wrap to one. -/
theorem extent_decides_patched :
    ∃ fresh, Sheet.ofAtlas Sheet.sixReds.pristine patched = .ok fresh ∧
      extentOf [("right", ⟨2, 0, 1, 2⟩), ("left", ⟨0, 0, 2, 2⟩)] = fresh.frames.extent ∧
      ((empty.insert "right" ⟨2, 0, 1, 2⟩).insert "left" ⟨0, 0, 2, 2⟩).extent =
        fresh.frames.extent ∧
      fresh.frames.extent ≤ (3, 2) ∧
      (fresh.performAll blueTip).Uncropped "right" ⟨2, 0, 1, 2⟩ (.filled 4 4 .transparent) 3 2
        [⟨3, 2, ⟨0, 0, 255, 255⟩⟩, ⟨3, 3, ⟨6, 0, 0, 255⟩⟩] ∧
      ¬ (fresh.frames.insert "far" ⟨4294967295, 0, 2, 1⟩).extent ≤ (3, 2) := by
  have run : ((Sheet.ofAtlas Sheet.sixReds.pristine patched).toOption.map fun fresh =>
      (fresh.frames.entries, ((fresh.performAll blueTip).working.width,
        (fresh.performAll blueTip).working.height),
        (fresh.performAll blueTip).calls? ⟨2, 0, 1, 2⟩ (.filled 4 4 .transparent) 3 2)) =
      some ([("left", ⟨0, 0, 2, 2⟩), ("right", ⟨2, 0, 1, 2⟩)], (3, 2),
        some [⟨3, 2, ⟨0, 0, 255, 255⟩⟩, ⟨3, 3, ⟨6, 0, 0, 255⟩⟩]) := by
    decide +kernel
  obtain ⟨fresh, hfresh, seen⟩ := Option.map_eq_some_iff.1 run
  simp only [Prod.mk.injEq] at seen
  obtain ⟨entries, ⟨wide, high⟩, made⟩ := seen
  have ok := Error.eq_ok_of_toOption hfresh
  have known : ∀ name r, fresh.frames.get? name = some r ↔
      name = "left" ∧ r = ⟨0, 0, 2, 2⟩ ∨ name = "right" ∧ r = ⟨2, 0, 1, 2⟩ := fun name r => by
    rw [← fresh.frames.listedBy_entries, entries, List.mem_pair, Prod.mk.injEq, Prod.mk.injEq]
  obtain ⟨ordered, registered, within, -, drawn⟩ :=
    extent_decides fresh.frames 3 2 (by decide) (by decide)
  have contained : fresh.frames.extent ≤ (3, 2) := within.2 fun name r h => by
    rcases (known name r).1 h with ⟨-, rfl⟩ | ⟨-, rfl⟩ <;> decide
  obtain ⟨calls, uncropped⟩ := drawn contained (fresh.performAll blueTip)
    (Sheet.frames_performAll ok blueTip) wide high "right" ⟨2, 0, 1, 2⟩
    ((known _ _).2 (.inr ⟨rfl, rfl⟩)) (.filled 4 4 .transparent) 3 2
    (by unfold Region.FitsOn; decide)
  cases uncropped.calls_eq.symm.trans made
  refine ⟨fresh, ok, ordered _ fun name r => ?_, registered _ fun name => ?_, contained,
    uncropped, fun looks => ?_⟩
  · rw [known, List.mem_pair, Prod.mk.injEq, Prod.mk.injEq, or_comm]
  · ext r
    rw [known, get?_insert, get?_insert, get?_empty]
    by_cases left : "left" = name
    · subst left
      simp [eq_comm]
    · by_cases right : "right" = name
      · subst right
        simp [eq_comm]
      · simp [left, right, Ne.symm left, Ne.symm right]
  · obtain ⟨-, -, within, -⟩ := extent_decides
      (fresh.frames.insert "far" ⟨4294967295, 0, 2, 1⟩) 3 2 (by decide) (by decide)
    have lies := within.1 looks "far" ⟨4294967295, 0, 2, 1⟩ (by rw [get?_insert, if_pos rfl])
    exact absurd lies (by decide)

end FrameTable

end Paperdoll
