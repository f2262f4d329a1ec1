import Mathlib.Data.List.Nodup
import Paperdoll.Proofs.Imprint
import Paperdoll.Word

/-!
# Footprints: the calls that drawing a region makes

A region is drawn by two nested loops, over the rows and over the columns that lie on the sheet.
Places on the surface are computed with a sign and in 64 bits, places on the sheet in 32 bits; what
falls outside the surface is left out before a pixel is put there.

**Theorem (`drawRegion_footprint`).** Whatever the region, the surface and the 32 bits of the
destination, every number on the way has room. The loops put pixels inside the surface only, and at
most one at each place. Afterwards a place of the surface that the region reaches, in exact
arithmetic, holds its old pixel under the one of the sheet that lies there, and any other place
what it held before.

Inside the loops the sums are bounded by the sides of the sheet, and this is where the room comes
from (`cell?_eq`, `row?_eq`). A place determines the row and the column that lead there, so the
calls at one place are one at most (`nodup_places`); what they leave there is known already
(`get?_drawRegion`).
-/

namespace Paperdoll

theorem mapM_of_forall {α β : Type} {f : α → Option β} {g : α → β} {l : List α}
    (h : ∀ a ∈ l, f a = some (g a)) : l.mapM f = some (l.map g) := by
  induction l with
  | nil => rfl
  | cons a rest ih =>
    rw [List.mapM_cons, h a List.mem_cons_self, ih fun b mem => h b (List.mem_cons_of_mem a mem)]
    rfl

namespace Sheet

variable {s : Sheet} {r : Region} {surface : Bitmap} {dx dy : Int} {row column : Nat}

/-! ## The loops -/

/-- The call for one column of the row that goes to `y`, if there is one. -/
def cell? (s : Sheet) (r : Region) (surface : Bitmap) (dx y : Int) (row column : Nat) :
    Option (Option Stamp) := do
  let x ← long? (dx + column)
  if x < 0 ∨ surface.width.toNat ≤ x then return none
  else
    let u ← word? (r.x.toNat + column)
    let v ← word? (r.y.toNat + row)
    match s.working.get? u v with
    | none => return none
    | some pixel =>
      let x ← wordOfLong? x
      let y ← wordOfLong? y
      return some ⟨x, y, pixel⟩

def row? (s : Sheet) (r : Region) (surface : Bitmap) (dx dy : Int) (row : Nat) :
    Option (List Stamp) := do
  let y ← long? (dy + row)
  if y < 0 ∨ surface.height.toNat ≤ y then return []
  else
    let cells ← (List.range (reach r.x r.width s.working.width)).mapM
      (s.cell? r surface dx y row)
    return cells.filterMap id

/-- The calls that drawing a region makes, one after the other, if every number has room. -/
def calls? (s : Sheet) (r : Region) (surface : Bitmap) (dx dy : Int) : Option (List Stamp) := do
  let rows ← (List.range (reach r.y r.height s.working.height)).mapM (s.row? r surface dx dy)
  return rows.flatten

/-! ## Room -/

theorem long?_add {z : Int} (low : -2 ^ 31 ≤ z) (high : z < 2 ^ 31) {n : Nat} (hn : n < 2 ^ 32) :
    long? (z + n) = some (z + n) :=
  long?_of_bounds (by omega) (by omega)

theorem lt_of_lt_reach {start length side : UInt32} {n : Nat} (h : n < reach start length side) :
    start.toNat + n < side.toNat ∧ n < length.toNat := by
  unfold reach at h
  omega

theorem place?_eq_none {length : UInt32} {z : Int} :
    place? length z = none ↔ z < 0 ∨ length.toNat ≤ z := by
  unfold place?
  rw [ite_eq_right_iff]
  simp only [reduceCtorEq, imp_false]
  omega

theorem cell?_eq (low : -2 ^ 31 ≤ dx) (high : dx < 2 ^ 31) {y : Nat}
    (hrow : row < reach r.y r.height s.working.height)
    (hcolumn : column < reach r.x r.width s.working.width)
    (hy : place? surface.height (dy + row) = some y) :
    s.cell? r surface dx (dy + row) row column = some (s.stamp? r surface dx dy row column) := by
  have hu := lt_of_lt_reach hcolumn
  have hv := lt_of_lt_reach hrow
  have width := s.working.width.toNat_lt
  have height := s.working.height.toNat_lt
  have sum : long? (dx + column) = some (dx + column) := long?_add low high (by omega)
  unfold cell? stamp?
  rw [sum, hy]
  simp only [Option.bind_eq_bind, Option.bind_some]
  cases hx : place? surface.width (dx + column) with
  | none => rw [if_pos (place?_eq_none.1 hx)]; rfl
  | some x =>
    have outside : ¬ (dx + column < 0 ∨ surface.width.toNat ≤ dx + column) := fun out => by
      rw [place?_eq_none.2 out] at hx
      cases hx
    -- the column and the row lie on the sheet, so their numbers are words
    have u : word? (r.x.toNat + column) = some (r.x.toNat + column) :=
      word?_of_le (by unfold maxWord; omega)
    have v : word? (r.y.toNat + row) = some (r.y.toNat + row) :=
      word?_of_le (by unfold maxWord; omega)
    rw [if_neg outside, u, v]
    simp only [Option.bind_some]
    cases s.working.get? (r.x.toNat + column) (r.y.toNat + row) with
    | none => rfl
    | some pixel =>
      obtain ⟨hx, xIn⟩ := place?_eq_some.1 hx
      obtain ⟨hy, yIn⟩ := place?_eq_some.1 hy
      have wide := surface.width.toNat_lt
      have tall := surface.height.toNat_lt
      -- and they lie on the surface, so narrowing loses nothing
      have x' : wordOfLong? x = some x :=
        wordOfLong?_of_bounds (by omega) (by unfold maxWord; omega)
      have y' : wordOfLong? y = some y :=
        wordOfLong?_of_bounds (by omega) (by unfold maxWord; omega)
      simp only [hx, hy, x', y', Option.bind_some]
      rfl

theorem row?_eq (lowX : -2 ^ 31 ≤ dx) (highX : dx < 2 ^ 31) (lowY : -2 ^ 31 ≤ dy)
    (highY : dy < 2 ^ 31) (hrow : row < reach r.y r.height s.working.height) :
    s.row? r surface dx dy row =
      some ((List.range (reach r.x r.width s.working.width)).filterMap
        (s.stamp? r surface dx dy row)) := by
  have hv := lt_of_lt_reach hrow
  have height := s.working.height.toNat_lt
  have sum : long? (dy + row) = some (dy + row) := long?_add lowY highY (by omega)
  unfold row?
  rw [sum]
  simp only [Option.bind_eq_bind, Option.bind_some]
  cases hy : place? surface.height (dy + row) with
  | none =>
    have nothing : ∀ column, s.stamp? r surface dx dy row column = none := fun column => by
      unfold stamp?
      rw [hy]
      rfl
    rw [if_pos (place?_eq_none.1 hy)]
    simp [nothing]
  | some y =>
    have outside : ¬ (dy + row < 0 ∨ surface.height.toNat ≤ dy + row) := fun out => by
      rw [place?_eq_none.2 out] at hy
      cases hy
    have cells := mapM_of_forall (f := s.cell? r surface dx (dy + row) row) fun column mem =>
      cell?_eq lowX highX hrow (List.mem_range.1 mem) hy
    rw [if_neg outside, cells, Option.bind_some, List.filterMap_map]
    rfl

/-- **Every number has room**, and the calls are the stamps of the region. -/
theorem calls?_eq (lowX : -2 ^ 31 ≤ dx) (highX : dx < 2 ^ 31) (lowY : -2 ^ 31 ≤ dy)
    (highY : dy < 2 ^ 31) :
    s.calls? r surface dx dy = some (s.stamps r surface dx dy) := by
  have rows := mapM_of_forall (f := s.row? r surface dx dy) fun row mem =>
    row?_eq lowX highX lowY highY (List.mem_range.1 mem)
  unfold calls? stamps
  rw [rows, List.flatMap_def]
  rfl

/-! ## Places -/

theorem exists_stamp?_of_mem {t : Stamp} (h : t ∈ s.stamps r surface dx dy) :
    ∃ row column, s.stamp? r surface dx dy row column = some t := by
  simp only [stamps, List.mem_flatMap, List.mem_filterMap] at h
  obtain ⟨row, -, column, -, h⟩ := h
  exact ⟨row, column, h⟩

theorem inside_of_mem_stamps {t : Stamp} (h : t ∈ s.stamps r surface dx dy) :
    t.x < surface.width.toNat ∧ t.y < surface.height.toNat := by
  obtain ⟨row, column, h⟩ := exists_stamp?_of_mem h
  obtain ⟨-, hy, -, hx, -⟩ := stamp?_eq_some.1 h
  exact ⟨hx, hy⟩

def Stamp.place (t : Stamp) : Nat × Nat := (t.x, t.y)

/-- **No two calls go to one place.** -/
theorem nodup_places : ((s.stamps r surface dx dy).map Stamp.place).Nodup := by
  rw [List.nodup_iff_count_le_one]
  rintro ⟨x, y⟩
  cases inside : surface.get? x y with
  | none =>
    -- nothing goes outside the surface
    rw [List.count_eq_zero_of_not_mem]
    · exact Nat.zero_le 1
    · intro mem
      obtain ⟨t, ht, heq⟩ := List.mem_map.1 mem
      obtain ⟨rfl, rfl⟩ := Prod.mk.inj heq
      have := inside_of_mem_stamps ht
      rw [Bitmap.get?_eq_none_iff] at inside
      omega
  | some p =>
    have same : ∀ t : Stamp, (t.place == (x, y)) = t.goesTo x y := fun t => by
      rw [Bool.eq_iff_iff, beq_iff_eq, Stamp.goesTo_iff, Stamp.place, Prod.mk.injEq, eq_comm,
        @eq_comm _ t.y]
    have few : (((s.stamps r surface dx dy).filter (·.goesTo x y)).map Stamp.pixel).length ≤ 1 := by
      rw [filter_stamps inside]
      cases s.pixelAt? r (x - dx) (y - dy) <;> simp
    rw [List.count, List.countP_map, List.countP_eq_length_filter]
    simpa only [Function.comp_def, same, List.length_map] using few

/-- Column `u` and row `v` of a region lie in the region and on the picture that is drawn. -/
def Reaches (s : Sheet) (r : Region) (u v : Int) : Prop :=
  (0 ≤ u ∧ u < r.width.toNat) ∧ (0 ≤ v ∧ v < r.height.toNat) ∧
    r.x.toNat + u < s.working.width.toNat ∧ r.y.toNat + v < s.working.height.toNat

theorem exists_pixelAt? {u v : Int} (h : s.Reaches r u v) : ∃ p, s.pixelAt? r u v = some p := by
  obtain ⟨hu, hv, hx, hy⟩ := h
  rw [← Option.isSome_iff_exists, Option.isSome_iff_ne_none]
  unfold pixelAt?
  rw [if_pos ⟨hu.1, hu.2, hv⟩, Ne, Bitmap.get?_eq_none_iff]
  omega

theorem pixelAt?_of_not_reaches {u v : Int} (h : ¬ s.Reaches r u v) : s.pixelAt? r u v = none := by
  unfold pixelAt?
  rw [ite_eq_right_iff, Bitmap.get?_eq_none_iff]
  intro inside
  unfold Reaches at h
  omega

/-- **What drawing a region does, call by call and place by place.** -/
theorem drawRegion_footprint (s : Sheet) (r : Region) (surface : Bitmap) (dx dy : Int32) :
    ∃ calls, s.calls? r surface dx.toInt dy.toInt = some calls ∧
      (∀ t ∈ calls, t.x < surface.width.toNat ∧ t.y < surface.height.toNat) ∧
      (calls.map Stamp.place).Nodup ∧
      s.drawRegion surface r dx.toInt dy.toInt = calls.foldl press surface ∧
      ∀ (x y : Nat) old, surface.get? x y = some old →
        (s.Reaches r (x - dx.toInt) (y - dy.toInt) →
          ∃ p, s.working.get? (r.x.toNat + (x - dx.toInt).toNat)
              (r.y.toNat + (y - dy.toInt).toNat) = some p ∧
            (s.drawRegion surface r dx.toInt dy.toInt).get? x y = some (old.blend p)) ∧
        (¬ s.Reaches r (x - dx.toInt) (y - dy.toInt) →
          (s.drawRegion surface r dx.toInt dy.toInt).get? x y = some old) := by
  refine ⟨_, calls?_eq dx.le_toInt dx.toInt_lt dy.le_toInt dy.toInt_lt,
    fun t => inside_of_mem_stamps, nodup_places, rfl, fun x y old hold => ⟨?_, ?_⟩⟩
  · intro reached
    obtain ⟨p, hp⟩ := exists_pixelAt? reached
    refine ⟨p, get?_of_pixelAt? hp, ?_⟩
    rw [get?_drawRegion, hold, hp]
    rfl
  · intro missed
    rw [get?_drawRegion, hold, pixelAt?_of_not_reaches missed]
    rfl

def sixReds : Sheet where
  pristine := ⟨3, 2, #[⟨1, 0, 0, 255⟩, ⟨2, 0, 0, 255⟩, ⟨3, 0, 0, 255⟩, ⟨4, 0, 0, 255⟩,
    ⟨5, 0, 0, 255⟩, ⟨6, 0, 0, 255⟩], rfl⟩
  working := ⟨3, 2, #[⟨1, 0, 0, 255⟩, ⟨2, 0, 0, 255⟩, ⟨3, 0, 0, 255⟩, ⟨4, 0, 0, 255⟩,
    ⟨5, 0, 0, 255⟩, ⟨6, 0, 0, 255⟩], rfl⟩
  frames := .empty
  palette := .ofList ([1, 2, 3, 4, 5, 6].map (⟨·, 0, 0⟩))

/-- The region starts in the second column, reaches far beyond the sheet, and loses its first row
and all but one column at the edges of the surface. -/
theorem drawRegion_footprint_sixReds :
    ∃ calls, sixReds.calls? ⟨1, 0, 4294967295, 5⟩ (.filled 2 2 .transparent) 1 (-1) = some calls ∧
      (calls.map Stamp.place).Nodup ∧
      (sixReds.drawRegion (.filled 2 2 .transparent) ⟨1, 0, 4294967295, 5⟩ 1 (-1)).get? 1 0 =
        some ⟨5, 0, 0, 255⟩ ∧
      (sixReds.drawRegion (.filled 2 2 .transparent) ⟨1, 0, 4294967295, 5⟩ 1 (-1)).get? 0 0 =
        some .transparent := by
  obtain ⟨calls, room, -, once, -, places⟩ :=
    drawRegion_footprint sixReds ⟨1, 0, 4294967295, 5⟩ (.filled 2 2 .transparent) 1 (-1)
  obtain ⟨p, hp, shown⟩ := (places 1 0 .transparent (by decide)).1 (by unfold Reaches; decide)
  have red : p = ⟨5, 0, 0, 255⟩ := Option.some.inj (hp.symm.trans (by decide +kernel))
  subst red
  exact ⟨calls, room, once, shown,
    (places 0 0 .transparent (by decide)).2 (by unfold Reaches; decide)⟩

end Sheet

end Paperdoll
