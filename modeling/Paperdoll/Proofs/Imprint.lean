import Mathlib.Data.List.Basic
import Paperdoll.Sheet

/-!
# Imprints: what a region leaves on a surface

A region is drawn as a list of stamps, pressed one after the other. Seen from the surface it is
much simpler: every place meets at most one pixel of the region, the one that lies as far from
the corner of the region as the place lies from where the corner goes.

**Theorem (`get?_drawRegion`).** After drawing a region with its corner at `(dx, dy)`, the pixel at
`(x, y)` is the old one under the pixel in column `x - dx` and row `y - dy` of the region, or the
old one if the region or the sheet has none there.

A single stamp is `get?_press`; a list of stamps is the fold of those at the place asked for
(`get?_foldl_press`). What remains is to sieve the stamps of the two nested loops, in which only
one row and one column can hit the place (`filter_stamps`).
-/

namespace Paperdoll.Sheet

/-! ## Stamps -/

/-- The stamp goes to column `x` of row `y`. -/
def Stamp.goesTo (x y : Nat) (t : Stamp) : Bool :=
  t.x = x && t.y = y

theorem Stamp.goesTo_iff {x y : Nat} {t : Stamp} : t.goesTo x y ↔ x = t.x ∧ y = t.y := by
  unfold goesTo
  rw [Bool.and_eq_true, decide_eq_true_iff, decide_eq_true_iff, eq_comm, @eq_comm _ t.y]

theorem get?_press (surface : Bitmap) (t : Stamp) (x y : Nat) :
    (press surface t).get? x y =
      if t.goesTo x y then (surface.get? x y).map (·.blend t.pixel) else surface.get? x y := by
  unfold press
  rw [Bitmap.get?_blendAt]
  simp only [Stamp.goesTo_iff]

/-- Only the stamps that go to a place change it, one after the other. -/
theorem get?_foldl_press (stamps : List Stamp) (surface : Bitmap) (x y : Nat) :
    (stamps.foldl press surface).get? x y = (surface.get? x y).map fun p =>
      ((stamps.filter (·.goesTo x y)).map Stamp.pixel).foldl Pixel.blend p := by
  induction stamps generalizing surface with
  | nil =>
    rw [List.foldl_nil]
    cases surface.get? x y <;> rfl
  | cons t ts ih =>
    rw [List.foldl_cons, ih, get?_press]
    by_cases h : t.goesTo x y
    · rw [if_pos h, Option.map_map, List.filter_cons_of_pos h, List.map_cons]
      rfl
    · rw [if_neg h, List.filter_cons_of_neg h]

/-! ## The one stamp at a place -/

/-- The pixel in column `u` and row `v` of a region, if the region has that column and row and
the sheet has a pixel there. -/
def pixelAt? (s : Sheet) (r : Region) (u v : Int) : Option Pixel :=
  if 0 ≤ u ∧ u < r.width.toNat ∧ 0 ≤ v ∧ v < r.height.toNat then
    s.working.get? (r.x.toNat + u.toNat) (r.y.toNat + v.toNat)
  else none

theorem pixelAt?_eq (s : Sheet) (r : Region) (u v : Int) :
    s.pixelAt? r u v =
      if 0 ≤ u ∧ u < reach r.x r.width s.working.width ∧
          0 ≤ v ∧ v < reach r.y r.height s.working.height then
        s.working.get? (r.x.toNat + u.toNat) (r.y.toNat + v.toNat)
      else none := by
  unfold pixelAt? reach
  by_cases region : 0 ≤ u ∧ u < r.width.toNat ∧ 0 ≤ v ∧ v < r.height.toNat
  · rw [if_pos region]
    by_cases sheet : r.x.toNat + u.toNat < s.working.width.toNat ∧
        r.y.toNat + v.toNat < s.working.height.toNat
    · rw [if_pos (by omega)]
    · rw [if_neg (by omega), Bitmap.get?_eq_none_iff]
      omega
  · rw [if_neg region, if_neg (by omega)]

theorem lt_of_pixelAt? {s : Sheet} {r : Region} {u v : Int} {p : Pixel}
    (h : s.pixelAt? r u v = some p) :
    (0 ≤ u ∧ u < r.width.toNat) ∧ 0 ≤ v ∧ v < r.height.toNat := by
  unfold pixelAt? at h
  split at h
  next inside => exact ⟨⟨inside.1, inside.2.1⟩, inside.2.2⟩
  next => cases h

section Unique

variable {α β : Type} [DecidableEq α] {l : List α} {a : α}

theorem flatMap_of_unique {f : α → List β} (nodup : l.Nodup)
    (unique : ∀ b ∈ l, b ≠ a → f b = []) : l.flatMap f = if a ∈ l then f a else [] := by
  induction l with
  | nil => rfl
  | cons b rest ih =>
    obtain ⟨absent, nodup⟩ := List.nodup_cons.1 nodup
    rw [List.flatMap_cons, ih nodup fun c mem => unique c (List.mem_cons_of_mem b mem)]
    by_cases hb : b = a
    · subst hb
      rw [if_neg absent, if_pos List.mem_cons_self, List.append_nil]
    · have same : a ∈ b :: rest ↔ a ∈ rest := by simp [Ne.symm hb]
      rw [unique b List.mem_cons_self hb, List.nil_append]
      simp only [same]

theorem filterMap_of_unique {f : α → Option β} (nodup : l.Nodup)
    (unique : ∀ b ∈ l, b ≠ a → f b = none) :
    l.filterMap f = if a ∈ l then (f a).toList else [] := by
  rw [List.filterMap_eq_flatMap_toList]
  exact flatMap_of_unique nodup fun b mem hb => by rw [unique b mem hb]; rfl

end Unique

variable {s : Sheet} {r : Region} {surface : Bitmap} {dx dy : Int} {x y : Nat} {p : Pixel}

theorem place?_eq_some {length : UInt32} {z : Int} {n : Nat} :
    place? length z = some n ↔ z = n ∧ n < length.toNat := by
  unfold place?
  split
  next h =>
    rw [Option.some.injEq]
    omega
  next h =>
    simp only [reduceCtorEq, false_iff]
    omega

theorem stamp?_eq_some {row column : Nat} {t : Stamp} :
    s.stamp? r surface dx dy row column = some t ↔
      dy + row = t.y ∧ t.y < surface.height.toNat ∧ dx + column = t.x ∧
        t.x < surface.width.toNat ∧
        s.working.get? (r.x.toNat + column) (r.y.toNat + row) = some t.pixel := by
  unfold stamp?
  simp only [Option.bind_eq_bind, Option.bind_eq_some_iff, place?_eq_some, Option.pure_def,
    Option.some.injEq]
  constructor
  · rintro ⟨y, ⟨hy, hyh⟩, x, ⟨hx, hxw⟩, p, hp, rfl⟩
    exact ⟨hy, hyh, hx, hxw, hp⟩
  · rintro ⟨hy, hyh, hx, hxw, hp⟩
    exact ⟨t.y, ⟨hy, hyh⟩, t.x, ⟨hx, hxw⟩, t.pixel, hp, rfl⟩

/-- Of the stamps of a region, one at most goes to a place on the surface. -/
theorem filter_stamp? (inside : surface.get? x y = some p) (row column : Nat) :
    (s.stamp? r surface dx dy row column).filter (·.goesTo x y) =
      if dx + column = x ∧ dy + row = y then
        (s.working.get? (r.x.toNat + column) (r.y.toNat + row)).map fun q => ⟨x, y, q⟩
      else none := by
  have hin : ¬ (surface.width.toNat ≤ x ∨ surface.height.toNat ≤ y) := by
    rw [← Bitmap.get?_eq_none_iff, inside]
    exact Option.some_ne_none p
  ext t
  rw [Option.filter_eq_some_iff, stamp?_eq_some, Stamp.goesTo_iff]
  constructor
  · rintro ⟨⟨hy, -, hx, -, hp⟩, rfl, rfl⟩
    rw [if_pos ⟨hx, hy⟩, hp]
    rfl
  · intro h
    split at h
    next hxy =>
      obtain ⟨q, hq, rfl⟩ := Option.map_eq_some_iff.1 h
      refine ⟨⟨hxy.2, ?_, hxy.1, ?_, hq⟩, rfl, rfl⟩
      · show y < surface.height.toNat
        omega
      · show x < surface.width.toNat
        omega
    next => cases h

/-- The stamps at a place on the surface. -/
theorem filter_stamps (inside : surface.get? x y = some p) :
    ((s.stamps r surface dx dy).filter (·.goesTo x y)).map Stamp.pixel =
      (s.pixelAt? r (x - dx) (y - dy)).toList := by
  -- a single column of a single row leads to the place
  have column : ∀ row, ∀ column ∈ List.range (reach r.x r.width s.working.width),
      column ≠ (x - dx).toNat →
        (s.stamp? r surface dx dy row column).filter (·.goesTo x y) = none := by
    intro row column _ hne
    rw [filter_stamp? inside, if_neg (by omega)]
  have row : ∀ row ∈ List.range (reach r.y r.height s.working.height), row ≠ (y - dy).toNat →
      ((List.range (reach r.x r.width s.working.width)).filterMap fun column =>
        (s.stamp? r surface dx dy row column).filter (·.goesTo x y)) = [] := by
    intro row _ hne
    rw [List.filterMap_eq_nil_iff]
    intro column _
    rw [filter_stamp? inside, if_neg (by omega)]
  unfold stamps
  simp only [List.filter_flatMap, List.filter_filterMap]
  rw [flatMap_of_unique List.nodup_range row, filterMap_of_unique List.nodup_range (column _),
    filter_stamp? inside, pixelAt?_eq]
  simp only [List.mem_range]
  by_cases hit : 0 ≤ x - dx ∧ x - dx < reach r.x r.width s.working.width ∧
      0 ≤ y - dy ∧ y - dy < reach r.y r.height s.working.height
  · rw [if_pos (by omega), if_pos (by omega), if_pos (by omega), if_pos hit]
    cases s.working.get? (r.x.toNat + (x - dx).toNat) (r.y.toNat + (y - dy).toNat) <;> rfl
  · rw [if_neg hit]
    by_cases hrow : (y - dy).toNat < reach r.y r.height s.working.height
    · rw [if_pos hrow]
      by_cases hcolumn : (x - dx).toNat < reach r.x r.width s.working.width
      · rw [if_pos hcolumn, if_neg (by omega)]
        rfl
      · rw [if_neg hcolumn]
        rfl
    · rw [if_neg hrow]
      rfl

/-- **What a region leaves at a place.** -/
theorem get?_drawRegion (s : Sheet) (surface : Bitmap) (r : Region) (dx dy : Int) (x y : Nat) :
    (s.drawRegion surface r dx dy).get? x y =
      (surface.get? x y).map fun p => (s.pixelAt? r (x - dx) (y - dy)).elim p p.blend := by
  unfold drawRegion
  rw [get?_foldl_press]
  cases inside : surface.get? x y with
  | none => rfl
  | some p =>
    rw [filter_stamps inside]
    cases s.pixelAt? r (x - dx) (y - dy) <;> rfl

theorem sides_drawRegion (s : Sheet) (surface : Bitmap) (r : Region) (dx dy : Int) :
    (s.drawRegion surface r dx dy).width = surface.width ∧
      (s.drawRegion surface r dx dy).height = surface.height := by
  unfold drawRegion
  induction s.stamps r surface dx dy generalizing surface with
  | nil => exact ⟨rfl, rfl⟩
  | cons t ts ih =>
    rw [List.foldl_cons, (ih _).1, (ih _).2]
    exact Bitmap.sides_blendAt surface t.x t.y t.pixel

/-! ## The places that a region covers -/

/-- Column `u` and row `v` of a region lie in the region and on the sheet. -/
def Covers (s : Sheet) (r : Region) (u v : Int) : Prop :=
  (0 ≤ u ∧ u < r.width.toNat ∧ r.x.toNat + u < s.pristine.width.toNat) ∧
    0 ≤ v ∧ v < r.height.toNat ∧ r.y.toNat + v < s.pristine.height.toNat

instance (s : Sheet) (r : Region) (u v : Int) : Decidable (s.Covers r u v) :=
  inferInstanceAs (Decidable (_ ∧ _))

theorem isSome_pixelAt? (sides : s.working.width = s.pristine.width ∧
    s.working.height = s.pristine.height) (r : Region) (u v : Int) :
    (s.pixelAt? r u v).isSome ↔ s.Covers r u v := by
  unfold pixelAt? Covers
  rw [← sides.1, ← sides.2, Option.isSome_iff_ne_none]
  by_cases inside : 0 ≤ u ∧ u < r.width.toNat ∧ 0 ≤ v ∧ v < r.height.toNat
  · rw [if_pos inside, Ne, Bitmap.get?_eq_none_iff]
    omega
  · rw [if_neg inside]
    simp only [ne_eq, not_true_eq_false, false_iff]
    omega

theorem get?_of_pixelAt? {u v : Int} (h : s.pixelAt? r u v = some p) :
    s.working.get? (r.x.toNat + u.toNat) (r.y.toNat + v.toNat) = some p := by
  unfold pixelAt? at h
  exact (Option.ite_none_right_eq_some.1 h).2

end Paperdoll.Sheet
