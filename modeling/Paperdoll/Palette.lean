import Paperdoll.Pixel
import Std.Data.TreeMap
import Std.Data.TreeSet

/-!
# Palettes

A palette is the set of colors that can be seen in a picture. **`ColorMap.derive`** records
what a recoloring makes of each of them, without a second look at the pixels.
-/

namespace Paperdoll

/-- A finite set of colors. -/
structure Palette where
  set : Std.TreeSet Color := ∅

namespace Palette

def empty : Palette := {}

def insert (p : Palette) (c : Color) : Palette :=
  ⟨p.set.insert c⟩

def contains (p : Palette) (c : Color) : Bool :=
  p.set.contains c

/-- The colors in increasing order. -/
def colors (p : Palette) : List Color :=
  p.set.toList

def size (p : Palette) : Nat :=
  p.set.size

def isEmpty (p : Palette) : Bool :=
  p.set.isEmpty

instance : BEq Palette := ⟨fun p q => p.colors == q.colors⟩

def insertMany (p : Palette) (cs : List Color) : Palette :=
  cs.foldl insert p

def ofList (cs : List Color) : Palette :=
  empty.insertMany cs

def union (p q : Palette) : Palette :=
  p.insertMany q.colors

/-- The colors of the pixels of which something can be seen. -/
def ofPixels (ps : List Pixel) : Palette :=
  ofList ((ps.filter Pixel.isVisible).map Pixel.color)

instance : Membership Color Palette := ⟨fun p c => p.contains c⟩

theorem mem_def {p : Palette} {c : Color} : c ∈ p ↔ p.contains c := Iff.rfl

@[simp]
theorem not_mem_empty (c : Color) : ¬ c ∈ empty := by
  simp [mem_def, contains, empty]

@[simp]
theorem mem_insert {p : Palette} {c d : Color} : d ∈ p.insert c ↔ c = d ∨ d ∈ p := by
  simp [mem_def, contains, insert, Std.TreeSet.contains_insert]

@[simp]
theorem mem_colors {p : Palette} {c : Color} : c ∈ p.colors ↔ c ∈ p := by
  simp [mem_def, contains, colors, Std.TreeSet.mem_toList]

theorem beq_iff {p q : Palette} : (p == q) = true ↔ ∀ c, c ∈ p ↔ c ∈ q := by
  have lists : (p == q) = (p.colors == q.colors) := rfl
  rw [lists, beq_iff_eq, colors, colors, ← Std.TreeSet.equiv_iff_toList_eq,
    Std.TreeSet.equiv_iff_forall_mem_iff]
  simp only [mem_def, contains, Std.TreeSet.mem_iff_contains]

theorem mem_insertMany {p : Palette} {cs : List Color} {d : Color} :
    d ∈ p.insertMany cs ↔ d ∈ cs ∨ d ∈ p := by
  induction cs generalizing p with
  | nil => simp [insertMany]
  | cons c cs ih =>
    have := ih (p := p.insert c)
    simp only [insertMany, List.foldl_cons] at this ⊢
    rw [this, mem_insert, List.mem_cons]
    grind

theorem mem_ofList {cs : List Color} {d : Color} : d ∈ ofList cs ↔ d ∈ cs := by
  simp [ofList, mem_insertMany]

theorem mem_union {p q : Palette} {d : Color} : d ∈ p.union q ↔ d ∈ p ∨ d ∈ q := by
  simp [union, mem_insertMany, or_comm]

theorem mem_foldl_union {α : Type} {f : α → Palette} {as : List α} {p : Palette} {c : Color} :
    c ∈ as.foldl (fun p a => p.union (f a)) p ↔ c ∈ p ∨ ∃ a ∈ as, c ∈ f a := by
  induction as generalizing p with
  | nil => simp
  | cons a rest ih => simp [ih, mem_union, or_assoc]

theorem mem_ofPixels {ps : List Pixel} {d : Color} :
    d ∈ ofPixels ps ↔ ∃ p ∈ ps, p.isVisible ∧ p.color = d := by
  simp [ofPixels, mem_ofList, and_assoc]

end Palette

/-- What became of each color of a palette. -/
structure ColorMap where
  map : Std.TreeMap Color Color := ∅

namespace ColorMap

/-- Sends every color of the palette where the recoloring sends it. -/
def derive (p : Palette) (m : Recoloring) : ColorMap :=
  ⟨p.colors.foldl (fun map c => map.insert c (m.apply c)) ∅⟩

def get? (m : ColorMap) (c : Color) : Option Color :=
  m.map[c]?

/-- The pairs in the order of the colors that were there before. -/
def pairs (m : ColorMap) : List (Color × Color) :=
  m.map.toList

def size (m : ColorMap) : Nat :=
  m.map.size

def isEmpty (m : ColorMap) : Bool :=
  m.map.isEmpty

def targets (m : ColorMap) : Palette :=
  .ofList (m.pairs.map Prod.snd)

theorem getElem?_foldl_insert (f : Color → Color) (cs : List Color)
    (map : Std.TreeMap Color Color) (c : Color) :
    (cs.foldl (fun map d => map.insert d (f d)) map)[c]? =
      if c ∈ cs then some (f c) else map[c]? := by
  induction cs generalizing map with
  | nil => simp
  | cons d cs ih =>
    rw [List.foldl_cons, ih, Std.TreeMap.getElem?_insert]
    by_cases hd : d = c
    · subst hd; simp
    · simp [hd, Ne.symm hd]

theorem get?_derive (p : Palette) (m : Recoloring) (c : Color) :
    (derive p m).get? c = if p.contains c then some (m.apply c) else none := by
  have seen : c ∈ p.colors ↔ p.contains c := Palette.mem_colors
  rw [get?, derive, getElem?_foldl_insert]
  by_cases hc : p.contains c <;> simp [seen, hc]

theorem mem_targets {m : ColorMap} {d : Color} : d ∈ m.targets ↔ ∃ c, m.get? c = some d := by
  rw [targets, Palette.mem_ofList, List.mem_map]
  constructor
  · rintro ⟨⟨c, d⟩, h, rfl⟩
    exact ⟨c, Std.TreeMap.mem_toList_iff_getElem?_eq_some.1 h⟩
  · rintro ⟨c, h⟩
    exact ⟨(c, d), Std.TreeMap.mem_toList_iff_getElem?_eq_some.2 h, rfl⟩

theorem mem_targets_derive {p : Palette} {m : Recoloring} {d : Color} :
    d ∈ (derive p m).targets ↔ ∃ c ∈ p, m.apply c = d := by
  rw [mem_targets]
  refine exists_congr fun c => ?_
  rw [get?_derive, Palette.mem_def]
  by_cases hc : p.contains c <;> simp [hc]

end ColorMap

end Paperdoll
