import Paperdoll.Proofs.Refusal

/-!
# Pickers: the colors that a part is said to have

Whoever chooses new colors for a part is shown the palette of that part. It is put together from
what its sheets know of their colors: a sheet that wears a coat has a color map, and shows where
that leads; a bare one shows the palette it came with.

**Theorem (`partPalette_eq_recolored`).** In every character that calls can lead to, the palette of
a part with a sheet is the union of the palettes its sheets came with, each color sent where the
directives of the part send it. These are the colors that the once visible pixels of the sheets
have now, and no others. A part without a sheet has no colors.

All sheets of a part wear the coat that the directives of the part denote (`wear_of_reachable`), so
one recoloring serves for all of them. What a single sheet shows is known from its coat in two ways,
through the palette (`Sheet.mem_visibleColors_wear`) and through the pixels
(`Sheet.wear_recoloredFrom`); the union takes both from the sheets to the part.
-/

namespace Paperdoll

def Palette.map (f : Color → Color) (p : Palette) : Palette :=
  .ofList (p.colors.map f)

theorem Palette.mem_map {f : Color → Color} {p : Palette} {c : Color} :
    c ∈ p.map f ↔ ∃ d ∈ p, f d = c := by
  simp [map, mem_ofList]

/-- A pixel that could be seen when the sheet came has this color now. -/
def Sheet.Shows (s : Sheet) (c : Color) : Prop :=
  ∃ (i : Nat) (p q : Pixel), s.pristine.pixels[i]? = some p ∧ s.working.pixels[i]? = some q ∧
    p.isVisible ∧ q.color = c

namespace Character

open Sheet (coatColors)

variable {c : Character} {part : BodyPart}

/-- The colors that the sheets of a part came with. -/
def pristinePalette (c : Character) (part : BodyPart) : Palette :=
  (c.partSheets part).foldl (fun p sheet => p.union sheet.palette) .empty

/-! ## The sheets of a part -/

theorem mem_partSheets {sheet : Sheet} :
    sheet ∈ c.partSheets part ↔ ∃ slot ∈ part.slots, c.sheets.get slot = some sheet := by
  unfold partSheets
  rw [List.mem_filterMap]

theorem hasSheet_iff_ne_nil : HasSheet c.sheets.get part ↔ c.partSheets part ≠ [] := by
  constructor
  · rintro ⟨slot, hslot, loaded⟩
    obtain ⟨sheet, hsheet⟩ := Option.isSome_iff_exists.1 loaded
    have mem : sheet ∈ c.partSheets part := mem_partSheets.2 ⟨slot, hslot, hsheet⟩
    exact List.ne_nil_of_mem mem
  · intro some
    obtain ⟨sheet, mem⟩ := List.exists_mem_of_ne_nil _ some
    obtain ⟨slot, hslot, hsheet⟩ := mem_partSheets.1 mem
    exact ⟨slot, hslot, by rw [hsheet]; rfl⟩

theorem mem_partPalette {color : Color} :
    color ∈ c.partPalette part ↔ ∃ sheet ∈ c.partSheets part, color ∈ sheet.visibleColors := by
  simp [partPalette, Palette.mem_foldl_union]

theorem mem_pristinePalette {color : Color} :
    color ∈ c.pristinePalette part ↔ ∃ sheet ∈ c.partSheets part, color ∈ sheet.palette := by
  simp [pristinePalette, Palette.mem_foldl_union]

/-- **What a sheet of a part shows**, read off its palette and off its pixels. -/
theorem visibleColors_of_reachable {sheet : Sheet} {m : Recoloring} (h : Reachable c)
    (mem : sheet ∈ c.partSheets part) (read : Recoloring.parse (c.directives part) = .ok m)
    (color : Color) :
    (color ∈ sheet.visibleColors ↔ ∃ d ∈ sheet.palette, m.apply d = color) ∧
      (color ∈ sheet.visibleColors ↔ sheet.Shows color) := by
  obtain ⟨slot, hslot, loaded⟩ := mem_partSheets.1 mem
  obtain rfl := BodyPart.mem_slots.1 hslot
  obtain ⟨before, coat, reachable, rfl, parsed⟩ := wear_of_reachable h loaded
  have same : m = coatColors coat := by
    rw [read] at parsed
    exact Except.ok.inj parsed
  constructor
  · rw [same, Sheet.palette_wear]
    exact Sheet.mem_visibleColors_wear
  · exact (Sheet.wear_recoloredFrom (Sheet.palette_of_reachable reachable) coat).visible color

/-! ## The palette of a part -/

/-- **The palette of a part is the one its sheets came with, recolored.** -/
theorem partPalette_eq_recolored (reachable : Reachable c) (part : BodyPart) :
    (HasSheet c.sheets.get part →
      ∃ m, Recoloring.parse (c.directives part) = .ok m ∧
        (c.partPalette part == (c.pristinePalette part).map m.apply) = true ∧
        ∀ color, color ∈ c.partPalette part ↔ ∃ sheet ∈ c.partSheets part, sheet.Shows color) ∧
    (¬ HasSheet c.sheets.get part → c.partPalette part = .empty) := by
  constructor
  · intro loaded
    obtain ⟨m, read⟩ := parse_directives_of_reachable reachable loaded
    refine ⟨m, read, ?_, fun color => ?_⟩
    · rw [Palette.beq_iff]
      intro color
      have each : ∀ sheet ∈ c.partSheets part,
          (color ∈ sheet.visibleColors ↔ ∃ d ∈ sheet.palette, m.apply d = color) :=
        fun sheet mem => (visibleColors_of_reachable reachable mem read color).1
      rw [mem_partPalette, Palette.mem_map]
      constructor
      · rintro ⟨sheet, mem, shown⟩
        obtain ⟨d, hd, sent⟩ := (each sheet mem).1 shown
        exact ⟨d, mem_pristinePalette.2 ⟨sheet, mem, hd⟩, sent⟩
      · rintro ⟨d, hd, sent⟩
        obtain ⟨sheet, mem, here⟩ := mem_pristinePalette.1 hd
        exact ⟨sheet, mem, (each sheet mem).2 ⟨d, here, sent⟩⟩
    · rw [mem_partPalette]
      refine exists_congr fun sheet => and_congr_right fun mem => ?_
      exact (visibleColors_of_reachable reachable mem read color).2
  · intro bare
    rw [hasSheet_iff_ne_nil, ne_eq, Classical.not_not] at bare
    unfold partPalette
    rw [bare]
    rfl

/-- Two colors become one; then a text that cannot be read. -/
def merging : List Request :=
  [.applyDirectives .body "?replace;aabbcc=ff0000;102030=ff0000",
    .applyDirectives .body "?replace;ff0000=0"]

theorem partPalette_eq_recolored_merging :
    ∃ c m, inOnePicture {} Sheet.fourSpecks {} = .ok c ∧
      Recoloring.parse ((c.performAll merging).directives .body) = .ok m ∧
      ((c.performAll merging).partPalette .body ==
        ((c.performAll merging).pristinePalette .body).map m.apply) = true ∧
      (∀ color, color ∈ (c.performAll merging).partPalette .body ↔
        ∃ sheet ∈ (c.performAll merging).partSheets .body, sheet.Shows color) ∧
      ((c.performAll merging).partPalette .body).colors = [⟨0, 0, 0⟩, ⟨255, 0, 0⟩] ∧
      (c.performAll merging).partPalette .hair = .empty := by
  have run : ((inOnePicture {} Sheet.fourSpecks {}).toOption.map fun c =>
      (decide (HasSheet (c.performAll merging).sheets.get .body),
        decide (HasSheet (c.performAll merging).sheets.get .hair),
        ((c.performAll merging).partPalette .body).colors)) =
      some (true, false, [⟨0, 0, 0⟩, ⟨255, 0, 0⟩]) := by
    decide +kernel
  obtain ⟨c, hc, heq⟩ := Option.map_eq_some_iff.1 run
  simp only [Prod.mk.injEq, decide_eq_true_eq, decide_eq_false_iff_not] at heq
  obtain ⟨body, hair, colors⟩ := heq
  have ok := Error.eq_ok_of_toOption hc
  have reachable := reachable_performAll (reachable_inOnePicture ok) merging
  obtain ⟨m, read, same, shown⟩ := (partPalette_eq_recolored reachable .body).1 body
  exact ⟨c, m, ok, read, same, shown, colors, (partPalette_eq_recolored reachable .hair).2 hair⟩

end Character

end Paperdoll
