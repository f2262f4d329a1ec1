import Paperdoll.Sheet

/-!
# Coats: what a sheet looks like after any number of recolorings

A **coat** is a recoloring together with the directive text it was read from. A sheet wears at
most one: a recoloring is always put on the bare picture, and taking it off leaves the picture
as it came.

**Theorem (`performAll_recoloredFrom`).** Take the sheet of a picture and run any calls on it,
recolorings by text or by value and resets, the ones that fail included. The picture, its palette
and its frames stay; the sheet wears the coat of the last call that was accepted; and the color
map, which is made from the palette alone, agrees with the pixels.

The proof is a simulation. `coatAfter` follows the calls without a look at the sheet, and
`performAll_wear` says that the sheet is at all times the one it started from, in that coat. What
the theorem says of a whole run is then a fact about a single coat (`wear_recoloredFrom`).
-/

namespace Paperdoll.Sheet

/-! ## Coats -/

/-- A recoloring and the directive text that denotes it; the text is empty if there is none. -/
structure Coat where
  text : String := ""
  recoloring : Recoloring
  read : text ≠ "" → Recoloring.parse text = .ok recoloring

def Coat.ofText (text : String) : Except Error Coat :=
  match h : Recoloring.parse text with
  | .ok m => .ok ⟨text, m, fun _ => h⟩
  | .error e => .error e

def coatText (coat : Option Coat) : String :=
  coat.elim "" Coat.text

/-- What a coat does to colors. -/
def coatColors (coat : Option Coat) : Recoloring :=
  coat.elim .same Coat.recoloring

/-- The sheet in a coat, or in the colors it came with. -/
def wear (s : Sheet) : Option Coat → Sheet
  | none => s.reset
  | some coat => { s.recolor coat.recoloring with directives := coat.text }

@[simp]
theorem wear_wear (s : Sheet) (coat other : Option Coat) : (s.wear coat).wear other = s.wear other := by
  cases coat <;> cases other <;> rfl

@[simp]
theorem pristine_wear (s : Sheet) (coat : Option Coat) : (s.wear coat).pristine = s.pristine := by
  cases coat <;> rfl

@[simp]
theorem palette_wear (s : Sheet) (coat : Option Coat) : (s.wear coat).palette = s.palette := by
  cases coat <;> rfl

@[simp]
theorem frames_wear (s : Sheet) (coat : Option Coat) : (s.wear coat).frames = s.frames := by
  cases coat <;> rfl

@[simp]
theorem directives_wear (s : Sheet) (coat : Option Coat) :
    (s.wear coat).directives = coatText coat := by
  cases coat <;> rfl

@[simp]
theorem colorMap_wear (s : Sheet) (coat : Option Coat) :
    (s.wear coat).colorMap = coat.map fun k => .derive s.palette k.recoloring := by
  cases coat <;> rfl

theorem recolor_same (b : Bitmap) : b.recolor .same = b := by
  have stays : Pixel.recolor .same = id := rfl
  rw [Bitmap.recolor, Bitmap.map]
  simp only [stays, Array.map_id_fun, id_eq]

theorem working_wear (s : Sheet) (coat : Option Coat) :
    (s.wear coat).working = s.pristine.recolor (coatColors coat) := by
  cases coat with
  | none => exact (recolor_same s.pristine).symm
  | some coat => rfl

theorem parse_coatText {coat : Option Coat} (h : coatText coat ≠ "") :
    Recoloring.parse (coatText coat) = .ok (coatColors coat) := by
  cases coat with
  | none => exact absurd rfl h
  | some coat => exact coat.read h

/-! ## Calls -/

/-- A call that changes the colors of a sheet. -/
inductive Request
  | applyDirectives (text : String)
  | recolor (m : Recoloring)
  | reset

def perform (s : Sheet) : Request → Sheet
  | .applyDirectives text =>
    match s.applyDirectives text with
    | .ok s => s
    | .error _ => s
  | .recolor m => s.recolor m
  | .reset => s.reset

def performAll (s : Sheet) (rs : List Request) : Sheet :=
  rs.foldl perform s

def Request.coat (before : Option Coat) : Request → Option Coat
  | .applyDirectives text =>
    match Coat.ofText text with
    | .ok coat => some coat
    | .error _ => before
  | .recolor m => some { recoloring := m, read := fun h => absurd rfl h }
  | .reset => none

/-- The coat worn after calls on a sheet in the colors it came with: that of the last call which
was accepted. -/
def coatAfter (rs : List Request) : Option Coat :=
  rs.foldl Request.coat none

theorem Coat.ofText_of_ok {text : String} {m : Recoloring} (h : Recoloring.parse text = .ok m) :
    Coat.ofText text = .ok ⟨text, m, fun _ => h⟩ := by
  unfold ofText
  split
  next m' h' => cases h.symm.trans h'; rfl
  next e h' => cases h.symm.trans h'

theorem Coat.ofText_of_error {text : String} {e : Error} (h : Recoloring.parse text = .error e) :
    Coat.ofText text = .error e := by
  unfold ofText
  split
  next m h' => cases h.symm.trans h'
  next e' h' => cases h.symm.trans h'; rfl

theorem Coat.parse_of_ofText {text : String} {coat : Coat} (h : Coat.ofText text = .ok coat) :
    coat.text = text ∧ Recoloring.parse text = .ok coat.recoloring := by
  cases hm : Recoloring.parse text with
  | ok m => rw [Coat.ofText_of_ok hm] at h; cases h; exact ⟨rfl, rfl⟩
  | error e => rw [Coat.ofText_of_error hm] at h; cases h

theorem Coat.parse_of_ofText_error {text : String} {e : Error} (h : Coat.ofText text = .error e) :
    Recoloring.parse text = .error e := by
  cases hm : Recoloring.parse text with
  | ok m => rw [Coat.ofText_of_ok hm] at h; cases h
  | error e' => rw [Coat.ofText_of_error hm] at h; cases h; rfl

theorem applyDirectives_eq (s : Sheet) (text : String) :
    s.applyDirectives text = (Coat.ofText text).map fun coat => s.wear (some coat) := by
  cases h : Recoloring.parse text with
  | ok m => rw [Coat.ofText_of_ok h, applyDirectives, h]; rfl
  | error e => rw [Coat.ofText_of_error h, applyDirectives, h]; rfl

/-- **One call.** It puts its coat on the bare picture, whatever was worn before. -/
theorem perform_wear (s : Sheet) (coat : Option Coat) (r : Request) :
    (s.wear coat).perform r = s.wear (r.coat coat) := by
  cases r with
  | applyDirectives text =>
    simp only [perform, Request.coat, applyDirectives_eq]
    cases Coat.ofText text with
    | ok other => exact wear_wear s coat (some other)
    | error e => rfl
  | recolor m => cases coat <;> rfl
  | reset => cases coat <;> rfl

/-- **A run of calls.** -/
theorem performAll_wear (s : Sheet) (coat : Option Coat) (rs : List Request) :
    (s.wear coat).performAll rs = s.wear (rs.foldl Request.coat coat) := by
  induction rs generalizing coat with
  | nil => rfl
  | cons r rs ih =>
    show ((s.wear coat).perform r).performAll rs = _
    rw [perform_wear, ih]
    rfl

/-! ## Colors and pixels -/

/-- The sheet `s` shows the picture of `fresh` in a coat, and what it knows of its colors is what
its pixels show. -/
structure RecoloredFrom (fresh : Sheet) (coat : Option Coat) (s : Sheet) : Prop where
  pristine : s.pristine = fresh.pristine
  palette : s.palette = fresh.palette
  frames : s.frames = fresh.frames
  directives : s.directives = coatText coat
  width : s.working.width = s.pristine.width
  height : s.working.height = s.pristine.height
  working : s.working.bytes = (coatColors coat).applyBuffer s.pristine.bytes
  /-- Every pixel keeps its alpha. -/
  alpha : ∀ i : Nat,
    s.working.pixels[i]?.map Pixel.alpha = s.pristine.pixels[i]?.map Pixel.alpha
  /-- There is a color map exactly if a coat is worn. -/
  colored : s.colorMap.isSome = coat.isSome
  /-- Without a color map the picture is as it came. -/
  bare : s.colorMap = none → s.working = s.pristine
  /-- The color map has an entry for the colors of the palette and no other. -/
  mapped : ∀ map, s.colorMap = some map → ∀ c, (map.get? c).isSome ↔ c ∈ s.palette
  /-- The color map sends a pixel that could be seen to the color it has now. -/
  agrees : ∀ map, s.colorMap = some map → ∀ (i : Nat) (p q : Pixel),
    s.pristine.pixels[i]? = some p → s.working.pixels[i]? = some q → p.isVisible →
      map.get? p.color = some q.color
  /-- The colors to be seen are those that the once visible pixels have now. -/
  visible : ∀ c, c ∈ s.visibleColors ↔ ∃ (i : Nat) (p q : Pixel),
    s.pristine.pixels[i]? = some p ∧ s.working.pixels[i]? = some q ∧ p.isVisible ∧ q.color = c
  /-- A directive text in force denotes the recoloring that is seen. -/
  denoted : s.directives ≠ "" → ∃ m, Recoloring.parse s.directives = .ok m ∧
    s.working.bytes = m.applyBuffer s.pristine.bytes

theorem ofAtlas_eq_ok {picture : Bitmap} {atlas : Atlas} {s : Sheet}
    (h : ofAtlas picture atlas = .ok s) :
    s.wear none = s ∧ s.palette = .ofPixels s.pristine.pixels.toList := by
  obtain ⟨frames, -, made⟩ := Error.bind_eq_ok.1 h
  cases made
  exact ⟨rfl, rfl⟩

theorem getElem?_working_wear (s : Sheet) (coat : Option Coat) (i : Nat) :
    (s.wear coat).working.pixels[i]? =
      s.pristine.pixels[i]?.map (Pixel.recolor (coatColors coat)) := by
  rw [working_wear, Bitmap.getElem?_recolor]

/-- The colors to be seen are what the coat makes of the palette. -/
theorem mem_visibleColors_wear {s : Sheet} {coat : Option Coat} {c : Color} :
    c ∈ (s.wear coat).visibleColors ↔ ∃ d ∈ s.palette, (coatColors coat).apply d = c := by
  cases coat with
  | none =>
    show c ∈ s.palette ↔ ∃ d ∈ s.palette, d = c
    simp
  | some coat => exact ColorMap.mem_targets_derive

theorem wear_recoloredFrom {s : Sheet} (seen : s.palette = .ofPixels s.pristine.pixels.toList)
    (coat : Option Coat) : RecoloredFrom s coat (s.wear coat) where
  pristine := pristine_wear s coat
  palette := palette_wear s coat
  frames := frames_wear s coat
  directives := directives_wear s coat
  width := by rw [working_wear, pristine_wear]; rfl
  height := by rw [working_wear, pristine_wear]; rfl
  working := by rw [working_wear, pristine_wear, Bitmap.bytes_recolor]
  alpha i := by
    rw [getElem?_working_wear, pristine_wear, Option.map_map]
    rfl
  colored := by rw [colorMap_wear, Option.isSome_map]
  bare h := by
    rw [colorMap_wear, Option.map_eq_none_iff] at h
    subst h
    rfl
  mapped map h c := by
    rw [colorMap_wear, Option.map_eq_some_iff] at h
    obtain ⟨k, -, rfl⟩ := h
    rw [ColorMap.get?_derive, palette_wear, Palette.mem_def]
    split <;> simp_all
  agrees map h i p q hp hq visible := by
    rw [colorMap_wear, Option.map_eq_some_iff] at h
    obtain ⟨k, rfl, rfl⟩ := h
    rw [pristine_wear] at hp
    rw [getElem?_working_wear, hp] at hq
    cases hq
    -- A visible pixel has put its color into the palette.
    have known : p.color ∈ s.palette := by
      rw [seen, Palette.mem_ofPixels]
      exact ⟨p, Array.mem_toList_iff.2 (Array.mem_of_getElem? hp), visible, rfl⟩
    rw [ColorMap.get?_derive, if_pos (Palette.mem_def.1 known)]
    rfl
  visible c := by
    rw [mem_visibleColors_wear, seen, pristine_wear]
    constructor
    · rintro ⟨d, hd, rfl⟩
      obtain ⟨p, hp, visible, rfl⟩ := Palette.mem_ofPixels.1 hd
      obtain ⟨i, hi⟩ := Array.mem_iff_getElem?.1 (Array.mem_toList_iff.1 hp)
      exact ⟨i, p, _, hi, by rw [getElem?_working_wear, hi]; rfl, visible, rfl⟩
    · rintro ⟨i, p, q, hp, hq, visible, rfl⟩
      rw [getElem?_working_wear, hp] at hq
      cases hq
      exact ⟨p.color, Palette.mem_ofPixels.2
        ⟨p, Array.mem_toList_iff.2 (Array.mem_of_getElem? hp), visible, rfl⟩, rfl⟩
  denoted h := by
    rw [directives_wear] at h ⊢
    refine ⟨coatColors coat, parse_coatText h, ?_⟩
    rw [working_wear, pristine_wear, Bitmap.bytes_recolor]

/-- The sheets that calls can lead to from a picture and the frames declared for it. -/
def Reachable (s : Sheet) : Prop :=
  ∃ picture atlas fresh rs, ofAtlas picture atlas = .ok fresh ∧ s = fresh.performAll rs

theorem palette_of_reachable {s : Sheet} (h : s.Reachable) :
    s.palette = .ofPixels s.pristine.pixels.toList := by
  obtain ⟨picture, atlas, fresh, rs, made, rfl⟩ := h
  obtain ⟨bare, seen⟩ := ofAtlas_eq_ok made
  have run := performAll_wear fresh none rs
  rw [bare] at run
  rw [run, palette_wear, pristine_wear, seen]

/-- **The color map agrees with the pixels after every run of calls**, and what is seen is the
last recoloring that was accepted. -/
theorem performAll_recoloredFrom {picture : Bitmap} {atlas : Atlas} {s : Sheet}
    (h : ofAtlas picture atlas = .ok s) (rs : List Request) :
    RecoloredFrom s (coatAfter rs) (s.performAll rs) := by
  obtain ⟨bare, seen⟩ := ofAtlas_eq_ok h
  have run : s.performAll rs = s.wear (coatAfter rs) :=
    calc s.performAll rs = (s.wear none).performAll rs := by rw [bare]
      _ = s.wear (coatAfter rs) := performAll_wear s none rs
  rw [run]
  exact wear_recoloredFrom seen (coatAfter rs)

/-- Skin, an outline, a hidden color, and nothing. -/
def fourSpecks : Bitmap :=
  ⟨2, 2, #[⟨0xaa, 0xbb, 0xcc, 0x40⟩, ⟨0, 0, 0, 255⟩, ⟨0x10, 0x20, 0x30, 0⟩, .transparent], rfl⟩

/-- Calls of every kind; the last one fails. -/
def mixedCalls : List Request :=
  [.recolor (.after .same (.table .empty)), .reset,
    .applyDirectives "?replace;aabbcc=000000;102030=aabbcc", .applyDirectives "?replace;aabbcc=x"]

theorem performAll_recoloredFrom_mixedCalls :
    ∃ s, ofAtlas fourSpecks {} = .ok s ∧ RecoloredFrom s (coatAfter mixedCalls)
      (s.performAll mixedCalls) ∧
      coatText (coatAfter mixedCalls) = "?replace;aabbcc=000000;102030=aabbcc" ∧
      (s.performAll mixedCalls).working.pixels =
        #[⟨0, 0, 0, 0x40⟩, ⟨0, 0, 0, 255⟩, ⟨0xaa, 0xbb, 0xcc, 0⟩, .transparent] ∧
      (s.performAll mixedCalls).colorMap.map ColorMap.pairs =
        some [(⟨0, 0, 0⟩, ⟨0, 0, 0⟩), (⟨0x10, 0x20, 0x30⟩, ⟨0xaa, 0xbb, 0xcc⟩),
          (⟨0xaa, 0xbb, 0xcc⟩, ⟨0, 0, 0⟩)] :=
  have fresh : ofAtlas fourSpecks {} = .ok _ := rfl
  ⟨_, fresh, performAll_recoloredFrom fresh mixedCalls, by decide +kernel, by decide +kernel,
    by decide +kernel⟩

end Paperdoll.Sheet
