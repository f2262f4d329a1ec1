import Paperdoll.Proofs.Coat
import Paperdoll.Proofs.Mixing
import Paperdoll.Proofs.Opacity

/-!
# Tints: recoloring before drawing, and after

A sheet can be recolored before it is drawn, or drawn as it came and the surface recolored
afterwards.

**Theorem (`draw_recolor_looksLike`).** On a surface that nothing has been drawn on, both ways look
the same: each place is as opaque one way as the other, and where it can be seen it has the same
color. The pictures themselves are equal exactly if the recoloring leaves black alone or no place of
the surface stays empty; for an empty place is black, and recoloring the surface reaches it while
recoloring the sheet does not.

A pixel over nothing is that pixel, whatever its alpha, or nothing if it cannot be seen
(`blend_transparent`); and since every place meets one pixel of the frame at most, this is all that
drawing does. So the first way gives what the second way gives, without the colors of places
that cannot be seen (`drawRegion_recolor`).
-/

namespace Paperdoll

namespace Pixel

variable {p : Pixel}

/-! ## Over nothing -/

theorem bleach_of_invisible (h : p.alpha = 0) : p.bleach = transparent := if_pos h

theorem bleach_of_visible (h : p.alpha ≠ 0) : p.bleach = p := if_neg h

@[simp]
theorem alpha_bleach (p : Pixel) : p.bleach.alpha = p.alpha := by
  by_cases unseen : p.alpha = 0
  · rw [bleach_of_invisible unseen, unseen]
    rfl
  · rw [bleach_of_visible unseen]

/-- **A pixel over nothing** is seen as it is. -/
theorem blend_transparent (p : Pixel) : transparent.blend p = p.bleach := by
  by_cases unseen : p.alpha = 0
  · rw [blend_of_invisible unseen, bleach_of_invisible unseen]
  · have total : 0 < totalWeight transparent p := totalWeight_pos_of_visible unseen
    have none : targetWeight transparent p = 0 := Nat.zero_mul _
    have weight : 0 < p.sourceWeight := by rwa [totalWeight, none, Nat.add_zero] at total
    rw [blend_eq_mixture total, bleach_of_visible unseen]
    have stays : ∀ channel : Pixel → UInt8, mixedChannel transparent p channel = channel p := by
      intro channel
      rw [mixedChannel, none, mixChannel_zero_right weight]
    refine Pixel.ext (stays red) (stays green) (stays blue) (UInt8.toNat_inj.1 ?_)
    have := p.alpha.toNat_lt
    simp only [mixture, totalWeight, none, sourceWeight, UInt8.toNat_ofNat']
    omega

@[simp]
theorem alpha_recolor (m : Recoloring) (p : Pixel) : (p.recolor m).alpha = p.alpha := rfl

/-- Hidden colors may go before the recoloring, too, if they go again after it. -/
theorem bleach_recolor_bleach (m : Recoloring) (p : Pixel) :
    (p.bleach.recolor m).bleach = (p.recolor m).bleach := by
  by_cases unseen : p.alpha = 0
  · rw [bleach_of_invisible (by simpa using unseen), bleach_of_invisible (by simpa using unseen)]
  · rw [bleach_of_visible unseen]

/-- What a recoloring makes of nothing has no color exactly if the recoloring leaves black alone. -/
theorem bleach_recolor_transparent {m : Recoloring} :
    (transparent.recolor m).bleach = transparent.recolor m ↔ m.apply .black = .black := by
  have gone : (transparent.recolor m).bleach = transparent := bleach_of_invisible rfl
  have given : transparent.recolor m = ofColor (m.apply .black) 0 := rfl
  rw [gone, given]
  constructor
  · intro h
    exact (congrArg color h).symm
  · intro h
    rw [h]
    rfl

/-- Equally opaque, and of one color where that can be seen. -/
structure LooksLike (p q : Pixel) : Prop where
  alpha : p.alpha = q.alpha
  color : p.alpha ≠ 0 → p.color = q.color

theorem looksLike_bleach (p : Pixel) : p.bleach.LooksLike p where
  alpha := alpha_bleach p
  color h := by
    rw [alpha_bleach] at h
    rw [bleach_of_visible h]

end Pixel

/-- Every place of the surface is empty. -/
def Bitmap.Untouched (surface : Bitmap) : Prop :=
  ∀ x y, ∀ p ∈ surface.get? x y, p = .transparent

theorem Bitmap.Untouched.clear {surface : Bitmap} (h : surface.Untouched) (x y : Nat) :
    ∀ p ∈ surface.get? x y, p.Clear :=
  fun p hp _ => h x y p hp

theorem Bitmap.untouched_filled (width height : UInt32) :
    (Bitmap.filled width height .transparent).Untouched := by
  intro x y p hp
  rw [get?_filled, Option.mem_def, Option.ite_none_right_eq_some, Option.some.injEq] at hp
  exact hp.2.symm

namespace Sheet

variable {surface : Bitmap}

/-! ## Frames over nothing -/

/-- What a region shows at a place of an empty surface. -/
theorem get?_drawRegion_of_untouched (untouched : surface.Untouched) (s : Sheet) (r : Region)
    (dx dy : Int) (x y : Nat) :
    (s.drawRegion surface r dx dy).get? x y = (surface.get? x y).map fun _ =>
      (s.pixelAt? r (x - dx) (y - dy)).elim .transparent Pixel.bleach := by
  rw [get?_drawRegion]
  refine Option.map_congr fun p hp => ?_
  rw [untouched x y p hp]
  cases s.pixelAt? r (x - dx) (y - dy) with
  | none => rfl
  | some q => exact Pixel.blend_transparent q

theorem pixelAt?_recolor (s : Sheet) (m : Recoloring) (r : Region) (u v : Int) :
    (s.recolor m).pixelAt? r u v = (s.reset.pixelAt? r u v).map (Pixel.recolor m) := by
  unfold pixelAt?
  split
  next => exact Bitmap.get?_map (Pixel.recolor m) s.pristine _ _
  next => rfl

/-- **Recoloring the sheet is recoloring the surface** and then dropping the colors that cannot be
seen. -/
theorem drawRegion_recolor (untouched : surface.Untouched) (s : Sheet) (m : Recoloring) (r : Region)
    (dx dy : Int) :
    (s.recolor m).drawRegion surface r dx dy =
      ((s.reset.drawRegion surface r dx dy).recolor m).map Pixel.bleach := by
  obtain ⟨width, height⟩ := (s.recolor m).sides_drawRegion surface r dx dy
  obtain ⟨width', height'⟩ := s.reset.sides_drawRegion surface r dx dy
  refine Bitmap.ext_get? (width.trans width'.symm) (height.trans height'.symm) fun x y => ?_
  rw [Bitmap.get?_map, Bitmap.recolor, Bitmap.get?_map, get?_drawRegion_of_untouched untouched,
    get?_drawRegion_of_untouched untouched, pixelAt?_recolor, Option.map_map, Option.map_map]
  congr 1
  funext _
  cases s.reset.pixelAt? r (x - dx) (y - dy) with
  | none => exact (Pixel.bleach_of_invisible (p := Pixel.transparent.recolor m) rfl).symm
  | some q => exact (Pixel.bleach_recolor_bleach m q).symm

/-- An empty place on the surface is all that the two ways can differ at. -/
theorem drawRegion_recolor_eq_iff (untouched : surface.Untouched) (s : Sheet) (m : Recoloring)
    (r : Region) (dx dy : Int) :
    (s.recolor m).drawRegion surface r dx dy = (s.reset.drawRegion surface r dx dy).recolor m ↔
      m.apply .black = .black ∨
        ∀ x y, ∀ p ∈ (s.reset.drawRegion surface r dx dy).get? x y, p.alpha ≠ 0 := by
  have clear := (Bitmap.overlaid_drawRegion s.reset surface r dx dy).clear untouched.clear
  rw [drawRegion_recolor untouched]
  generalize s.reset.drawRegion surface r dx dy = plain at clear
  constructor
  · intro same
    by_cases kept : m.apply .black = .black
    · exact .inl kept
    · refine .inr fun x y p hp unseen => kept ?_
      -- the place is empty, so both sides show there what becomes of nothing
      have here := congrArg (fun b : Bitmap => b.get? x y) same
      simp only [Bitmap.recolor, Bitmap.get?_map, Option.mem_def.1 hp, Option.map_some,
        Option.some.injEq, clear x y p hp unseen] at here
      exact Pixel.bleach_recolor_transparent.1 here
  · intro h
    refine Bitmap.ext_get? rfl rfl fun x y => ?_
    rw [Bitmap.get?_map, Bitmap.recolor, Bitmap.get?_map, Option.map_map]
    refine Option.map_congr fun p hp => ?_
    by_cases unseen : p.alpha = 0
    · rcases h with kept | full
      · rw [clear x y p hp unseen]
        exact Pixel.bleach_recolor_transparent.2 kept
      · exact absurd unseen (full x y p hp)
    · exact Pixel.bleach_of_visible unseen

theorem draw_of_get? {s : Sheet} {frame : String} {r : Region} (h : s.frames.get? frame = some r)
    (surface : Bitmap) (dx dy : Int) :
    s.draw surface frame dx dy = .ok (s.drawRegion surface r dx dy) := by
  simp only [draw, FrameTable.require, h]
  rfl

/-- **Recoloring commutes with drawing**, as far as that can be seen. -/
theorem draw_recolor_looksLike {s : Sheet} {frame : String} (known : s.hasFrame frame)
    (untouched : surface.Untouched) (m : Recoloring) (dx dy : Int) :
    ∃ dyed plain, (s.recolor m).draw surface frame dx dy = .ok dyed ∧
      s.reset.draw surface frame dx dy = .ok plain ∧
      (plain.recolor m).bytes = m.applyBuffer plain.bytes ∧
      (dyed.width = plain.width ∧ dyed.height = plain.height) ∧
      (∀ x y p q, dyed.get? x y = some p → (plain.recolor m).get? x y = some q →
        p.LooksLike q) ∧
      (dyed = plain.recolor m ↔
        m.apply .black = .black ∨ ∀ x y, ∀ p ∈ plain.get? x y, p.alpha ≠ 0) := by
  rw [hasFrame, ← FrameTable.isSome_get?] at known
  obtain ⟨r, hr⟩ := Option.isSome_iff_exists.1 known
  have way := drawRegion_recolor untouched s m r dx dy
  have dyed := draw_of_get? (s := s.recolor m) hr surface dx dy
  have plain := draw_of_get? (s := s.reset) hr surface dx dy
  refine ⟨_, _, dyed, plain, Bitmap.bytes_recolor m _, ?_, ?_,
    drawRegion_recolor_eq_iff untouched s m r dx dy⟩
  · rw [way]
    exact ⟨rfl, rfl⟩
  · intro x y p q hp hq
    rw [way, Bitmap.get?_map, hq] at hp
    cases hp
    exact Pixel.looksLike_bleach q

/-- The four specks as a frame: a veil of skin, an outline, a hidden color, and nothing. -/
def framedSpecks : Sheet where
  pristine := fourSpecks
  working := fourSpecks
  frames := FrameTable.empty.insert "idle" ⟨0, 0, 2, 2⟩
  palette := .ofPixels fourSpecks.pixels.toList

/-- Skin is changed, and so is black. -/
def blush : Recoloring :=
  .table ((Substitution.empty.insert .black ⟨255, 0, 0⟩).insert ⟨0xaa, 0xbb, 0xcc⟩ ⟨0x11, 0x22, 0x33⟩)

/-- The veil is changed alike both ways; the empty place beside the frame turns red only if it is
the surface that is recolored. -/
theorem draw_recolor_looksLike_blush :
    ∃ dyed plain,
      (framedSpecks.recolor blush).draw (.filled 3 2 .transparent) "idle" 1 0 = .ok dyed ∧
      framedSpecks.reset.draw (.filled 3 2 .transparent) "idle" 1 0 = .ok plain ∧
      dyed.get? 1 0 = some ⟨0x11, 0x22, 0x33, 0x40⟩ ∧
      (plain.recolor blush).get? 0 0 = some ⟨255, 0, 0, 0⟩ ∧ dyed ≠ plain.recolor blush ∧
      ∀ x y p q, dyed.get? x y = some p → (plain.recolor blush).get? x y = some q →
        p.LooksLike q := by
  have known : framedSpecks.hasFrame "idle" := by decide +kernel
  obtain ⟨dyed, plain, hdyed, hplain, -, -, alike, same⟩ :=
    draw_recolor_looksLike known (Bitmap.untouched_filled 3 2) blush 1 0
  have veil : ((framedSpecks.recolor blush).draw (.filled 3 2 .transparent) "idle" 1 0).toOption.map
      (fun b => b.get? 1 0) = some (some ⟨0x11, 0x22, 0x33, 0x40⟩) := by
    decide +kernel
  have beside : (framedSpecks.reset.draw (.filled 3 2 .transparent) "idle" 1 0).toOption.map
      (fun b => (b.get? 0 0, (b.recolor blush).get? 0 0)) =
        some (some .transparent, some ⟨255, 0, 0, 0⟩) := by
    decide +kernel
  rw [hdyed] at veil
  rw [hplain] at beside
  obtain ⟨empty, red⟩ := Prod.mk.inj (Option.some.inj beside)
  refine ⟨dyed, plain, hdyed, hplain, Option.some.inj veil, red, fun equal => ?_, alike⟩
  rcases same.1 equal with kept | full
  · exact absurd kept (by decide +kernel)
  · exact full 0 0 _ empty rfl

end Sheet

end Paperdoll
