import Paperdoll.Recoloring

/-!
# Pixels and how they mix

**`Pixel.blend`** puts one pixel over another in whole numbers: with source alpha `s` and
destination alpha `d`, the source weighs `255 s` and the destination `d (255 - s)`; each channel
is the weighted mean, and the alpha is the sum of the weights over 255, both rounded to the
nearest whole number.
-/

namespace Paperdoll

/-- A color and how opaque it is: 0 is invisible, 255 hides what lies below. -/
@[ext]
structure Pixel where
  red : UInt8
  green : UInt8
  blue : UInt8
  alpha : UInt8
deriving DecidableEq, Repr, Inhabited

namespace Pixel

def transparent : Pixel := ⟨0, 0, 0, 0⟩

def color (p : Pixel) : Color := ⟨p.red, p.green, p.blue⟩

def ofColor (c : Color) (alpha : UInt8) : Pixel := ⟨c.red, c.green, c.blue, alpha⟩

/-- A pixel of which something can be seen: black counts only if it is not fully transparent,
any other color always. -/
def isVisible (p : Pixel) : Bool :=
  p.color != .black || 0 < p.alpha

def recolor (m : Recoloring) (p : Pixel) : Pixel :=
  ofColor (m.apply p.color) p.alpha

@[simp]
theorem color_ofColor (c : Color) (alpha : UInt8) : (ofColor c alpha).color = c := rfl

@[simp]
theorem alpha_ofColor (c : Color) (alpha : UInt8) : (ofColor c alpha).alpha = alpha := rfl

/-! ## As bytes -/

def bytes (p : Pixel) : List UInt8 :=
  [p.red, p.green, p.blue, p.alpha]

/-- The pixels that a byte string holds, four bytes each; a shorter rest is dropped. -/
def listOfBytes : List UInt8 → List Pixel
  | red :: green :: blue :: alpha :: rest => ⟨red, green, blue, alpha⟩ :: listOfBytes rest
  | _ => []

theorem length_listOfBytes : ∀ bytes, (listOfBytes bytes).length = bytes.length / 4
  | [] | [_] | [_, _] | [_, _, _] => by simp [listOfBytes]
  | _ :: _ :: _ :: _ :: rest => by simp [listOfBytes, length_listOfBytes rest]; omega

theorem applyPixels_bytes (m : Recoloring) (p : Pixel) (rest : List UInt8) :
    m.applyPixels (p.bytes ++ rest) = (p.recolor m).bytes ++ m.applyPixels rest := rfl

/-! ## Mixing -/

/-- The weighted mean of two channels, rounded to the nearest whole number. -/
def mixChannel (sourceWeight targetWeight source target : Nat) : UInt8 :=
  let total := sourceWeight + targetWeight
  UInt8.ofNat ((source * sourceWeight + target * targetWeight + total / 2) / total)

/-- The pixel that is seen where `source` lies over `target`. -/
def blend (target source : Pixel) : Pixel :=
  if source.alpha = 0 then target
  else if source.alpha = 255 then source
  else
    let sourceWeight := source.alpha.toNat * 255
    let targetWeight := target.alpha.toNat * (255 - source.alpha.toNat)
    let mix (s t : UInt8) := mixChannel sourceWeight targetWeight s.toNat t.toNat
    { red := mix source.red target.red
      green := mix source.green target.green
      blue := mix source.blue target.blue
      alpha := UInt8.ofNat ((sourceWeight + targetWeight + 127) / 255) }

theorem blend_of_invisible {source : Pixel} (h : source.alpha = 0) (target : Pixel) :
    target.blend source = target := if_pos h

/-- The alpha of a mixture by the general rule, which the two short ways agree with. -/
theorem toNat_alpha_blend (target source : Pixel) :
    (target.blend source).alpha.toNat =
      (source.alpha.toNat * 255 + target.alpha.toNat * (255 - source.alpha.toNat) + 127) / 255 := by
  have hs : source.alpha.toNat < 256 := source.alpha.toNat_lt
  have ht : target.alpha.toNat < 256 := target.alpha.toNat_lt
  unfold blend
  split
  next clear =>
    rw [clear, UInt8.toNat_zero]
    omega
  next =>
    split
    next solid =>
      rw [solid]
      show 255 = (255 * 255 + target.alpha.toNat * (255 - 255) + 127) / 255
      omega
    next =>
      have weight : target.alpha.toNat * (255 - source.alpha.toNat) ≤
          255 * (255 - source.alpha.toNat) := Nat.mul_le_mul_right _ (by omega)
      rw [UInt8.toNat_ofNat']
      exact Nat.mod_eq_of_lt (by omega)

/-- Nothing gets more transparent by being covered. -/
theorem alpha_le_alpha_blend (target source : Pixel) :
    target.alpha.toNat ≤ (target.blend source).alpha.toNat ∧
      source.alpha.toNat ≤ (target.blend source).alpha.toNat := by
  have hs : source.alpha.toNat < 256 := source.alpha.toNat_lt
  have ht : target.alpha.toNat < 256 := target.alpha.toNat_lt
  have shown : target.alpha.toNat * (255 - source.alpha.toNat) +
      target.alpha.toNat * source.alpha.toNat = target.alpha.toNat * 255 := by
    rw [← Nat.mul_add]
    congr 1
    omega
  have hidden : target.alpha.toNat * source.alpha.toNat ≤ 255 * source.alpha.toNat :=
    Nat.mul_le_mul_right _ (by omega)
  rw [toNat_alpha_blend]
  constructor <;> omega

/-! ## Piles of pixels -/

theorem foldl_blend_of_invisible {pile : List Pixel} (h : ∀ q ∈ pile, q.alpha = 0) (p : Pixel) :
    pile.foldl blend p = p := by
  induction pile with
  | nil => rfl
  | cons q rest ih =>
    rw [List.foldl_cons, blend_of_invisible (h q List.mem_cons_self)]
    exact ih fun other mem => h other (List.mem_cons_of_mem q mem)

theorem alpha_le_alpha_foldl_blend (pile : List Pixel) (p : Pixel) :
    p.alpha.toNat ≤ (pile.foldl blend p).alpha.toNat ∧
      ∀ q ∈ pile, q.alpha.toNat ≤ (pile.foldl blend p).alpha.toNat := by
  induction pile generalizing p with
  | nil => exact ⟨Nat.le_refl _, fun q mem => absurd mem List.not_mem_nil⟩
  | cons q rest ih =>
    obtain ⟨below, above⟩ := alpha_le_alpha_blend p q
    obtain ⟨start, others⟩ := ih (p.blend q)
    refine ⟨Nat.le_trans below start, fun other mem => ?_⟩
    rcases List.mem_cons.1 mem with rfl | mem
    · exact Nat.le_trans above start
    · exact others other mem

end Pixel

end Paperdoll
