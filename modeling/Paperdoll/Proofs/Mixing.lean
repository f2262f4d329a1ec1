import Mathlib.Algebra.Order.Round
import Mathlib.Data.Rat.Floor
import Mathlib.Tactic.Linarith
import Mathlib.Tactic.Ring
import Paperdoll.Pixel
import Paperdoll.Word

/-!
# Mixing: pixels over each other, held against exact arithmetic

Exactly, a source of alpha `s` over a target of alpha `t` gives the alpha `s + t (255 - s) / 255`,
and each channel is the mean of the two channels with the weights `255 s` and `t (255 - s)`.

**Theorem (`blend_rounds`).** `Pixel.blend` is what words of 32 bits make of the general rule: no
result exceeds its word, nothing is divided by zero, nothing is lost where a word becomes a byte,
and the two short ways for an invisible and for an opaque source give what the general rule gives
wherever that rule can be followed. Alpha and channels are the exact values rounded to the nearest
whole number, a half upwards; the alpha is not below that of either pixel, and each channel lies
between those of the two.

The rule rounds a quotient by adding half of the divisor first (`half_up`). All else is bounds: a
weighted mean lies between its two members (`mean_between`), which keeps channels within a byte
whatever the weights are.
-/

namespace Paperdoll

/-! ## Rounded means -/

/-- Half of the divisor added first rounds a quotient to the nearest whole number. -/
theorem half_up (n : Nat) {d : Nat} (pos : 0 < d) :
    (((n + d / 2) / d : Nat) : ℤ) = round ((n : ℚ) / d) := by
  have low : (n + d / 2) / d * d ≤ n + d / 2 := Nat.div_mul_le_self _ _
  have high : n + d / 2 < ((n + d / 2) / d + 1) * d := by
    rw [Nat.mul_comm]
    exact Nat.lt_mul_div_succ _ pos
  generalize (n + d / 2) / d = q at low high ⊢
  have low' : 2 * (q * d) ≤ 2 * n + d := by omega
  have high' : 2 * n + d < 2 * ((q + 1) * d) := by omega
  have posQ : (0 : ℚ) < 2 * d := by exact_mod_cast (by omega : 0 < 2 * d)
  have half : (n : ℚ) / d + 1 / 2 = (2 * n + d) / (2 * d) := by
    have : (d : ℚ) ≠ 0 := by exact_mod_cast pos.ne'
    field_simp
  rw [round_eq, half, eq_comm, Int.floor_eq_iff, le_div_iff₀ posQ, div_lt_iff₀ posQ]
  constructor
  · calc ((q : ℤ) : ℚ) * (2 * d) = (2 * (q * d) : Nat) := by push_cast; ring
      _ ≤ (2 * n + d : Nat) := by exact_mod_cast low'
      _ = 2 * n + d := by push_cast; ring
  · calc (2 * n + d : ℚ) = (2 * n + d : Nat) := by push_cast; ring
      _ < (2 * ((q + 1) * d) : Nat) := by exact_mod_cast high'
      _ = ((q : ℤ) + 1 : ℚ) * (2 * d) := by push_cast; ring

/-- A rounded mean with weights lies between its two members. -/
theorem mean_between (a b s t : Nat) (pos : 0 < a + b) :
    min s t ≤ (s * a + t * b + (a + b) / 2) / (a + b) ∧
      (s * a + t * b + (a + b) / 2) / (a + b) ≤ max s t := by
  constructor
  · rw [Nat.le_div_iff_mul_le pos]
    calc min s t * (a + b) = min s t * a + min s t * b := Nat.mul_add ..
      _ ≤ s * a + t * b := Nat.add_le_add (Nat.mul_le_mul_right a (min_le_left s t))
          (Nat.mul_le_mul_right b (min_le_right s t))
      _ ≤ s * a + t * b + (a + b) / 2 := Nat.le_add_right ..
  · rw [← Nat.lt_succ_iff, Nat.div_lt_iff_lt_mul pos]
    calc s * a + t * b + (a + b) / 2 < s * a + t * b + (a + b) := by omega
      _ ≤ max s t * a + max s t * b + (a + b) := Nat.add_le_add_right
          (Nat.add_le_add (Nat.mul_le_mul_right a (le_max_left s t))
            (Nat.mul_le_mul_right b (le_max_right s t))) _
      _ = (max s t).succ * (a + b) := by rw [Nat.succ_mul, Nat.mul_add]

namespace Pixel

/-- Channels stay bytes under mixing. -/
theorem toNat_mixChannel {a b : Nat} (pos : 0 < a + b) (s t : UInt8) :
    (mixChannel a b s.toNat t.toNat).toNat =
      (s.toNat * a + t.toNat * b + (a + b) / 2) / (a + b) := by
  have hs : s.toNat < 256 := s.toNat_lt
  have ht : t.toNat < 256 := t.toNat_lt
  have bound := (mean_between a b s.toNat t.toNat pos).2
  unfold mixChannel
  rw [UInt8.toNat_ofNat']
  exact Nat.mod_eq_of_lt (by omega)

variable (target source : Pixel)

/-! ## The general rule -/

/-- How much the source weighs. -/
def sourceWeight : Nat := source.alpha.toNat * 255

/-- How much the target weighs under the source. -/
def targetWeight : Nat := target.alpha.toNat * (255 - source.alpha.toNat)

/-- The sum of the weights, by which the rule divides. -/
def totalWeight : Nat := source.sourceWeight + targetWeight target source

/-- A channel of the mixture by the general rule. -/
def mixedChannel (channel : Pixel → UInt8) : UInt8 :=
  mixChannel source.sourceWeight (targetWeight target source) (channel source).toNat
    (channel target).toNat

/-- The mixture by the general rule, without the short ways. -/
def mixture : Pixel where
  red := mixedChannel target source red
  green := mixedChannel target source green
  blue := mixedChannel target source blue
  alpha := UInt8.ofNat ((totalWeight target source + 127) / 255)

def channels : List (Pixel → UInt8) := [red, green, blue]

variable {target source} {channel : Pixel → UInt8}

theorem channel_mixture (mem : channel ∈ channels) :
    channel (mixture target source) = mixedChannel target source channel := by
  simp only [channels, List.mem_cons, List.not_mem_nil, or_false] at mem
  rcases mem with rfl | rfl | rfl <;> rfl

theorem totalWeight_pos_of_visible (h : source.alpha ≠ 0) : 0 < totalWeight target source := by
  have : source.alpha.toNat ≠ 0 := fun none => h (UInt8.toNat_inj.1 none)
  simp only [totalWeight, sourceWeight]
  omega

theorem mixChannel_zero_left {b : Nat} (pos : 0 < b) (s t : UInt8) :
    mixChannel 0 b s.toNat t.toNat = t := by
  refine UInt8.toNat_inj.1 ?_
  rw [toNat_mixChannel (by omega), Nat.mul_zero, Nat.zero_add, Nat.zero_add,
    Nat.add_comm, Nat.add_mul_div_right _ _ pos, Nat.div_eq_of_lt (by omega), Nat.zero_add]

theorem mixChannel_zero_right {a : Nat} (pos : 0 < a) (s t : UInt8) :
    mixChannel a 0 s.toNat t.toNat = s := by
  refine UInt8.toNat_inj.1 ?_
  rw [toNat_mixChannel (by omega), Nat.mul_zero, Nat.add_zero, Nat.add_zero,
    Nat.add_comm, Nat.add_mul_div_right _ _ pos, Nat.div_eq_of_lt (by omega), Nat.zero_add]

/-- **The short ways agree with the general rule** wherever its divisor is not zero. -/
theorem blend_eq_mixture (pos : 0 < totalWeight target source) :
    target.blend source = mixture target source := by
  have ht : target.alpha.toNat < 256 := target.alpha.toNat_lt
  by_cases clear : source.alpha = 0
  · have none : source.sourceWeight = 0 := by rw [sourceWeight, clear]; rfl
    have whole : targetWeight target source = target.alpha.toNat * 255 := by
      rw [targetWeight, clear]
      rfl
    have pos : 0 < target.alpha.toNat * 255 := by
      rwa [totalWeight, none, whole, Nat.zero_add] at pos
    rw [blend_of_invisible clear]
    unfold mixture mixedChannel totalWeight
    rw [none, whole]
    simp only [mixChannel_zero_left pos]
    refine Pixel.ext rfl rfl rfl (UInt8.toNat_inj.1 ?_)
    rw [UInt8.toNat_ofNat']
    omega
  · by_cases solid : source.alpha = 255
    · have whole : source.sourceWeight = 65025 := by rw [sourceWeight, solid]; rfl
      have none : targetWeight target source = 0 := by rw [targetWeight, solid]; rfl
      rw [blend, if_neg clear, if_pos solid]
      unfold mixture mixedChannel totalWeight
      rw [none, whole]
      simp only [mixChannel_zero_right (show 0 < 65025 by decide)]
      exact Pixel.ext rfl rfl rfl solid
    · rw [blend, if_neg clear, if_neg solid]
      rfl

/-! ## In words -/

/-- A channel of the mixture, computed in words. -/
def channelWord? (sourceAlpha targetWeight total source target : Nat) : Option UInt8 := do
  let fromSource ← word? (source * sourceAlpha)
  let fromSource ← word? (fromSource * 255)
  let fromTarget ← word? (target * targetWeight)
  let value ← word? (fromSource + fromTarget)
  let value ← word? (value + total / 2)
  let value ← wordDiv? value total
  byte? value

def mixtureWords? (target source : Pixel) : Option Pixel := do
  let sourceAlpha := source.alpha.toNat
  let rest ← wordSub? 255 sourceAlpha
  let targetWeight ← word? (target.alpha.toNat * rest)
  let total ← word? (sourceAlpha * 255)
  let total ← word? (total + targetWeight)
  let red ← channelWord? sourceAlpha targetWeight total source.red.toNat target.red.toNat
  let green ← channelWord? sourceAlpha targetWeight total source.green.toNat target.green.toNat
  let blue ← channelWord? sourceAlpha targetWeight total source.blue.toNat target.blue.toNat
  let alpha ← word? (total + 127)
  let alpha ← wordDiv? alpha 255
  let alpha ← byte? alpha
  return ⟨red, green, blue, alpha⟩

def blendWords? (target source : Pixel) : Option Pixel :=
  if source.alpha = 0 then some target
  else if source.alpha = 255 then some source
  else mixtureWords? target source

theorem sourceWeight_le : source.sourceWeight ≤ 65025 := by
  have := source.alpha.toNat_lt
  simp only [sourceWeight]
  omega

theorem targetWeight_le : targetWeight target source ≤ 65025 := by
  have := target.alpha.toNat_lt
  calc target.alpha.toNat * (255 - source.alpha.toNat) ≤ 255 * 255 :=
        Nat.mul_le_mul (by omega) (by omega)
    _ = 65025 := rfl

theorem channelWord?_eq (pos : 0 < totalWeight target source) (s t : UInt8) :
    channelWord? source.alpha.toNat (targetWeight target source) (totalWeight target source)
      s.toNat t.toNat =
        some (mixChannel source.sourceWeight (targetWeight target source) s.toNat t.toNat) := by
  have hs : s.toNat < 256 := s.toNat_lt
  have ht : t.toNat < 256 := t.toNat_lt
  have fromSource : s.toNat * source.sourceWeight ≤ 255 * 65025 :=
    Nat.mul_le_mul (by omega) sourceWeight_le
  have fromTarget : t.toNat * targetWeight target source ≤ 255 * 65025 :=
    Nat.mul_le_mul (by omega) targetWeight_le
  have half : totalWeight target source / 2 ≤ 65025 := by
    have := @sourceWeight_le source
    have := @targetWeight_le target source
    unfold totalWeight
    omega
  have product : s.toNat * source.alpha.toNat * 255 = s.toNat * source.sourceWeight :=
    Nat.mul_assoc ..
  have narrow : (s.toNat * source.sourceWeight + t.toNat * targetWeight target source +
      totalWeight target source / 2) / totalWeight target source < 2 ^ 8 := by
    have := (mean_between source.sourceWeight (targetWeight target source) s.toNat t.toNat pos).2
    exact Nat.lt_of_le_of_lt this (by omega)
  -- each product and each sum on the way stays a word
  have first : word? (s.toNat * source.alpha.toNat) = some (s.toNat * source.alpha.toNat) :=
    word?_of_le (by unfold maxWord; omega)
  have weighted : word? (s.toNat * source.sourceWeight) = some (s.toNat * source.sourceWeight) :=
    word?_of_le (by unfold maxWord; omega)
  have other : word? (t.toNat * targetWeight target source) =
      some (t.toNat * targetWeight target source) :=
    word?_of_le (by unfold maxWord; omega)
  have sum : word? (s.toNat * source.sourceWeight + t.toNat * targetWeight target source) =
      some (s.toNat * source.sourceWeight + t.toNat * targetWeight target source) :=
    word?_of_le (by unfold maxWord; omega)
  have halved : word? (s.toNat * source.sourceWeight + t.toNat * targetWeight target source +
      totalWeight target source / 2) =
      some (s.toNat * source.sourceWeight + t.toNat * targetWeight target source +
        totalWeight target source / 2) :=
    word?_of_le (by unfold maxWord; omega)
  simp only [channelWord?, Option.bind_eq_bind, Option.bind_some, first, product, weighted, other,
    sum, halved, wordDiv?_of_ne_zero pos.ne', byte?_of_lt narrow]
  rfl

/-- **Words suffice for the general rule** wherever its divisor is not zero. -/
theorem mixtureWords?_eq (pos : 0 < totalWeight target source) :
    mixtureWords? target source = some (mixture target source) := by
  have hs : source.alpha.toNat < 256 := source.alpha.toNat_lt
  have sourceBound := @sourceWeight_le source
  have targetBound := @targetWeight_le target source
  have rest : wordSub? 255 source.alpha.toNat = some (255 - source.alpha.toNat) :=
    wordSub?_of_le (by omega)
  have lower : word? (target.alpha.toNat * (255 - source.alpha.toNat)) =
      some (targetWeight target source) :=
    word?_of_le (Nat.le_trans targetBound (by decide))
  have upper : word? (source.alpha.toNat * 255) = some source.sourceWeight :=
    word?_of_le (Nat.le_trans sourceBound (by decide))
  have total : totalWeight target source ≤ 130050 := by
    unfold totalWeight
    omega
  have sum : word? (source.sourceWeight + targetWeight target source) =
      some (totalWeight target source) :=
    word?_of_le (Nat.le_trans total (by decide))
  have rounded : word? (totalWeight target source + 127) = some (totalWeight target source + 127) :=
    word?_of_le (Nat.le_trans (Nat.add_le_add_right total 127) (by decide))
  have narrow : (totalWeight target source + 127) / 255 < 2 ^ 8 := by
    have := (target.blend source).alpha.toNat_lt
    rwa [toNat_alpha_blend] at this
  simp only [mixtureWords?, Option.bind_eq_bind, Option.bind_some, rest, lower, upper, sum,
    channelWord?_eq pos, rounded, wordDiv?_of_ne_zero (show 255 ≠ 0 by decide), byte?_of_lt narrow]
  rfl

theorem blendWords?_eq : blendWords? target source = some (target.blend source) := by
  unfold blendWords?
  by_cases clear : source.alpha = 0
  · rw [if_pos clear, blend_of_invisible clear]
  · have pos : 0 < totalWeight target source := totalWeight_pos_of_visible clear
    rw [if_neg clear, mixtureWords?_eq pos, ← blend_eq_mixture pos]
    by_cases solid : source.alpha = 255
    · rw [if_pos solid, blend, if_neg clear, if_pos solid]
    · rw [if_neg solid]

/-! ## Exact values -/

/-- The alpha of a mixture without rounding. -/
def exactAlpha (target source : Pixel) : ℚ :=
  source.alpha.toNat + target.alpha.toNat * (255 - source.alpha.toNat) / 255

def exactMean (target source : Pixel) (channel : Pixel → UInt8) : ℚ :=
  ((channel source).toNat * source.alpha.toNat * 255 +
      (channel target).toNat * target.alpha.toNat * (255 - source.alpha.toNat)) /
    (source.alpha.toNat * 255 + target.alpha.toNat * (255 - source.alpha.toNat))

theorem cast_sourceWeight : (source.sourceWeight : ℚ) = source.alpha.toNat * 255 := by
  rw [sourceWeight, Nat.cast_mul]
  rfl

theorem cast_targetWeight :
    (targetWeight target source : ℚ) = target.alpha.toNat * (255 - source.alpha.toNat) := by
  have hs : source.alpha.toNat ≤ 255 := Nat.le_of_lt_succ source.alpha.toNat_lt
  rw [targetWeight, Nat.cast_mul, Nat.cast_sub hs]
  rfl

theorem alpha_blend_eq_round :
    ((target.blend source).alpha.toNat : ℤ) = round (exactAlpha target source) := by
  have exact : exactAlpha target source = (totalWeight target source : ℚ) / (255 : Nat) := by
    rw [exactAlpha, totalWeight, Nat.cast_add, cast_sourceWeight, cast_targetWeight]
    push_cast
    ring
  rw [toNat_alpha_blend, exact]
  exact half_up (totalWeight target source) (d := 255) (by decide)

theorem channel_blend_eq (visible : source.alpha ≠ 0) (mem : channel ∈ channels) :
    (channel (target.blend source)).toNat =
      ((channel source).toNat * source.sourceWeight +
        (channel target).toNat * targetWeight target source + totalWeight target source / 2) /
          totalWeight target source := by
  have pos : 0 < totalWeight target source := totalWeight_pos_of_visible visible
  rw [blend_eq_mixture pos, channel_mixture mem, mixedChannel, toNat_mixChannel pos]
  rfl

theorem channel_blend_eq_round (visible : source.alpha ≠ 0) (mem : channel ∈ channels) :
    ((channel (target.blend source)).toNat : ℤ) = round (exactMean target source channel) := by
  have exact : exactMean target source channel =
      (((channel source).toNat * source.sourceWeight +
        (channel target).toNat * targetWeight target source : Nat) : ℚ) /
          (totalWeight target source : Nat) := by
    rw [exactMean, totalWeight, Nat.cast_add, Nat.cast_add, Nat.cast_mul, Nat.cast_mul,
      cast_sourceWeight, cast_targetWeight, mul_assoc, mul_assoc]
  rw [channel_blend_eq visible mem, exact]
  exact half_up _ (totalWeight_pos_of_visible visible)

/-- **Mixing is exact up to rounding to the nearest whole number**, and words suffice for it. -/
theorem blend_rounds (target source : Pixel) :
    blendWords? target source = some (target.blend source) ∧
      (totalWeight target source ≠ 0 →
        mixtureWords? target source = some (target.blend source)) ∧
      ((target.blend source).alpha.toNat : ℤ) = round (exactAlpha target source) ∧
      max source.alpha.toNat target.alpha.toNat ≤ (target.blend source).alpha.toNat ∧
      (source.alpha ≠ 0 → ∀ channel ∈ channels,
        ((channel (target.blend source)).toNat : ℤ) = round (exactMean target source channel) ∧
        min (channel source).toNat (channel target).toNat ≤
          (channel (target.blend source)).toNat ∧
        (channel (target.blend source)).toNat ≤
          max (channel source).toNat (channel target).toNat) := by
  refine ⟨blendWords?_eq, fun divides => ?_, alpha_blend_eq_round, ?_, fun visible channel mem =>
    ⟨channel_blend_eq_round visible mem, ?_⟩⟩
  · have pos : 0 < totalWeight target source := Nat.pos_of_ne_zero divides
    rw [mixtureWords?_eq pos, blend_eq_mixture pos]
  · obtain ⟨below, above⟩ := alpha_le_alpha_blend target source
    exact max_le above below
  · rw [channel_blend_eq visible mem]
    exact mean_between _ _ _ _ (totalWeight_pos_of_visible visible)

/-- A veil over something that can hardly be seen. -/
theorem blend_rounds_veil :
    blendWords? ⟨10, 20, 30, 3⟩ ⟨200, 100, 51, 128⟩ = some ⟨198, 99, 51, 129⟩ ∧
      (129 : ℤ) = round (exactAlpha ⟨10, 20, 30, 3⟩ ⟨200, 100, 51, 128⟩) ∧
      (198 : ℤ) = round (exactMean ⟨10, 20, 30, 3⟩ ⟨200, 100, 51, 128⟩ red) ∧
      mixtureWords? ⟨10, 20, 30, 3⟩ ⟨200, 100, 51, 0⟩ = some ⟨10, 20, 30, 3⟩ := by
  have mixed : blend ⟨10, 20, 30, 3⟩ ⟨200, 100, 51, 128⟩ = ⟨198, 99, 51, 129⟩ := by decide
  obtain ⟨words, -, alpha, -, means⟩ := blend_rounds ⟨10, 20, 30, 3⟩ ⟨200, 100, 51, 128⟩
  obtain ⟨-, general, -⟩ := blend_rounds ⟨10, 20, 30, 3⟩ ⟨200, 100, 51, 0⟩
  obtain ⟨reds, -⟩ := means (by decide) red (by simp [channels])
  rw [mixed] at words alpha reds
  exact ⟨words, alpha, reds, general (by decide)⟩

end Pixel

end Paperdoll
