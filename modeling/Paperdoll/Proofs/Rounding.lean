import Mathlib.Algebra.Order.Field.Power
import Mathlib.Data.Rat.Cast.Order
import Mathlib.Tactic.FieldSimp
import Mathlib.Tactic.Linarith
import Mathlib.Tactic.Positivity
import Mathlib.Tactic.Ring
import Paperdoll.Number.Shortest

/-!
# Rounding: the number of a binary format nearest to a quotient

The codes of a format count its magnitudes from zero upwards. Two neighbouring magnitudes have a
midpoint, and these midpoints cut the positive numbers into cells, one for each code; a midpoint
itself belongs to the cell of the even code.

**Theorem (`roundRatio_eq_iff`).** A quotient is rounded to a finite code exactly if it lies in the
cell of that code.

A code is a place among the magnitudes with one and the same exponent, `2 * binade` of them at the
bottom and `binade` of them each time further up (`exists_place`). The step from one magnitude to
the next is a power of two that never gets smaller (`magnitude_succ`, `spacing_mono`), and this is
all that cells need: they are ordered like their codes (`IsNearest.mono`), and rounding finds one
(`isNearest_place`).
-/

namespace Paperdoll

namespace BinaryFormat

variable {f : BinaryFormat} {c c' j k : Nat} {v : ℚ}

/-! ## Places -/

theorem binade_pos : 0 < f.binade := Nat.two_pow_pos _

theorem place_eq (high : f.binade ≤ k) :
    j * f.binade + k = k - f.binade + (j + 1) * f.binade := by
  rw [Nat.add_mul, Nat.one_mul]
  omega

/-- Step `j` has the significands from `binade` on, and the lowest one those from zero on. -/
theorem significand_place (hk : k < 2 * f.binade) (normal : f.binade ≤ k ∨ j = 0) :
    f.significand (j * f.binade + k) = k := by
  unfold significand
  rcases Nat.lt_or_ge k f.binade with low | high
  · obtain rfl : j = 0 := normal.resolve_left (by omega)
    rw [if_pos (by omega)]
    omega
  · rw [if_neg (by omega), place_eq high, Nat.add_mul_mod_self_right, Nat.mod_eq_of_lt (by omega)]
    omega

theorem exponent_place (hk : k < 2 * f.binade) (normal : f.binade ≤ k ∨ j = 0) :
    f.exponent (j * f.binade + k) = f.minExponent + j := by
  have pos := @binade_pos f
  unfold exponent
  rcases Nat.lt_or_ge k f.binade with low | high
  · obtain rfl : j = 0 := normal.resolve_left (by omega)
    rw [Nat.zero_mul, Nat.zero_add, Nat.div_eq_of_lt low]
  · rw [place_eq high, Nat.add_mul_div_right _ _ pos, Nat.div_eq_of_lt (by omega)]
    simp

/-- **Every code is a place.** -/
theorem exists_place (c : Nat) : ∃ j k, c = j * f.binade + k ∧ k < 2 * f.binade ∧
    (f.binade ≤ k ∨ j = 0) := by
  have pos := @binade_pos f
  rcases Nat.lt_or_ge c f.binade with low | high
  · exact ⟨0, c, by omega, by omega, .inr rfl⟩
  · have rest := Nat.mod_lt c pos
    have split := Nat.div_add_mod' c f.binade
    have above : 1 ≤ c / f.binade := (Nat.one_le_div_iff pos).2 high
    refine ⟨c / f.binade - 1, c % f.binade + f.binade, ?_, by omega, .inl (by omega)⟩
    rw [Nat.sub_mul, Nat.one_mul]
    have : f.binade ≤ c / f.binade * f.binade := Nat.le_mul_of_pos_left _ above
    omega

/-! ## Magnitudes -/

/-- The magnitude with a code. -/
def magnitude (f : BinaryFormat) (code : Nat) : ℚ :=
  f.significand code * (2 : ℚ) ^ f.exponent code

/-- The step from a magnitude to the next one. -/
def spacing (f : BinaryFormat) (code : Nat) : ℚ :=
  (2 : ℚ) ^ f.exponent code

/-- The middle between a magnitude and the next one. -/
def midpoint (f : BinaryFormat) (code : Nat) : ℚ :=
  f.magnitude code + f.spacing code / 2

theorem spacing_pos (c : Nat) : 0 < f.spacing c := by
  unfold spacing
  positivity

theorem exponent_mono (h : c ≤ c') : f.exponent c ≤ f.exponent c' := by
  have := Nat.div_le_div_right (c := f.binade) h
  unfold exponent
  omega

theorem spacing_mono (h : c ≤ c') : f.spacing c ≤ f.spacing c' :=
  zpow_le_zpow_right₀ (by norm_num) (exponent_mono h)

theorem spacing_succ (c : Nat) :
    f.spacing (c + 1) = f.spacing c ∨ f.spacing (c + 1) = 2 * f.spacing c := by
  have up : c / f.binade ≤ (c + 1) / f.binade := Nat.div_le_div_right (Nat.le_add_right c 1)
  have down : (c + 1) / f.binade ≤ c / f.binade + 1 := by
    rw [← Nat.add_div_right c binade_pos]
    exact Nat.div_le_div_right (by have := @binade_pos f; omega)
  obtain stays | grows :
      f.exponent (c + 1) = f.exponent c ∨ f.exponent (c + 1) = 1 + f.exponent c := by
    unfold exponent
    omega
  · exact .inl (by rw [spacing, stays, spacing])
  · exact .inr (by rw [spacing, grows, zpow_one_add₀ two_ne_zero, spacing])

theorem spacing_place (hk : k < 2 * f.binade) (normal : f.binade ≤ k ∨ j = 0) :
    f.spacing (j * f.binade + k) = (2 : ℚ) ^ (f.minExponent + j) := by
  rw [spacing, exponent_place hk normal]

theorem magnitude_place (hk : k ≤ 2 * f.binade) (normal : f.binade ≤ k ∨ j = 0) :
    f.magnitude (j * f.binade + k) = k * (2 : ℚ) ^ (f.minExponent + j) := by
  have pos := @binade_pos f
  rcases Nat.lt_or_eq_of_le hk with inside | rfl
  · rw [magnitude, significand_place inside normal, exponent_place inside normal]
  · have next : j * f.binade + 2 * f.binade = (j + 1) * f.binade + f.binade := by
      rw [Nat.add_mul]
      omega
    have first : f.binade < 2 * f.binade := by omega
    rw [magnitude, next, significand_place first (.inl le_rfl), exponent_place first (.inl le_rfl)]
    push_cast
    rw [← add_assoc, zpow_add_one₀ two_ne_zero]
    ring

/-- **The next magnitude** is one step further. -/
theorem magnitude_succ (c : Nat) : f.magnitude (c + 1) = f.magnitude c + f.spacing c := by
  obtain ⟨j, k, rfl, hk, normal⟩ := exists_place (f := f) c
  rw [Nat.add_assoc, magnitude_place hk (by omega), magnitude_place hk.le normal,
    spacing_place hk normal]
  push_cast
  ring

theorem magnitude_strictMono : StrictMono f.magnitude :=
  strictMono_nat_of_lt_succ fun c => by
    rw [magnitude_succ]
    linarith [@spacing_pos f c]

theorem magnitude_zero : f.magnitude 0 = 0 := by
  have := magnitude_place (f := f) (j := 0) (k := 0) (by omega) (.inr rfl)
  simpa using this

theorem magnitude_nonneg (c : Nat) : 0 ≤ f.magnitude c := by
  rw [← @magnitude_zero f]
  exact magnitude_strictMono.monotone (Nat.zero_le c)

theorem midpoint_eq_sub (c : Nat) : f.midpoint c = f.magnitude (c + 1) - f.spacing c / 2 := by
  rw [magnitude_succ, midpoint]
  ring

theorem magnitude_lt_midpoint (c : Nat) : f.magnitude c < f.midpoint c := by
  rw [midpoint]
  linarith [@spacing_pos f c]

theorem midpoint_lt_magnitude (c : Nat) : f.midpoint c < f.magnitude (c + 1) := by
  rw [midpoint_eq_sub]
  linarith [@spacing_pos f c]

theorem midpoint_strictMono : StrictMono f.midpoint :=
  strictMono_nat_of_lt_succ fun c =>
    (midpoint_lt_magnitude c).trans (magnitude_lt_midpoint (c + 1))

/-! ## Cells -/

/-- A number lies in the cell of a code. -/
structure IsNearest (f : BinaryFormat) (v : ℚ) (code : Nat) : Prop where
  above : ∀ k, k + 1 = code → f.midpoint k < v ∨ f.midpoint k = v ∧ code % 2 = 0
  below : v < f.midpoint code ∨ v = f.midpoint code ∧ code % 2 = 0

/-- **Cells are ordered** like their codes. -/
theorem IsNearest.mono {v' : ℚ} (h : f.IsNearest v c) (h' : f.IsNearest v' c') (order : v ≤ v') :
    c ≤ c' := by
  by_contra! hlt
  obtain ⟨k, rfl⟩ : ∃ k, c = k + 1 := ⟨c - 1, by omega⟩
  have cells := midpoint_strictMono (f := f).le_iff_le.2 (show c' ≤ k by omega)
  -- both would have to be even, but they are neighbours
  rcases h.above k rfl with above | ⟨above, even⟩ <;> rcases h'.below with below | ⟨below, even'⟩
  · linarith
  · linarith
  · linarith
  · have same : c' = k := midpoint_strictMono (f := f).injective (by linarith)
    omega

/-- **Cells do not overlap.** -/
theorem IsNearest.unique (h : f.IsNearest v c) (h' : f.IsNearest v c') : c = c' :=
  le_antisymm (h.mono h' le_rfl) (h'.mono h le_rfl)

theorem isNearest_of_between (above : ∀ k, k + 1 = c → f.midpoint k < v)
    (below : v < f.midpoint c) : f.IsNearest v c :=
  ⟨fun k hk => .inl (above k hk), .inl below⟩

theorem isNearest_magnitude (c : Nat) : f.IsNearest (f.magnitude c) c :=
  isNearest_of_between (fun k hk => hk ▸ midpoint_lt_magnitude k) (magnitude_lt_midpoint c)

theorem IsNearest.abs_sub_le (h : f.IsNearest v c) (hv : 0 ≤ v) :
    |f.magnitude c - v| ≤ f.spacing c / 2 := by
  rw [abs_le]
  constructor
  · have : v ≤ f.midpoint c := h.below.elim le_of_lt fun h => h.1.le
    rw [midpoint] at this
    linarith
  · rcases Nat.eq_zero_or_pos c with rfl | pos
    · rw [magnitude_zero]
      linarith [@spacing_pos f 0]
    · obtain ⟨k, rfl⟩ : ∃ k, c = k + 1 := ⟨c - 1, by omega⟩
      have : f.midpoint k ≤ v := (h.above k rfl).elim le_of_lt fun h => h.1.le
      rw [midpoint_eq_sub] at this
      linarith [spacing_mono (f := f) (Nat.le_add_right k 1)]

theorem spacing_mul_binade_le (normal : f.binade ≤ c) :
    f.spacing c * f.binade ≤ f.magnitude c := by
  have : f.binade ≤ f.significand c := by
    unfold significand
    split <;> omega
  have : (f.binade : ℚ) ≤ f.significand c := by exact_mod_cast this
  rw [spacing, magnitude, mul_comm]
  gcongr

theorem significand_succ_le (c : Nat) : f.significand c + 1 ≤ 2 * f.binade := by
  have := Nat.mod_lt c (@binade_pos f)
  unfold significand
  split <;> omega

theorem magnitude_le_spacing (c : Nat) : f.magnitude (c + 1) ≤ f.spacing c * (2 * f.binade) := by
  have : (f.significand c : ℚ) + 1 ≤ 2 * f.binade := by exact_mod_cast significand_succ_le c
  calc f.magnitude (c + 1) = f.spacing c * (f.significand c + 1) := by
        rw [magnitude_succ, magnitude, spacing]
        ring
    _ ≤ f.spacing c * (2 * f.binade) := by gcongr; exact (spacing_pos c).le

/-- **The error of rounding** in relation to what is rounded to. -/
theorem IsNearest.abs_sub_le_mul (h : f.IsNearest v c) (normal : f.magnitude f.binade ≤ v) :
    |f.magnitude c - v| ≤ f.magnitude c * (1 / (2 * f.binade)) := by
  have pos : (0 : ℚ) < f.binade := by exact_mod_cast binade_pos
  have code := (isNearest_magnitude f.binade).mono h normal
  calc |f.magnitude c - v| ≤ f.spacing c / 2 := h.abs_sub_le ((magnitude_nonneg _).trans normal)
    _ = f.spacing c * f.binade * (1 / (2 * f.binade)) := by field_simp
    _ ≤ f.magnitude c * (1 / (2 * f.binade)) := by gcongr; exact spacing_mul_binade_le code

/-- **Products with powers of two** are magnitudes. -/
theorem exists_magnitude {m : Nat} {q : Int} (hm : m < 2 * f.binade) (hq : f.minExponent ≤ q) :
    ∃ c, f.magnitude c = m * (2 : ℚ) ^ q := by
  obtain ⟨j, rfl⟩ : ∃ j : Nat, q = f.minExponent + j := ⟨(q - f.minExponent).toNat, by omega⟩
  induction j generalizing m with
  | zero => exact ⟨0 * f.binade + m, magnitude_place hm.le (.inr rfl)⟩
  | succ j ih =>
    by_cases normal : f.binade ≤ m
    · exact ⟨(j + 1) * f.binade + m, magnitude_place hm.le (.inl normal)⟩
    · -- twice the number fits into the step below
      obtain ⟨c, hc⟩ := ih (m := 2 * m) (by omega) (by omega)
      refine ⟨c, ?_⟩
      rw [hc]
      push_cast
      rw [← add_assoc, zpow_add_one₀ two_ne_zero]
      ring

/-! ## Scaled quotients -/

theorem scaleRatio_pos (num : Nat) {den : Nat} (hden : 0 < den) (e : Int) :
    0 < (scaleRatio num den e).2 := by
  unfold scaleRatio
  split
  · exact hden
  · exact Nat.mul_pos hden (Nat.two_pow_pos _)

theorem scaleRatio_value (num den : Nat) (e : Int) :
    ((scaleRatio num den e).1 : ℚ) / (scaleRatio num den e).2 = num / den * (2 : ℚ) ^ e := by
  unfold scaleRatio
  split
  next up =>
    obtain ⟨n, rfl⟩ := Int.eq_ofNat_of_zero_le up
    push_cast [Int.toNat_natCast, zpow_natCast]
    ring
  next down =>
    obtain ⟨n, rfl⟩ : ∃ n : Nat, e = -n := ⟨(-e).toNat, by omega⟩
    push_cast [neg_neg, Int.toNat_natCast, zpow_neg, zpow_natCast]
    rw [div_mul_eq_div_div, div_eq_mul_inv _ ((2 : ℚ) ^ n)]

/-- The logarithms of both sides tell the exponent of a quotient up to one. -/
theorem quotient_log2_bounds {num den : Nat} (hnum : 0 < num) (hden : 0 < den) :
    (2 : ℚ) ^ ((num.log2 : Int) - den.log2 - 1) ≤ num / den ∧
      (num : ℚ) / den < 2 ^ ((num.log2 : Int) - den.log2 + 1) := by
  have den_pos : (0 : ℚ) < den := by exact_mod_cast hden
  have numLow : (2 : ℚ) ^ num.log2 ≤ num := by exact_mod_cast Nat.log2_self_le hnum.ne'
  have numHigh : (num : ℚ) < 2 ^ (num.log2 + 1) := by exact_mod_cast Nat.lt_log2_self
  have denLow : (2 : ℚ) ^ den.log2 ≤ den := by exact_mod_cast Nat.log2_self_le hden.ne'
  have denHigh : (den : ℚ) < 2 ^ (den.log2 + 1) := by exact_mod_cast Nat.lt_log2_self
  constructor
  · rw [le_div_iff₀ den_pos]
    calc (2 : ℚ) ^ ((num.log2 : Int) - den.log2 - 1) * den
        ≤ 2 ^ ((num.log2 : Int) - den.log2 - 1) * 2 ^ (den.log2 + 1) := by gcongr
      _ = 2 ^ num.log2 := by
        rw [← zpow_natCast, ← zpow_natCast, ← zpow_add₀ two_ne_zero]
        congr 1
        push_cast
        omega
      _ ≤ num := numLow
  · rw [div_lt_iff₀ den_pos]
    calc (num : ℚ) < 2 ^ (num.log2 + 1) := numHigh
      _ = 2 ^ ((num.log2 : Int) - den.log2 + 1) * 2 ^ den.log2 := by
        rw [← zpow_natCast, ← zpow_natCast, ← zpow_add₀ two_ne_zero]
        congr 1
        push_cast
        omega
      _ ≤ 2 ^ ((num.log2 : Int) - den.log2 + 1) * den := by gcongr

/-- **The exponent of a quotient.** -/
theorem ratioLog2_spec {num den : Nat} (hnum : 0 < num) (hden : 0 < den) :
    (2 : ℚ) ^ ratioLog2 num den ≤ num / den ∧ (num : ℚ) / den < 2 ^ (ratioLog2 num den + 1) := by
  obtain ⟨guess_low, guess_high⟩ := quotient_log2_bounds hnum hden
  unfold ratioLog2
  set guess : Int := num.log2 - den.log2
  have scaled_pos : (0 : ℚ) < (scaleRatio num den (-guess)).2 := by
    exact_mod_cast scaleRatio_pos num hden (-guess)
  have back : (num : ℚ) / den =
      (scaleRatio num den (-guess)).1 / (scaleRatio num den (-guess)).2 * 2 ^ guess := by
    rw [scaleRatio_value, mul_assoc, ← zpow_add₀ two_ne_zero, neg_add_cancel, zpow_zero, mul_one]
  have pow_pos : (0 : ℚ) < 2 ^ guess := by positivity
  -- two candidates are left, and one comparison tells them apart
  simp only
  split
  next above =>
    have one_le : (1 : ℚ) ≤ (scaleRatio num den (-guess)).1 / (scaleRatio num den (-guess)).2 := by
      rw [le_div_iff₀ scaled_pos, one_mul]
      exact_mod_cast above
    exact ⟨by rw [back]; exact le_mul_of_one_le_left pow_pos.le one_le, guess_high⟩
  next below =>
    have lt_one : ((scaleRatio num den (-guess)).1 : ℚ) / (scaleRatio num den (-guess)).2 < 1 := by
      rw [div_lt_iff₀ scaled_pos, one_mul]
      exact_mod_cast not_le.1 below
    exact ⟨guess_low, by rw [sub_add_cancel, back]; exact mul_lt_of_lt_one_left pow_pos lt_one⟩

/-- **Rounding to a natural number** leaves at most a half, and a half only at an even one. -/
theorem roundQuotient_spec (num : Nat) {den : Nat} (hden : 0 < den) :
    let r := roundQuotient num den
    ((r : ℚ) - 1 / 2 < num / den ∨ (r : ℚ) - 1 / 2 = num / den ∧ r % 2 = 0) ∧
      ((num : ℚ) / den < r + 1 / 2 ∨ (num : ℚ) / den = r + 1 / 2 ∧ r % 2 = 0) := by
  have den_pos : (0 : ℚ) < den := by exact_mod_cast hden
  have value : (num : ℚ) / den = (num / den : Nat) + (num % den : Nat) / (den : ℚ) := by
    rw [div_eq_iff den_pos.ne', add_mul, div_mul_cancel₀ _ den_pos.ne']
    exact_mod_cast (Nat.div_add_mod' num den).symm
  have rest_nonneg : 0 ≤ ((num % den : Nat) : ℚ) / den := by positivity
  have rest_lt : ((num % den : Nat) : ℚ) / den < 1 := by
    rw [div_lt_one den_pos]
    exact_mod_cast Nat.mod_lt num hden
  rw [value]
  unfold roundQuotient
  simp only
  split_ifs with low high
  · have : ((num % den : Nat) : ℚ) / den < 1 / 2 := by
      rw [div_lt_div_iff₀ den_pos two_pos]
      exact_mod_cast (by omega : num % den * 2 < 1 * den)
    exact ⟨.inl (by linarith), .inl (by linarith)⟩
  · have : 1 / 2 < ((num % den : Nat) : ℚ) / den := by
      rw [div_lt_div_iff₀ two_pos den_pos]
      exact_mod_cast (by omega : 1 * den < num % den * 2)
    push_cast
    exact ⟨.inl (by linarith), .inl (by linarith)⟩
  · -- between two neighbours the even one is taken
    have half : ((num % den : Nat) : ℚ) / den = 1 / 2 := by
      rw [div_eq_div_iff den_pos.ne' two_ne_zero]
      exact_mod_cast (by omega : num % den * 2 = 1 * den)
    rw [half]
    rcases Nat.mod_two_eq_zero_or_one (num / den) with even | odd
    · rw [even, Nat.add_zero]
      exact ⟨.inl (by linarith), .inr ⟨rfl, even⟩⟩
    · rw [odd]
      push_cast
      exact ⟨.inr ⟨by ring, by omega⟩, .inl (by linarith)⟩

/-! ## Rounding -/

/-- The cell of a place, found in units of its step. -/
theorem isNearest_place (even : f.binade % 2 = 0) {r : Nat} {t : ℚ}
    (inside : t < 2 * f.binade) (normal : (f.binade : ℚ) ≤ t ∨ j = 0)
    (above : (r : ℚ) - 1 / 2 < t ∨ (r : ℚ) - 1 / 2 = t ∧ r % 2 = 0)
    (below : t < r + 1 / 2 ∨ t = r + 1 / 2 ∧ r % 2 = 0) :
    f.IsNearest (t * (2 : ℚ) ^ (f.minExponent + j)) (j * f.binade + r) := by
  set step : ℚ := (2 : ℚ) ^ (f.minExponent + j) with step_eq
  have step_pos : 0 < step := by positivity
  have low : (r : ℚ) - 1 / 2 ≤ t := above.elim le_of_lt fun h => h.1.le
  have high : t ≤ r + 1 / 2 := below.elim le_of_lt fun h => h.1.le
  have hr : r ≤ 2 * f.binade := by
    have : (r : ℚ) < ((2 * f.binade + 1 : Nat) : ℚ) := by push_cast; linarith
    have : r < 2 * f.binade + 1 := by exact_mod_cast this
    omega
  have normal' : f.binade ≤ r ∨ j = 0 := normal.imp_left fun h => by
    have : ((f.binade : Nat) : ℚ) < ((r + 1 : Nat) : ℚ) := by push_cast; linarith
    have : f.binade < r + 1 := by exact_mod_cast this
    omega
  have parity : (j * f.binade + r) % 2 = r % 2 := by
    rw [Nat.add_mod, Nat.mul_mod, even, Nat.mul_zero, Nat.zero_mod, Nat.zero_add, Nat.mod_mod]
  have value : f.magnitude (j * f.binade + r) = r * step := magnitude_place hr normal'
  refine ⟨fun k hk => ?_, ?_⟩
  · rw [midpoint_eq_sub, hk, value, parity]
    by_cases first : j = 0 ∨ f.binade < r
    · have hr' : f.binade ≤ r - 1 ∨ j = 0 := by omega
      have r_pos : 0 < r := by rcases first with rfl | h <;> omega
      obtain rfl : k = j * f.binade + (r - 1) := by omega
      rw [spacing_place (by omega) hr', ← step_eq,
        show r * step - step / 2 = (r - 1 / 2) * step by ring]
      exact above.imp (mul_lt_mul_of_pos_right · step_pos) fun h => ⟨by rw [h.1], h.2⟩
    · -- the step below the first place is shorter, and the number is not below that place
      obtain rfl : r = f.binade := by omega
      have := mul_le_mul_of_nonneg_right (normal.resolve_right fun h => first (.inl h)) step_pos.le
      exact .inl (by linarith [@spacing_pos f k])
  · rcases Nat.lt_or_eq_of_le hr with inner | rfl
    · rw [midpoint, value, parity, spacing_place inner normal', ← step_eq,
        show r * step + step / 2 = (r + 1 / 2) * step by ring]
      exact below.imp (mul_lt_mul_of_pos_right · step_pos) fun h => ⟨by rw [h.1], h.2⟩
    · have := mul_lt_mul_of_pos_right inside step_pos
      refine .inl (lt_of_lt_of_le ?_ (magnitude_lt_midpoint _).le)
      rw [value]
      exact_mod_cast this

theorem binade_even (precise : 2 ≤ f.precision) : f.binade % 2 = 0 := by
  obtain ⟨n, hn⟩ : ∃ n, f.precision = n + 2 := ⟨f.precision - 2, by omega⟩
  rw [binade, hn, Nat.add_succ_sub_one, Nat.pow_succ, Nat.mul_mod_left]

/-- **Rounding finds the cell** and cuts off at infinity. -/
theorem exists_isNearest (precise : 2 ≤ f.precision) (num : Nat) {den : Nat} (hden : 0 < den) :
    ∃ c, f.IsNearest (num / den) c ∧ f.roundRatio num den = min f.infinityCode c := by
  rcases Nat.eq_zero_or_pos num with rfl | hnum
  · refine ⟨0, ?_, by simp [roundRatio]⟩
    have := @isNearest_magnitude f 0
    rwa [magnitude_zero, ← zero_div (den : ℚ), ← Nat.cast_zero] at this
  · -- in units of `2 ^ e` the quotient has as many places as the format, or the step is the least
    set e := max f.minExponent (ratioLog2 num den - (f.precision - 1)) with e_eq
    have pos := scaleRatio_pos num hden (-e)
    obtain ⟨low, high⟩ := ratioLog2_spec hnum hden
    have value := scaleRatio_value num den (-e)
    set t := ((scaleRatio num den (-e)).1 : ℚ) / (scaleRatio num den (-e)).2
    have back : (num : ℚ) / den = t * 2 ^ (f.minExponent + ((e - f.minExponent).toNat : Int)) := by
      rw [show f.minExponent + ((e - f.minExponent).toNat : Int) = e by omega, value, mul_assoc,
        ← zpow_add₀ two_ne_zero, neg_add_cancel, zpow_zero, mul_one]
    have size : ((f.binade : Nat) : ℚ) = 2 ^ ((f.precision : Int) - 1) := by
      rw [binade, Nat.cast_pow, Nat.cast_ofNat, ← zpow_natCast]
      congr 1
      omega
    obtain ⟨above, below⟩ := roundQuotient_spec (scaleRatio num den (-e)).1 pos
    refine ⟨(e - f.minExponent).toNat * f.binade +
      roundQuotient (scaleRatio num den (-e)).1 (scaleRatio num den (-e)).2, ?_, ?_⟩
    · rw [back]
      refine isNearest_place (binade_even precise) ?_ ?_ above below
      · rw [value, size, show (2 : ℚ) * 2 ^ ((f.precision : Int) - 1) = 2 ^ (f.precision : Int) by
          rw [← zpow_one_add₀ two_ne_zero]; congr 1; omega]
        calc (num : ℚ) / den * 2 ^ (-e) < 2 ^ (ratioLog2 num den + 1) * 2 ^ (-e) := by gcongr
          _ = 2 ^ (ratioLog2 num den + 1 - e) := by rw [← zpow_add₀ two_ne_zero]; rfl
          _ ≤ 2 ^ (f.precision : Int) := zpow_le_zpow_right₀ (by norm_num) (by omega)
      · refine or_iff_not_imp_right.2 fun shifted => ?_
        rw [value, size]
        calc (2 : ℚ) ^ ((f.precision : Int) - 1) = 2 ^ ratioLog2 num den * 2 ^ (-e) := by
              rw [← zpow_add₀ two_ne_zero]
              congr 1
              omega
          _ ≤ (num : ℚ) / den * 2 ^ (-e) := by gcongr
    · rw [roundRatio, if_neg hnum.ne']

/-- **What is rounded to a finite code** lies in its cell. -/
theorem roundRatio_eq_iff (precise : 2 ≤ f.precision) {num den : Nat} (hden : 0 < den)
    (finite : c < f.infinityCode) : f.roundRatio num den = c ↔ f.IsNearest (num / den) c := by
  obtain ⟨c', nearest, rounded⟩ := exists_isNearest precise num hden
  rw [rounded]
  refine ⟨fun h => ?_, fun h => ?_⟩
  · obtain rfl : c' = c := by omega
    exact nearest
  · rw [h.unique nearest] at finite ⊢
    omega

theorem isNearest_roundRatio (precise : 2 ≤ f.precision) {num den : Nat} (hden : 0 < den)
    (finite : k < f.infinityCode) (le : (num : ℚ) / den ≤ f.magnitude k) :
    f.IsNearest (num / den) (f.roundRatio num den) ∧ f.roundRatio num den < f.infinityCode := by
  obtain ⟨c, nearest, rounded⟩ := exists_isNearest precise num hden
  have := nearest.mono (isNearest_magnitude k) le
  obtain rfl : f.roundRatio num den = c := by omega
  exact ⟨nearest, by omega⟩

/-- A magnitude is rounded to itself. -/
theorem roundRatio_eq_of_magnitude (precise : 2 ≤ f.precision) {num den : Nat} (hden : 0 < den)
    (finite : c < f.infinityCode) (eq : (num : ℚ) / den = f.magnitude c) :
    f.roundRatio num den = c :=
  (roundRatio_eq_iff precise hden finite).2 (eq ▸ isNearest_magnitude c)

/-- Behind the last midpoint nothing finite is nearest. -/
theorem roundRatio_eq_infinityCode (precise : 2 ≤ f.precision) {num den : Nat} (hden : 0 < den)
    (beyond : f.midpoint (f.infinityCode - 1) < num / den) :
    f.roundRatio num den = f.infinityCode := by
  obtain ⟨c, nearest, rounded⟩ := exists_isNearest precise num hden
  rw [rounded, Nat.min_eq_left]
  by_contra! finite
  have last : f.midpoint c ≤ f.midpoint (f.infinityCode - 1) :=
    midpoint_strictMono.monotone (by omega)
  have below : (num : ℚ) / den ≤ f.midpoint c := nearest.below.elim le_of_lt fun h => h.1.le
  linarith

/-- **Infinity** is where the next power of two would be. -/
theorem magnitude_infinityCode (precise : 2 ≤ f.precision) (sized : 1 ≤ f.exponentBits) :
    f.magnitude f.infinityCode = (2 : ℚ) ^ 2 ^ (f.exponentBits - 1) := by
  obtain ⟨p, hp⟩ : ∃ p, f.precision = p + 1 := ⟨f.precision - 1, by omega⟩
  obtain ⟨b, hb⟩ : ∃ b, f.exponentBits = b + 1 := ⟨f.exponentBits - 1, by omega⟩
  have pos := @binade_pos f
  have one_le := Nat.one_le_two_pow (n := b)
  have place : f.infinityCode = (2 * 2 ^ b - 2) * f.binade + f.binade := by
    rw [infinityCode, ← Nat.succ_mul, hb, pow_succ']
    congr 1
    omega
  rw [place, magnitude_place (by omega) (.inl le_rfl), binade, minExponent, hp, hb]
  push_cast [Nat.add_sub_cancel]
  rw [← zpow_natCast, ← zpow_natCast, ← zpow_add₀ two_ne_zero]
  congr 1
  push_cast [show 2 ≤ 2 * 2 ^ b by omega]
  ring

end BinaryFormat

/-! ## Numbers -/

namespace Binary

variable {f : BinaryFormat}

theorem ratio_pos (x : Binary f) : 0 < x.ratio.2 :=
  BinaryFormat.scaleRatio_pos _ Nat.one_pos _

theorem ratio_value (x : Binary f) : (x.ratio.1 : ℚ) / x.ratio.2 = f.magnitude x.code := by
  rw [ratio, BinaryFormat.scaleRatio_value, Nat.cast_one, div_one, BinaryFormat.magnitude]

theorem ratio_num_pos {x : Binary f} (h : 0 < f.magnitude x.code) : 0 < x.ratio.1 := by
  rw [← ratio_value] at h
  exact Nat.pos_of_ne_zero fun zero => by simp [zero] at h

theorem mul_ratio_value (x y : Binary f) :
    ((x.ratio.1 * y.ratio.1 : Nat) : ℚ) / (x.ratio.2 * y.ratio.2 : Nat) =
      f.magnitude x.code * f.magnitude y.code := by
  push_cast
  rw [mul_div_mul_comm, ratio_value, ratio_value]

theorem div_ratio_value (x y : Binary f) :
    ((x.ratio.1 * y.ratio.2 : Nat) : ℚ) / (x.ratio.2 * y.ratio.1 : Nat) =
      f.magnitude x.code / f.magnitude y.code := by
  push_cast
  rw [mul_div_mul_comm, ratio_value, ← ratio_value y, div_eq_mul_inv (f.magnitude x.code), inv_div]

theorem convert_of_isFinite {g : BinaryFormat} {x : Binary f} (finite : x.isFinite = true) :
    x.convert g = ofRatio x.negative x.ratio.1 x.ratio.2 := by
  have below : x.code < f.infinityCode := of_decide_eq_true finite
  have number : ¬ x.isNaN := by
    simp [isNaN]
    omega
  rw [convert, if_neg number, if_pos finite]

end Binary

/-! ## Decimal numbers -/

namespace DecimalForm

def value (d : DecimalForm) : ℚ :=
  d.digits * (10 : ℚ) ^ d.exponent

theorem ratio_pos (d : DecimalForm) : 0 < d.ratio.2 := by
  unfold ratio
  split
  · exact Nat.one_pos
  · exact Nat.pow_pos (by decide)

theorem ratio_value (d : DecimalForm) : (d.ratio.1 : ℚ) / d.ratio.2 = d.value := by
  unfold ratio value
  split
  next up =>
    obtain ⟨n, hn⟩ := Int.eq_ofNat_of_zero_le up
    rw [hn]
    push_cast [Int.toNat_natCast, zpow_natCast]
    rw [div_one]
  next down =>
    obtain ⟨n, hn⟩ : ∃ n : Nat, d.exponent = -n := ⟨(-d.exponent).toNat, by omega⟩
    rw [hn]
    push_cast [neg_neg, Int.toNat_natCast, zpow_neg, zpow_natCast]
    rw [div_eq_mul_inv]

end DecimalForm

end Paperdoll
