import Paperdoll.Json.Numeral
import Paperdoll.Proofs.Isolation

/-!
# Reading: what two roundings make of a decimal number

A decimal number that fits into the window of the reader is scaled in 64 bits: the power of ten is
rounded, and so is the product or quotient with it.

**Theorem (`scaled?_spec`).** The result is finite and misses the number by less than `slack` in
relation to its value. When the power of ten is exact and the number has 64 bits, the result is
that number. A number that is too large for 32 bits but not for 64 is still too large afterwards
(`scaled?_beyond`).
-/

namespace Paperdoll

open BinaryFormat Json

/-! ## The format of 64 bits -/

/-- A whole multiple of a power of two, neither too long nor too large, is a finite magnitude. -/
theorem exists_double {m : Nat} {q : Int} (hm : m < 2 ^ 53) (low : -1074 ≤ q) (high : q ≤ 971) :
    ∃ c < double.infinityCode, double.magnitude c = m * (2 : ℚ) ^ q := by
  obtain ⟨c, hc⟩ := exists_magnitude (f := double) hm low
  refine ⟨c, (magnitude_strictMono (f := double)).lt_iff_lt.1 ?_, hc⟩
  rw [hc, magnitude_infinityCode (by decide) (by decide)]
  calc (m : ℚ) * 2 ^ q < 2 ^ (53 : Int) * 2 ^ q := by
        gcongr
        exact_mod_cast hm
    _ ≤ 2 ^ (53 : Int) * 2 ^ (971 : Int) := by gcongr; norm_num
    _ ≤ 2 ^ 2 ^ (double.exponentBits - 1) := by
      rw [← zpow_add₀ two_ne_zero, ← zpow_natCast]
      exact zpow_le_zpow_right₀ (by norm_num) (by decide)

/-- A number stands for another one up to one rounding. -/
structure IsRounded (y v : ℚ) : Prop where
  low : y * (1 - 1 / 2 ^ 53) ≤ v
  high : v ≤ y * (1 + 1 / 2 ^ 53)

/-- **One rounding to 64 bits**, below a finite magnitude and far from the lower end of the
format. -/
theorem double_rounded_le (num : Nat) {den k : Nat} (hden : 0 < den)
    (finite : k < double.infinityCode) (low : (2 : ℚ) ^ (-250 : Int) ≤ num / den)
    (high : (num : ℚ) / den ≤ double.magnitude k) :
    double.roundRatio num den < double.infinityCode ∧
      IsRounded (double.magnitude (double.roundRatio num den)) (num / den) := by
  obtain ⟨nearest, bounded⟩ := isNearest_roundRatio (by decide) hden finite high
  have normal : double.magnitude double.binade ≤ num / den := by
    refine le_trans ?_ low
    have place := magnitude_place (f := double) (j := 0) (k := double.binade) (by decide) (.inr rfl)
    rw [Nat.zero_mul, Nat.zero_add, binade, Nat.cast_pow, Nat.cast_ofNat, ← zpow_natCast,
      ← zpow_add₀ two_ne_zero] at place
    rw [binade, place]
    exact zpow_le_zpow_right₀ (by norm_num) (by decide)
  have error := abs_le.1 (nearest.abs_sub_le_mul normal)
  have width : (1 : ℚ) / (2 * double.binade) = 1 / 2 ^ 53 := by norm_num [binade, double]
  rw [width] at error
  exact ⟨bounded, by linarith [error.2], by linarith [error.1]⟩

theorem double_rounded (num : Nat) {den : Nat} (hden : 0 < den)
    (low : (2 : ℚ) ^ (-250 : Int) ≤ num / den) (high : (num : ℚ) / den ≤ 2 ^ (250 : Int)) :
    double.roundRatio num den < double.infinityCode ∧
      IsRounded (double.magnitude (double.roundRatio num den)) (num / den) := by
  obtain ⟨k, finite, hk⟩ :=
    exists_double (m := 1) (q := 250) (by norm_num) (by norm_num) (by norm_num)
  rw [Nat.cast_one, one_mul] at hk
  exact double_rounded_le num hden finite low (hk ▸ high)

theorem IsRounded.pos {y v : ℚ} (h : IsRounded y v) (hv : 0 < v) : 0 < y := by
  have := h.high
  linarith

theorem IsRounded.mul {x p t y : ℚ} (hx : 0 < x) (hp : IsRounded p t) (hy : IsRounded y (x * p))
    (ht : 0 < t) : x * t * (1 - slack) < y ∧ y < x * t * (1 + slack) := by
  have value : 0 < x * t := by positivity
  have low : x * p * (1 - 1 / 2 ^ 53) ≤ x * t := by nlinarith [hp.low]
  have high : x * t ≤ x * p * (1 + 1 / 2 ^ 53) := by nlinarith [hp.high]
  have := hy.low
  have := hy.high
  unfold slack
  constructor <;> linarith

theorem IsRounded.div {x p t y : ℚ} (hx : 0 < x) (hp : IsRounded p t) (hy : IsRounded y (x / p))
    (ht : 0 < t) : x / t * (1 - slack) < y ∧ y < x / t * (1 + slack) := by
  have value : 0 < x / t := by positivity
  have p_pos := hp.pos ht
  have low : x / t * (1 - 1 / 2 ^ 53) ≤ x / p := by
    rw [div_mul_eq_mul_div, div_le_div_iff₀ ht p_pos]
    nlinarith [hp.low]
  have high : x / p ≤ x / t * (1 + 1 / 2 ^ 53) := by
    rw [div_mul_eq_mul_div, div_le_div_iff₀ p_pos ht]
    nlinarith [hp.high]
  have := hy.low
  have := hy.high
  unfold slack
  constructor <;> linarith

theorem IsRounded.mul_bounds {a b x p : ℚ} (ha : 0 < a) (hb : 0 < b) (hx : IsRounded x a)
    (hp : IsRounded p b) :
    x * p * (1 - 1 / 2 ^ 53) ^ 2 ≤ a * b ∧ a * b ≤ x * p * (1 + 1 / 2 ^ 53) ^ 2 := by
  have x_pos := hx.pos ha
  have p_pos := hp.pos hb
  constructor
  · calc x * p * (1 - 1 / 2 ^ 53) ^ 2 = x * (1 - 1 / 2 ^ 53) * (p * (1 - 1 / 2 ^ 53)) := by ring
      _ ≤ a * b := mul_le_mul hx.low hp.low (by linarith) ha.le
  · calc a * b ≤ x * (1 + 1 / 2 ^ 53) * (p * (1 + 1 / 2 ^ 53)) :=
          mul_le_mul hx.high hp.high hb.le (by linarith)
      _ = x * p * (1 + 1 / 2 ^ 53) ^ 2 := by ring

/-! ## Scaling -/

namespace Json.DecimalText

/-- A natural number times a power of ten, scaled in 64 bits. -/
def scaled? (value : Nat) (exponent : Int) : Option (Binary .double) :=
  let x : Binary .double := .ofNat value
  if exponent < 0 then some (divPower x exponent.natAbs)
  else if exponent ≤ maxPower then
    let y := x.mul (.ofNat (10 ^ exponent.toNat))
    if y.isFinite then some y else none
  else if x.code = 0 then some x
  else none

theorem windowed_eq_scaled? (d : DecimalText) :
    d.windowed = (scaled? d.window.value (d.window.exponent + d.exponent.getD 0)).map
      fun y => { y with negative := d.negative } :=
  rfl

theorem ofNat_exact {n : Nat} (h : ∃ c < double.infinityCode, double.magnitude c = n) :
    double.magnitude (Binary.ofNat n : Binary .double).code = n := by
  obtain ⟨c, finite, hc⟩ := h
  have : (n : ℚ) / (1 : Nat) = double.magnitude c := by rw [hc, Nat.cast_one, div_one]
  rw [← hc]
  exact congrArg double.magnitude (roundRatio_eq_of_magnitude (by decide) Nat.one_pos finite this)

theorem exists_double_nat {n : Nat} (hn : n < 2 ^ 53) :
    ∃ c < double.infinityCode, double.magnitude c = n := by
  obtain ⟨c, finite, hc⟩ := exists_double (q := 0) hn (by norm_num) (by norm_num)
  exact ⟨c, finite, by rw [hc, zpow_zero, mul_one]⟩

/-- The powers of ten up to this one are odd numbers of 53 bits times powers of two. -/
theorem exists_double_ten {n : Nat} (hn : n ≤ 22) :
    ∃ c < double.infinityCode, double.magnitude c = ((10 ^ n : Nat) : ℚ) := by
  have short : 5 ^ n < 2 ^ 53 :=
    lt_of_le_of_lt (Nat.pow_le_pow_right (by decide) hn) (by decide)
  obtain ⟨c, finite, hc⟩ := exists_double (q := n) short (by omega) (by omega)
  refine ⟨c, finite, ?_⟩
  rw [hc, zpow_natCast]
  push_cast
  rw [← mul_pow]
  norm_num

theorem ten_rounded {n : Nat} (hn : n ≤ 50) :
    IsRounded (double.magnitude (Binary.ofNat (10 ^ n) : Binary .double).code)
      ((10 : ℚ) ^ n) := by
  have low : (1 : ℚ) ≤ 10 ^ n := one_le_pow₀ (by norm_num)
  have high : (10 : ℚ) ^ n ≤ 10 ^ 50 := pow_le_pow_right₀ (by norm_num) hn
  have cast : ((10 ^ n : Nat) : ℚ) / (1 : Nat) = 10 ^ n := by push_cast; ring
  have := double_rounded (10 ^ n) Nat.one_pos
    (by rw [cast]; exact le_trans (by norm_num) low) (by rw [cast]; exact high.trans (by norm_num))
  rw [cast] at this
  exact this.2

theorem ten_size {n : Nat} (hn : n ≤ 50) :
    1 / 2 ≤ double.magnitude (Binary.ofNat (10 ^ n) : Binary .double).code ∧
      double.magnitude (Binary.ofNat (10 ^ n) : Binary .double).code ≤ 2 ^ 168 := by
  have rounded := ten_rounded hn
  have low : (1 : ℚ) ≤ 10 ^ n := one_le_pow₀ (by norm_num)
  have high : (10 : ℚ) ^ n ≤ 10 ^ 50 := pow_le_pow_right₀ (by norm_num) hn
  exact ⟨by linarith [rounded.high], by linarith [rounded.low]⟩

/-- The reader makes this of a number: it misses it by little, and by nothing if the power of ten
that has been used is held without error and the number is, too. -/
structure IsReading (y : Binary .double) (v : ℚ) (power : Nat) : Prop where
  finite : y.isFinite = true
  low : v * (1 - slack) < double.magnitude y.code
  high : double.magnitude y.code < v * (1 + slack)
  exact : power ≤ 22 → (∃ c < double.infinityCode, double.magnitude c = v) →
    double.magnitude y.code = v

section Scaling

variable {value n : Nat} (pos : 0 < value) (short : value < 2 ^ 53) (hn : n ≤ 50)

include pos short hn

/-- **The product with a power of ten.** -/
theorem isReading_mul :
    IsReading ((Binary.ofNat value).mul (.ofNat (10 ^ n))) (value * (10 : ℚ) ^ n) n := by
  have rounded := ten_rounded hn
  obtain ⟨p_low, p_high⟩ := ten_size hn
  set x : Binary .double := .ofNat value with x_eq
  set p : Binary .double := .ofNat (10 ^ n) with p_eq
  have product := Binary.mul_ratio_value x p
  rw [x_eq, ofNat_exact (exists_double_nat short), ← x_eq] at product
  have low : (1 : ℚ) ≤ value := by exact_mod_cast pos
  have high : (value : ℚ) ≤ 2 ^ 53 := by exact_mod_cast short.le
  have den_pos := Nat.mul_pos x.ratio_pos p.ratio_pos
  obtain ⟨finite, result⟩ := double_rounded (x.ratio.1 * p.ratio.1) den_pos
    (by
      rw [product]
      exact le_trans (by norm_num) (mul_le_mul low p_low (by norm_num) (by linarith)))
    (by
      rw [product]
      exact (mul_le_mul high p_high (by linarith) (by norm_num)).trans (by norm_num))
  rw [product] at result
  have bounds := IsRounded.mul (by linarith) rounded result (by positivity)
  refine ⟨decide_eq_true finite, bounds.1, bounds.2, fun small ⟨c, hc, eq⟩ => ?_⟩
  -- with an exact power of ten only the product is rounded, and it is a magnitude
  have exact_ten := ofNat_exact (exists_double_ten small)
  push_cast at exact_ten
  rw [p_eq, exact_ten, ← eq] at product
  rw [← eq]
  exact congrArg double.magnitude (roundRatio_eq_of_magnitude (by decide) den_pos hc product)

/-- **The quotient by a power of ten.** -/
theorem isReading_div :
    IsReading ((Binary.ofNat value).div (.ofNat (10 ^ n))) (value / (10 : ℚ) ^ n) n := by
  have rounded := ten_rounded hn
  obtain ⟨p_low, p_high⟩ := ten_size hn
  set x : Binary .double := .ofNat value with x_eq
  set p : Binary .double := .ofNat (10 ^ n) with p_eq
  have quotient := Binary.div_ratio_value x p
  rw [x_eq, ofNat_exact (exists_double_nat short), ← x_eq] at quotient
  have low : (1 : ℚ) ≤ value := by exact_mod_cast pos
  have high : (value : ℚ) ≤ 2 ^ 53 := by exact_mod_cast short.le
  have den_pos := Nat.mul_pos x.ratio_pos (Binary.ratio_num_pos (x := p) (by linarith))
  obtain ⟨finite, result⟩ := double_rounded (x.ratio.1 * p.ratio.2) den_pos
    (by rw [quotient, le_div_iff₀ (by linarith)]; norm_num; linarith)
    (by rw [quotient, div_le_iff₀ (by linarith)]; norm_num; linarith)
  rw [quotient] at result
  have bounds := IsRounded.div (by linarith) rounded result (by positivity)
  refine ⟨decide_eq_true finite, bounds.1, bounds.2, fun small ⟨c, hc, eq⟩ => ?_⟩
  have exact_ten := ofNat_exact (exists_double_ten small)
  push_cast at exact_ten
  rw [p_eq, exact_ten, ← eq] at quotient
  rw [← eq]
  exact congrArg double.magnitude (roundRatio_eq_of_magnitude (by decide) den_pos hc quotient)

end Scaling

theorem scaled?_of_neg {value n : Nat} (pos : 0 < value) (short : value < 2 ^ 53) (negative : 0 < n)
    (small : n ≤ 50) :
    scaled? value (-n) = some ((Binary.ofNat value).div (.ofNat (10 ^ n))) := by
  have nonzero : (Binary.ofNat value : Binary .double).code ≠ 0 := fun zero => by
    have := ofNat_exact (exists_double_nat short)
    rw [zero, magnitude_zero] at this
    exact pos.ne (by exact_mod_cast this)
  rw [scaled?, if_pos (by omega), Int.natAbs_neg, Int.natAbs_natCast, divPower, if_neg nonzero,
    if_pos (by unfold maxPower; omega)]

/-- **Scaling** a natural number that is not zero. -/
theorem scaled?_spec {value : Nat} {exponent : Int} (pos : 0 < value) (short : value < 2 ^ 53)
    (small : exponent.natAbs ≤ 50) :
    ∃ y, scaled? value exponent = some y ∧
      IsReading y (value * (10 : ℚ) ^ exponent) exponent.natAbs := by
  rcases lt_or_ge exponent 0 with negative | nonneg
  · obtain ⟨n, rfl⟩ : ∃ n : Nat, exponent = -n := ⟨(-exponent).toNat, by omega⟩
    rw [Int.natAbs_neg, Int.natAbs_natCast] at small ⊢
    rw [scaled?_of_neg pos short (by omega) small, zpow_neg, zpow_natCast, ← div_eq_mul_inv]
    exact ⟨_, rfl, isReading_div pos short small⟩
  · obtain ⟨n, rfl⟩ : ∃ n : Nat, exponent = n := ⟨exponent.toNat, by omega⟩
    rw [Int.natAbs_natCast] at small ⊢
    have reading := isReading_mul pos short small
    rw [scaled?, if_neg (by omega), Int.toNat_natCast, if_pos (by unfold maxPower; omega)]
    simp only
    rw [if_pos reading.finite, zpow_natCast]
    exact ⟨_, rfl, reading⟩

/-! ## Large numbers -/

section Large

-- The upper bound is a letter: a power that large is not to be evaluated.
variable {m k : Nat} {b : ℚ} (short : m < 2 ^ 64)
  (low : 2 ^ 128 ≤ (m : ℚ) * 10 ^ k) (high : (m : ℚ) * 10 ^ k ≤ 2 * b)
  (two : ∃ c < double.infinityCode, double.magnitude c = 2 * b)
  (three : ∃ c < double.infinityCode, double.magnitude c = 3 * b)

include short low high two three

/-- Three roundings do not take a number beyond those of 32 bits below the last midpoint. -/
theorem large_mul :
    ((Binary.ofNat m : Binary .double).mul (.ofNat (10 ^ k))).isFinite = true ∧
      (2 : ℚ) ^ 128 - 2 ^ 103 <
        double.magnitude ((Binary.ofNat m : Binary .double).mul (.ofNat (10 ^ k))).code := by
  have ten : (1 : ℚ) ≤ 10 ^ k := one_le_pow₀ (by norm_num)
  have whole : (1 : ℚ) ≤ m := by
    have : m ≠ 0 := by rintro rfl; norm_num at low
    exact_mod_cast Nat.one_le_iff_ne_zero.2 this
  have top : (m : ℚ) ≤ 2 ^ 64 := by exact_mod_cast short.le
  obtain ⟨c, c_finite, c_value⟩ := two
  obtain ⟨d, d_finite, d_value⟩ := three
  -- the number, the power of ten, and their product are rounded, one after the other
  have m_rounded := (double_rounded m Nat.one_pos
    (by rw [Nat.cast_one, div_one]; exact le_trans (by norm_num) whole)
    (by rw [Nat.cast_one, div_one]; exact top.trans (by norm_num))).2
  have ten_cast : ((10 ^ k : Nat) : ℚ) / (1 : Nat) = 10 ^ k := by push_cast; ring
  have ten_rounded := (double_rounded_le (10 ^ k) Nat.one_pos c_finite
    (by rw [ten_cast]; exact le_trans (by norm_num) ten)
    (by rw [ten_cast, c_value]; nlinarith)).2
  rw [ten_cast] at ten_rounded
  rw [Nat.cast_one, div_one] at m_rounded
  set x : Binary .double := .ofNat m
  set p : Binary .double := .ofNat (10 ^ k)
  change IsRounded (double.magnitude x.code) m at m_rounded
  change IsRounded (double.magnitude p.code) (10 ^ k) at ten_rounded
  have bounds := m_rounded.mul_bounds (by linarith) (by linarith) ten_rounded
  obtain ⟨finite, result⟩ := double_rounded_le (x.ratio.1 * p.ratio.1)
    (Nat.mul_pos x.ratio_pos p.ratio_pos) d_finite
    (by
      rw [Binary.mul_ratio_value]
      exact le_trans (by norm_num) (show (1 : ℚ) ≤ _ by linarith [bounds.2]))
    (by
      rw [Binary.mul_ratio_value, d_value]
      linarith [bounds.1])
  rw [Binary.mul_ratio_value] at result
  have : _ ≤ double.magnitude (x.mul p).code * (1 + 1 / 2 ^ 53) := result.high
  exact ⟨decide_eq_true finite, by linarith [bounds.2]⟩

end Large

/-- **A number beyond those of 32 bits**, but not beyond those of 64 bits, is still beyond them when
it has been scaled. -/
theorem scaled?_beyond {m k : Nat} (short : m < 2 ^ 64) (low : 2 ^ 128 ≤ m * 10 ^ k)
    (high : m * 10 ^ k ≤ 2 ^ 1023) :
    ∃ y, scaled? m k = some y ∧ y.isFinite = true ∧ y.negative = false ∧
      (2 : ℚ) ^ 128 - 2 ^ 103 < double.magnitude y.code := by
  have pos : 0 < m := Nat.pos_of_ne_zero fun zero => by simp [zero] at low
  have few : k ≤ maxPower := by
    by_contra! many
    have ten : 10 ^ (maxPower + 1) ≤ 10 ^ k := Nat.pow_le_pow_right (by decide) many
    exact absurd ((ten.trans (Nat.le_mul_of_pos_left _ pos)).trans high) (by decide +kernel)
  have top : (m : ℚ) * 10 ^ k ≤ 2 * (2 ^ 51 * 2 ^ (971 : Int)) := by
    rw [← mul_assoc, ← pow_succ', zpow_ofNat, ← pow_add]
    simpa only [Nat.cast_mul, Nat.cast_pow, Nat.cast_ofNat] using (Nat.cast_le (α := ℚ)).2 high
  have held (n : Nat) (hn : n * 2 ^ 51 < 2 ^ 53) : ∃ c < double.infinityCode,
      double.magnitude c = n * (2 ^ 51 * 2 ^ (971 : Int)) := by
    obtain ⟨c, finite, hc⟩ := exists_double (q := 971) hn (by norm_num) le_rfl
    exact ⟨c, finite, by rw [hc, Nat.cast_mul, mul_assoc]; norm_num⟩
  obtain ⟨finite, large⟩ := large_mul short (by exact_mod_cast low) top
    (held 2 (by norm_num)) (held 3 (by norm_num))
  refine ⟨_, ?_, finite, rfl, large⟩
  rw [scaled?, if_neg (by omega), Int.toNat_natCast, if_pos (by exact_mod_cast few)]
  exact if_pos finite

end Json.DecimalText

end Paperdoll
