import Mathlib.Algebra.Order.Field.Power
import Mathlib.Data.Rat.Cast.Order
import Mathlib.Tactic.FieldSimp
import Mathlib.Tactic.Linarith
import Mathlib.Tactic.Positivity
import Mathlib.Tactic.Ring
import Paperdoll.Proofs.Rounding

/-!
# Isolation: decimal numbers near the middle of two binary ones

A decimal number that lies close to the midpoint of two neighbouring binary numbers, but not on it,
needs many digits on one side or the other. How close it may come is a question of how well a power
of ten, in units of a power of two, is approximated by fractions.

**Theorem (`isolated`).** A fraction with a numerator as small as that of a midpoint of 32 bits is
either no neighbour of a power of ten, or it is the power itself, or it is the only other one.

The fractions in an interval all have a numerator at least that of the simplest one
(`simplest_le`), which Euclid's algorithm finds; it is run once for each power of ten
(`exists_closeFraction`).
-/

namespace Paperdoll

/-! ## The simplest fraction of an interval -/

/-- The simplest fraction strictly between `a / b` and `c / d`. -/
def simplest : Nat → Nat → Nat → Nat → Nat → Nat × Nat
  | 0, _, _, _, _ => (0, 0)
  | fuel + 1, a, b, c, d =>
    let whole := a / b
    if (whole + 1) * d < c then (whole + 1, 1)
    else
      let rest := simplest fuel d (c - whole * d) b (a - whole * b)
      (whole * rest.1 + rest.2, rest.1)

/-- **No fraction of the interval is simpler.** -/
theorem simplest_le (fuel : Nat) {a b c d p q : Nat} (hq : 0 < q) (low : a * q < p * b)
    (high : p * d < c * q) : (simplest fuel a b c d).1 ≤ p ∧ (simplest fuel a b c d).2 ≤ q := by
  induction fuel generalizing a b c d p q with
  | zero => exact ⟨Nat.zero_le p, Nat.zero_le q⟩
  | succ fuel ih =>
    unfold simplest
    have floor : a / b * b ≤ a := Nat.div_mul_le_self a b
    generalize a / b = whole at floor ⊢
    -- the whole part is split off, and the interval of the rest is turned upside down
    obtain ⟨a, rfl⟩ := Nat.exists_eq_add_of_le floor
    have above : whole * q < p := by
      refine Nat.lt_of_mul_lt_mul_right (a := b) ?_
      calc whole * q * b = whole * b * q := Nat.mul_right_comm _ _ _
        _ ≤ (whole * b + a) * q := Nat.mul_le_mul_right q (Nat.le_add_right _ _)
        _ < p * b := low
    obtain ⟨r, rfl⟩ := Nat.exists_eq_add_of_lt above
    have below : whole * d ≤ c := by
      refine (Nat.lt_of_mul_lt_mul_right (a := q) ?_).le
      calc whole * d * q = whole * q * d := Nat.mul_right_comm _ _ _
        _ ≤ (whole * q + r + 1) * d := Nat.mul_le_mul_right d (by omega)
        _ < c * q := high
    obtain ⟨c, rfl⟩ := Nat.exists_eq_add_of_le below
    simp only [Nat.add_sub_cancel_left]
    split
    · have : whole * 1 ≤ whole * q := Nat.mul_le_mul_left whole hq
      exact ⟨by omega, hq⟩
    · obtain ⟨numerator, denominator⟩ := ih (a := d) (b := c) (c := b) (d := a) (p := q)
        (q := r + 1) (by omega) (by linarith) (by linarith)
      have := Nat.mul_le_mul_left whole numerator
      exact ⟨by omega, numerator⟩

/-! ## Powers of ten in units of powers of two -/

open BinaryFormat

/-- The power of two of which a power of ten is two to four. -/
def tenUnit (e : Int) : Int :=
  let ten := (DecimalForm.mk 1 e).ratio
  ratioLog2 ten.1 ten.2 - 1

/-- A power of ten in its unit. -/
def tenInUnits (e : Int) : Nat × Nat :=
  let ten := (DecimalForm.mk 1 e).ratio
  scaleRatio ten.1 ten.2 (-tenUnit e)

/-- No midpoint of 32 bits that is close to a decimal number counts more units than these. -/
def midpointBound : Nat := 2 ^ 25 + 2

/-- How far, in relation to its value, a number may be missed by two roundings to 64 bits. -/
def slack : ℚ := 25 / 2 ^ 56

/-- A fraction that may lie close to a power of ten: the power itself, if it is a small one, and
one that is equal to no power. -/
def closeFraction? (e : Int) : Option (Nat × Nat) :=
  if e.natAbs ≤ 11 then some (tenInUnits e)
  else if e = -32 then some (22841339, 7038531)
  else none

theorem eq_of_mul_eq {p q : Nat} (hq : 0 < q) (hp : p ≤ midpointBound)
    (equal : p * 7038531 = 22841339 * q) : p = 22841339 ∧ q = 7038531 := by
  have coprime : Nat.Coprime 22841339 7038531 := by decide +kernel
  obtain ⟨t, rfl⟩ := coprime.dvd_of_dvd_mul_right ⟨q, equal⟩
  obtain rfl : t = 1 := by
    unfold midpointBound at hp
    omega
  omega

/-- Close to a power of ten are only fractions with large numerators, apart from one. -/
def isIsolated (e : Int) : Bool :=
  let ten := tenInUnits e
  let low := (ten.1 * (2 ^ 56 - 25), ten.2 * 2 ^ 56)
  let high := (ten.1 * (2 ^ 56 + 25), ten.2 * 2 ^ 56)
  let numerator (a c : Nat × Nat) := (simplest 64 a.1 a.2 c.1 c.2).1
  match closeFraction? e with
  | none => midpointBound < numerator low high
  | some m => midpointBound < numerator low m && midpointBound < numerator m high

/-- **What the check says:** a fraction with a small numerator that lies close to the power of ten is
the one that may. -/
theorem exists_closeFraction {e : Int} (certificate : isIsolated e = true) {p q : Nat} (hq : 0 < q)
    (hp : p ≤ midpointBound)
    (low : (tenInUnits e).1 * (2 ^ 56 - 25) * q < p * ((tenInUnits e).2 * 2 ^ 56))
    (high : p * ((tenInUnits e).2 * 2 ^ 56) < (tenInUnits e).1 * (2 ^ 56 + 25) * q) :
    ∃ m, closeFraction? e = some m ∧ p * m.2 = m.1 * q := by
  unfold isIsolated at certificate
  simp only at certificate
  split at certificate
  next =>
    have := (simplest_le 64 hq low high).1
    simp only [decide_eq_true_eq] at certificate
    omega
  next m some =>
    simp only [Bool.and_eq_true, decide_eq_true_eq] at certificate
    refine ⟨m, some, ?_⟩
    rcases Nat.lt_trichotomy (p * m.2) (m.1 * q) with less | equal | more
    · have := (simplest_le 64 hq low less).1
      omega
    · exact equal
    · have := (simplest_le 64 hq more high).1
      omega

theorem isIsolated_index : ∀ i : Fin 89, isIsolated ((i : Nat) - 45) = true := by
  decide +kernel

theorem tenInUnits_index : ∀ i : Fin 89,
    2 ^ 26 * (tenInUnits ((i : Nat) - 45)).1 + 4 * (tenInUnits ((i : Nat) - 45)).2 ≤
      2 ^ 28 * (tenInUnits ((i : Nat) - 45)).2 := by
  decide +kernel

theorem tenInUnits_pos (e : Int) : 0 < (tenInUnits e).2 :=
  scaleRatio_pos _ (DecimalForm.ratio_pos _) _

theorem tenInUnits_value (e : Int) :
    (10 : ℚ) ^ e = (tenInUnits e).1 / (tenInUnits e).2 * 2 ^ tenUnit e := by
  have ten := DecimalForm.ratio_value (.mk 1 e)
  rw [DecimalForm.value, Nat.cast_one, one_mul] at ten
  rw [tenInUnits, scaleRatio_value, ten, mul_assoc, ← zpow_add₀ two_ne_zero, neg_add_cancel,
    zpow_zero, mul_one]

theorem tenUnit_spec (e : Int) :
    2 * (2 : ℚ) ^ tenUnit e ≤ 10 ^ e ∧ (10 : ℚ) ^ e < 4 * 2 ^ tenUnit e := by
  have ten_pos : 0 < (DecimalForm.mk 1 e).ratio.1 := by
    unfold DecimalForm.ratio
    split <;> simp
  have spec := ratioLog2_spec ten_pos (DecimalForm.ratio_pos (.mk 1 e))
  rw [DecimalForm.ratio_value, DecimalForm.value, Nat.cast_one, one_mul] at spec
  have one :
      ratioLog2 (DecimalForm.mk 1 e).ratio.1 (DecimalForm.mk 1 e).ratio.2 = tenUnit e + 1 := by
    simp [tenUnit]
  rw [one, zpow_add_one₀ two_ne_zero, zpow_add_one₀ two_ne_zero, zpow_add_one₀ two_ne_zero] at spec
  exact ⟨by linarith [spec.1], by linarith [spec.2]⟩

section Range

/-! Between these exponents lie the shortest decimal forms of the numbers of 32 bits. -/

variable {e : Int} (low : -45 ≤ e) (high : e ≤ 43)

include low high

theorem exists_index : ∃ i : Fin 89, e = (i : Nat) - 45 :=
  ⟨⟨(e + 45).toNat, by omega⟩, by simp only; omega⟩

theorem ten_pow_le_of_lt {u : Int} (h : (10 : ℚ) ^ e < 2 ^ u) :
    (10 : ℚ) ^ e ≤ (1 - 1 / 2 ^ 26) * 2 ^ u := by
  have order : tenUnit e + 1 < u := by
    refine (zpow_lt_zpow_iff_right₀ (one_lt_two (α := ℚ))).1 (lt_of_le_of_lt ?_ h)
    rw [zpow_add_one₀ two_ne_zero]
    linarith [(tenUnit_spec e).1]
  have grow : (2 : ℚ) ^ (tenUnit e + 2) ≤ 2 ^ u := zpow_le_zpow_right₀ (by norm_num) (by omega)
  have den_pos : (0 : ℚ) < (tenInUnits e).2 := by exact_mod_cast tenInUnits_pos e
  have certificate : (2 : ℚ) ^ 26 * (tenInUnits e).1 + 4 * (tenInUnits e).2 ≤
      2 ^ 28 * (tenInUnits e).2 := by
    obtain ⟨i, rfl⟩ := exists_index low high
    exact_mod_cast tenInUnits_index i
  calc (10 : ℚ) ^ e = (tenInUnits e).1 / (tenInUnits e).2 * 2 ^ tenUnit e := tenInUnits_value e
    _ ≤ (1 - 1 / 2 ^ 26) * 4 * 2 ^ tenUnit e := by
      gcongr
      rw [div_le_iff₀ den_pos]
      linarith
    _ = (1 - 1 / 2 ^ 26) * 2 ^ (tenUnit e + 2) := by
      rw [zpow_add₀ two_ne_zero]
      ring
    _ ≤ (1 - 1 / 2 ^ 26) * 2 ^ u := by gcongr

/-- **Powers of ten are isolated** among the fractions with small numerators. -/
theorem isolated {p q : Nat} (hq : 0 < q) (hp : p ≤ midpointBound)
    (above : q * (10 : ℚ) ^ e * (1 - slack) < p * 2 ^ tenUnit e)
    (below : p * (2 : ℚ) ^ tenUnit e < q * 10 ^ e * (1 + slack)) :
    (e.natAbs ≤ 11 ∧ (p : ℚ) * 2 ^ tenUnit e = q * 10 ^ e) ∨
      (e = -32 ∧ p = 22841339 ∧ q = 7038531) := by
  have den_pos : (0 : ℚ) < (tenInUnits e).2 := by exact_mod_cast tenInUnits_pos e
  have unit_pos : (0 : ℚ) < 2 ^ tenUnit e := by positivity
  rw [tenInUnits_value] at above below ⊢
  have lowNat : (tenInUnits e).1 * (2 ^ 56 - 25) * q < p * ((tenInUnits e).2 * 2 ^ 56) := by
    suffices ((tenInUnits e).1 : ℚ) * (2 ^ 56 - 25) * q < p * ((tenInUnits e).2 * 2 ^ 56) by
      rw [show (2 : ℚ) ^ 56 - 25 = ((2 ^ 56 - 25 : Nat) : ℚ) by norm_num] at this
      exact_mod_cast this
    have : (q : ℚ) * ((tenInUnits e).1 / (tenInUnits e).2) * (1 - slack) < p :=
      lt_of_mul_lt_mul_right (by linarith) unit_pos.le
    rw [slack, mul_div_assoc', div_mul_eq_mul_div, div_lt_iff₀ den_pos] at this
    linarith
  have highNat : p * ((tenInUnits e).2 * 2 ^ 56) < (tenInUnits e).1 * (2 ^ 56 + 25) * q := by
    suffices p * ((tenInUnits e).2 * (2 : ℚ) ^ 56) < (tenInUnits e).1 * (2 ^ 56 + 25) * q by
      exact_mod_cast this
    have : (p : ℚ) < q * ((tenInUnits e).1 / (tenInUnits e).2) * (1 + slack) :=
      lt_of_mul_lt_mul_right (by linarith) unit_pos.le
    rw [slack, mul_div_assoc', div_mul_eq_mul_div, lt_div_iff₀ den_pos] at this
    linarith
  -- the check covers every exponent in the range
  have certificate : isIsolated e = true := by
    obtain ⟨i, rfl⟩ := exists_index low high
    exact isIsolated_index i
  obtain ⟨m, some, equal⟩ := exists_closeFraction certificate hq hp lowNat highNat
  unfold closeFraction? at some
  split_ifs at some with small exception
  · obtain rfl := Option.some.inj some
    refine .inl ⟨small, ?_⟩
    have : (p : ℚ) * (tenInUnits e).2 = (tenInUnits e).1 * q := by exact_mod_cast equal
    field_simp
    linarith
  · obtain rfl := Option.some.inj some
    exact .inr ⟨exception, eq_of_mul_eq hq hp equal⟩

end Range

end Paperdoll
