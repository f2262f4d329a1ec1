import Paperdoll.Proofs.Digits
import Paperdoll.Proofs.Reading

/-!
# Rereading: a printed number is read back

The digits of a number of 32 bits are read in 64 bits with two roundings, and the result is rounded
to 32 bits. The number is the one that was printed.

**Theorem (`read_digits`).** Reading the digits of a finite number of 32 bits in 64 bits and
rounding gives that number.

On a fine grid the digits lie well inside the cell of the number, farther from its ends than reading
errs (`isNearest_of_fine_reading`). On a coarse grid an end of the cell is a fraction close to a
power of ten if reading can jump over it, and these are isolated: either the digits denote that very
end, and then nothing is rounded, or they are the one exception (`isNearest_of_coarse_reading`).
-/

namespace Paperdoll

open BinaryFormat Binary Json.DecimalText

variable {c k : Nat} {d : DecimalForm} {y : Binary .double} {power : Nat}

/-! ## Fine grids -/

/-- On a fine grid the error of reading is smaller than what is left to the end of the cell. -/
theorem isNearest_of_fine_reading (printed : IsPrinted c d) (reading : IsReading y d.value power)
    (fine : (10 : ℚ) ^ d.exponent < single.spacing c) :
    single.IsNearest (double.magnitude y.code) (c + 1) := by
  have close := abs_le.1 (printed.fine fine)
  have margin : (10 : ℚ) ^ d.exponent ≤ (1 - 1 / 2 ^ 26) * single.spacing c :=
    ten_pow_le_of_lt printed.low printed.high fine
  have size : single.magnitude (c + 1) ≤ single.spacing c * 2 ^ 24 := by
    refine (magnitude_le_spacing c).trans_eq ?_
    norm_num [binade, single]
  have low := reading.low
  have high := reading.high
  have step := @spacing_pos single c
  have grow := spacing_mono (f := single) (Nat.le_add_right c 1)
  unfold slack at low high
  refine isNearest_of_between (fun k hk => ?_) ?_
  · obtain rfl : k = c := by omega
    rw [midpoint_eq_sub]
    linarith
  · rw [BinaryFormat.midpoint]
    linarith

/-! ## Coarse grids -/

/-- The ends of a cell in units that the step below it is two of. -/
theorem exists_midpoint_units (hk : k = c ∨ k = c + 1) :
    ∃ m ≤ midpointBound, single.midpoint k = m * (2 : ℚ) ^ (single.exponent c - 1) := by
  have unit : single.spacing c = 2 * 2 ^ (single.exponent c - 1) := by
    rw [spacing, ← zpow_one_add₀ two_ne_zero, add_sub_cancel]
  have bound : single.significand c + 1 ≤ 2 ^ 24 := significand_succ_le c
  have value : single.magnitude c = single.significand c * single.spacing c := rfl
  unfold midpointBound
  rcases hk with rfl | rfl
  · refine ⟨2 * single.significand k + 1, by omega, ?_⟩
    rw [BinaryFormat.midpoint, value, unit]
    push_cast
    ring
  · rcases spacing_succ (f := single) c with stays | grows
    · refine ⟨2 * single.significand c + 3, by omega, ?_⟩
      rw [BinaryFormat.midpoint, magnitude_succ, stays, value, unit]
      push_cast
      ring
    · refine ⟨2 * single.significand c + 4, by omega, ?_⟩
      rw [BinaryFormat.midpoint, magnitude_succ, grows, value, unit]
      push_cast
      ring

/-- **On a coarse grid reading does not jump over the end of a cell**, unless at the exception. -/
theorem midpoint_eq_of_close (printed : IsPrinted c d) (hk : k = c ∨ k = c + 1)
    (coarse : single.spacing c ≤ (10 : ℚ) ^ d.exponent)
    (above : d.value * (1 - slack) < single.midpoint k)
    (below : single.midpoint k < d.value * (1 + slack)) :
    (d.exponent.natAbs ≤ 11 ∧ single.midpoint k = d.value) ∨ d = ⟨7038531, -32⟩ := by
  obtain ⟨m, bound, value⟩ := exists_midpoint_units hk
  -- the midpoint in the unit of the power of ten
  have order : single.exponent c < tenUnit d.exponent + 2 := by
    refine (zpow_lt_zpow_iff_right₀ (one_lt_two (α := ℚ))).1 ?_
    have := (tenUnit_spec d.exponent).2
    rw [spacing] at coarse
    rw [zpow_add₀ two_ne_zero]
    linarith
  obtain ⟨n, hn⟩ : ∃ n : Nat, tenUnit d.exponent = single.exponent c - 1 + n :=
    ⟨(tenUnit d.exponent - (single.exponent c - 1)).toNat, by omega⟩
  have scale_pos : (0 : ℚ) < 2 ^ n := by positivity
  have units : (m : ℚ) * 2 ^ tenUnit d.exponent = single.midpoint k * 2 ^ n := by
    rw [hn, zpow_add₀ two_ne_zero, zpow_natCast, ← mul_assoc, value]
  have digits : ((d.digits * 2 ^ n : Nat) : ℚ) * 10 ^ d.exponent = d.value * 2 ^ n := by
    rw [DecimalForm.value]
    push_cast
    ring
  have low := mul_lt_mul_of_pos_right above scale_pos
  have high := mul_lt_mul_of_pos_right below scale_pos
  obtain ⟨small, eq⟩ | ⟨exponent, -, odd⟩ := isolated printed.low printed.high
    (q := d.digits * 2 ^ n) (Nat.mul_pos printed.pos (Nat.two_pow_pos n)) bound
    (by rw [digits, units]; linarith) (by rw [digits, units]; linarith)
  · rw [digits, units] at eq
    exact .inl ⟨small, mul_right_cancel₀ scale_pos.ne' eq⟩
  · refine .inr ?_
    rcases n with - | n
    · rw [pow_zero, mul_one] at odd
      cases d
      simp_all
    · rw [pow_succ, ← mul_assoc] at odd
      omega

theorem exists_double_midpoint (hk : k = c ∨ k = c + 1) (finite : c < single.infinityCode) :
    ∃ b < double.infinityCode, double.magnitude b = single.midpoint k := by
  obtain ⟨m, bound, value⟩ := exists_midpoint_units hk
  obtain ⟨low, high⟩ := single_exponent_bounds (x := ⟨false, c⟩) finite
  unfold midpointBound at bound
  rw [value]
  exact exists_double (by omega) (by simp only at low; omega) (by simp only at high; omega)

/-- On a coarse grid the cell is left neither by reading nor by chance. -/
theorem isNearest_of_coarse_reading (printed : IsPrinted c d) (reading : IsReading y d.value power)
    (finite : c < single.infinityCode) (exact : d.exponent.natAbs ≤ 11 → power ≤ 22)
    (coarse : single.spacing c ≤ (10 : ℚ) ^ d.exponent) (regular : d ≠ ⟨7038531, -32⟩) :
    single.IsNearest (double.magnitude y.code) (c + 1) := by
  have value_pos : 0 < d.value := by
    have : (0 : ℚ) < d.digits := by exact_mod_cast printed.pos
    unfold DecimalForm.value
    positivity
  have low := reading.low
  have high := reading.high
  have slack_pos : 0 < d.value * slack := mul_pos value_pos (by norm_num [slack])
  -- a midpoint next to the number is the number itself, and then nothing is rounded
  have close {k : Nat} (hk : k = c ∨ k = c + 1) (above : d.value * (1 - slack) < single.midpoint k)
      (below : single.midpoint k < d.value * (1 + slack)) :
      single.midpoint k = d.value ∧ double.magnitude y.code = d.value := by
    obtain ⟨small, eq⟩ := (midpoint_eq_of_close printed hk coarse above below).resolve_right regular
    exact ⟨eq, reading.exact (exact small) (eq ▸ exists_double_midpoint hk finite)⟩
  refine ⟨fun k hk => ?_, ?_⟩
  · have hk' : k = c ∨ k = c + 1 := by omega
    rcases printed.nearest.above k hk with less | ⟨eq, even⟩
    · refine .inl (not_le.1 fun jump => ?_)
      have := (close hk' (by linarith) (by linarith)).1
      linarith
    · have := close hk' (by linarith) (by linarith)
      exact .inr ⟨by rw [this.1, this.2], even⟩
  · rcases printed.nearest.below with less | ⟨eq, even⟩
    · refine .inl (not_le.1 fun jump => ?_)
      have := (close (.inr rfl) (by linarith) (by linarith)).1
      linarith
    · have := close (.inr rfl) (by linarith) (by linarith)
      exact .inr ⟨by rw [this.1, this.2], even⟩

/-! ## Reading digits -/

/-- How digits are spelled in front of the reader: as they are, or filled up with zeros before and
one zero behind the point. -/
inductive IsSpelling (d : DecimalForm) : Nat → Int → Prop
  | plain : IsSpelling d d.digits d.exponent
  | whole (n : Nat) (whole : d.exponent = n) (short : d.digits * 10 ^ (n + 1) < 2 ^ 53) :
    IsSpelling d (d.digits * 10 ^ (n + 1)) (-1)

/-- **The exception** is read back, too. -/
theorem exception_read :
    let y := (Binary.ofNat 7038531 : Binary .double).div (.ofNat (10 ^ 32))
    single.roundRatio y.ratio.1 y.ratio.2 = single.roundRatio 7038531 (10 ^ 32) := by
  decide +kernel

section Spelling

variable {value : Nat} {exponent : Int} (spelling : IsSpelling d value exponent)

include spelling

theorem IsSpelling.value_eq : (value : ℚ) * 10 ^ exponent = d.value := by
  cases spelling with
  | plain => rfl
  | whole n whole short =>
    rw [DecimalForm.value, whole, zpow_natCast]
    push_cast
    rw [zpow_neg_one, pow_succ, ← mul_assoc, mul_inv_cancel_right₀ (by norm_num)]

theorem IsSpelling.pos (printed : IsPrinted c d) : 0 < value := by
  cases spelling with
  | plain => exact printed.pos
  | whole n whole short => exact Nat.mul_pos printed.pos (Nat.pow_pos (by decide))

theorem IsSpelling.short (printed : IsPrinted c d) : value < 2 ^ 53 := by
  cases spelling with
  | plain => exact printed.short
  | whole n whole short => exact short

theorem IsSpelling.exponent_le (printed : IsPrinted c d) :
    exponent.natAbs ≤ 50 ∧ (d.exponent.natAbs ≤ 11 → exponent.natAbs ≤ 22) := by
  have := printed.low
  have := printed.high
  cases spelling with
  | plain => omega
  | whole n whole short => omega

theorem IsSpelling.of_negative (negative : d.exponent < 0) :
    value = d.digits ∧ exponent = d.exponent := by
  cases spelling with
  | plain => exact ⟨rfl, rfl⟩
  | whole n whole short => omega

/-- **Printed digits are read back.** -/
theorem read_digits (printed : IsPrinted c d) (finite : c + 1 < single.infinityCode) :
    ∃ y, scaled? value exponent = some y ∧ y.isFinite = true ∧
      single.roundRatio y.ratio.1 y.ratio.2 = c + 1 := by
  have precise : 2 ≤ single.precision := by decide
  obtain ⟨small, exact⟩ := spelling.exponent_le printed
  obtain ⟨y, scaled, reading⟩ := scaled?_spec (spelling.pos printed) (spelling.short printed) small
  refine ⟨y, scaled, reading.finite, ?_⟩
  rw [spelling.value_eq] at reading
  by_cases regular : d = ⟨7038531, -32⟩
  · subst regular
    obtain ⟨rfl, rfl⟩ := spelling.of_negative (by decide)
    rw [show (-32 : Int) = -(32 : Nat) from rfl,
      scaled?_of_neg (by decide) (by decide) (by decide) (by decide)] at scaled
    obtain rfl := Option.some.inj scaled
    refine exception_read.trans ((roundRatio_eq_iff precise (by decide) finite).2 ?_)
    have ratio := DecimalForm.ratio_value ⟨7038531, -32⟩
    exact ratio ▸ printed.nearest
  · rw [roundRatio_eq_iff precise y.ratio_pos finite, y.ratio_value]
    rcases lt_or_ge ((10 : ℚ) ^ d.exponent) (single.spacing c) with fine | coarse
    · exact isNearest_of_fine_reading printed reading fine
    · exact isNearest_of_coarse_reading printed reading (by omega) exact coarse regular

end Spelling

end Paperdoll
