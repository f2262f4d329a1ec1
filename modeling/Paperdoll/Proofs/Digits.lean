import Paperdoll.Proofs.Isolation

/-!
# Digits: which decimal number is printed

**Theorem (`isPrinted_shortest`).** The digits of a finite number of 32 bits that is not zero denote
a number in its cell. If their grid is finer than the binary numbers around, they are the point of
the grid nearest to the number, and there are in no case more of them than fit into 53 bits.

On a grid finer than the binary numbers the nearest point lies in the cell (`isNearest_of_fine`), so
the search ends there at the latest, and the grid tried before was coarse.
-/

namespace Paperdoll

open BinaryFormat

namespace Binary

variable {f : BinaryFormat} {x : Binary f} {e : Int}

theorem isReadAs_iff (precise : 2 ≤ f.precision) (finite : x.code < f.infinityCode)
    (d : DecimalForm) : x.isReadAs d.ratio.1 d.ratio.2 = true ↔ f.IsNearest d.value x.code := by
  rw [isReadAs, beq_iff_eq, roundRatio_eq_iff precise d.ratio_pos finite, d.ratio_value]

/-! ## One grid -/

/-- A number in units of a grid, as a quotient. -/
def inGrid (x : Binary f) (e : Int) : Nat × Nat :=
  if 0 ≤ e then (x.ratio.1, x.ratio.2 * 10 ^ e.toNat) else (x.ratio.1 * 10 ^ (-e).toNat, x.ratio.2)

theorem inGrid_pos (x : Binary f) (e : Int) : 0 < (x.inGrid e).2 := by
  unfold inGrid
  split
  · exact Nat.mul_pos x.ratio_pos (Nat.pow_pos (by decide))
  · exact x.ratio_pos

theorem inGrid_value (x : Binary f) (e : Int) :
    ((x.inGrid e).1 : ℚ) / (x.inGrid e).2 * 10 ^ e = f.magnitude x.code := by
  rw [← x.ratio_value]
  unfold inGrid
  split
  next up =>
    obtain ⟨n, rfl⟩ := Int.eq_ofNat_of_zero_le up
    push_cast [Int.toNat_natCast, zpow_natCast]
    rw [div_mul_eq_mul_div, mul_div_mul_right _ _ (by positivity)]
  next down =>
    obtain ⟨n, rfl⟩ : ∃ n : Nat, e = -n := ⟨(-e).toNat, by omega⟩
    push_cast [neg_neg, Int.toNat_natCast, zpow_neg, zpow_natCast]
    rw [div_mul_eq_mul_div, mul_inv_cancel_right₀ (by positivity)]

/-- The points of a grid next to a quotient, the nearer one first. -/
def gridPoints (num den : Nat) : List Nat :=
  let low := num / den
  let rest := num % den
  if 2 * rest < den || (2 * rest == den && low % 2 == 0) then [low, low + 1] else [low + 1, low]

theorem nearestOnGrid?_eq (x : Binary f) (e : Int) :
    x.nearestOnGrid? e = (gridPoints (x.inGrid e).1 (x.inGrid e).2).find? fun k =>
      x.isReadAs (DecimalForm.mk k e).ratio.1 (DecimalForm.mk k e).ratio.2 :=
  rfl

theorem gridPoints_head (num : Nat) {den : Nat} (hden : 0 < den) :
    ∃ k rest, gridPoints num den = k :: rest ∧ |(k : ℚ) - num / den| ≤ 1 / 2 := by
  have den_pos : (0 : ℚ) < den := by exact_mod_cast hden
  have split := Nat.div_add_mod' num den
  have rest := Nat.mod_lt num hden
  have next : (num / den + 1) * den = num / den * den + den := Nat.succ_mul _ _
  -- both sides in halves of the denominator
  have close {k : Nat} (low : 2 * num ≤ 2 * (k * den) + den)
      (high : 2 * (k * den) ≤ 2 * num + den) : |(k : ℚ) - num / den| ≤ 1 / 2 := by
    have low' : 2 * (num : ℚ) ≤ 2 * (k * den) + den := by exact_mod_cast low
    have high' : 2 * ((k : ℚ) * den) ≤ 2 * num + den := by exact_mod_cast high
    rw [abs_le, neg_le_sub_iff_le_add, sub_le_iff_le_add, div_le_iff₀ den_pos, ← sub_le_iff_le_add',
      le_div_iff₀ den_pos]
    constructor <;> linarith
  unfold gridPoints
  simp only
  split
  next nearer =>
    refine ⟨_, _, rfl, close ?_ ?_⟩
    · simp only [Bool.or_eq_true, Bool.and_eq_true, decide_eq_true_eq, beq_iff_eq] at nearer
      omega
    · omega
  next farther =>
    refine ⟨_, _, rfl, close ?_ ?_⟩
    · omega
    · simp only [Bool.or_eq_true, Bool.and_eq_true, decide_eq_true_eq, beq_iff_eq] at farther
      omega

section Finite

variable (precise : 2 ≤ f.precision) (finite : x.code < f.infinityCode)

include precise finite

/-- What is taken from a grid lies in the cell. -/
theorem isNearest_of_nearestOnGrid? {k : Nat} (h : x.nearestOnGrid? e = some k) :
    f.IsNearest (DecimalForm.mk k e).value x.code := by
  rw [nearestOnGrid?_eq] at h
  have reads := List.find?_some h
  exact (isReadAs_iff precise finite _).1 reads

/-- **The nearest point of a grid** is taken if it lies in the cell. -/
theorem exists_nearest (e : Int) :
    ∃ k, |(DecimalForm.mk k e).value - f.magnitude x.code| ≤ 10 ^ e / 2 ∧
      (f.IsNearest (DecimalForm.mk k e).value x.code → x.nearestOnGrid? e = some k) := by
  obtain ⟨k, rest, points, close⟩ := gridPoints_head (x.inGrid e).1 (x.inGrid_pos e)
  refine ⟨k, ?_, fun h => ?_⟩
  · have step_pos : (0 : ℚ) < 10 ^ e := by positivity
    rw [DecimalForm.value, ← x.inGrid_value e, ← sub_mul, abs_mul, abs_of_pos step_pos]
    calc _ ≤ 1 / 2 * (10 : ℚ) ^ e := by gcongr
      _ = 10 ^ e / 2 := by ring
  · rw [nearestOnGrid?_eq, points]
    exact List.find?_cons_of_pos ((isReadAs_iff precise finite _).2 h)

end Finite

/-! ## The search -/

/-- **The search ends** at the first grid with a point. -/
theorem shortestFrom_spec {e last : Int} (tries : Nat) (start : last ≤ e)
    (enough : e < last + tries) (found : (x.nearestOnGrid? last).isSome) :
    ∃ k e', x.shortestFrom e tries = ⟨k, e'⟩ ∧ last ≤ e' ∧ e' ≤ e ∧ x.nearestOnGrid? e' = some k ∧
      (e' < e → x.nearestOnGrid? (e' + 1) = none) := by
  induction tries generalizing e with
  | zero => omega
  | succ tries ih =>
    unfold shortestFrom
    split
    next k some => exact ⟨k, e, rfl, start, le_rfl, some, fun h => absurd h (lt_irrefl e)⟩
    next none =>
      have : last ≠ e := fun same => by simp [same, none] at found
      obtain ⟨k, e', result, low, high, some, before⟩ := ih (e := e - 1) (by omega) (by omega)
      refine ⟨k, e', result, low, by omega, some, fun lt => ?_⟩
      rcases Int.lt_or_le e' (e - 1) with inner | outer
      · exact before inner
      · rwa [show e' + 1 = e by omega]

/-! ## Fine grids -/

/-- On a fine grid the points next to a magnitude lie in its cell. -/
theorem isNearest_of_fine {c : Nat} {v : ℚ} (fine : (10 : ℚ) ^ e < f.spacing c)
    (close : |v - f.magnitude (c + 1)| ≤ 10 ^ e / 2) : f.IsNearest v (c + 1) := by
  have close := abs_le.1 close
  have grow := spacing_mono (f := f) (Nat.le_add_right c 1)
  refine isNearest_of_between (fun k hk => ?_) ?_
  · obtain rfl : k = c := by omega
    rw [midpoint_eq_sub]
    linarith [close.1]
  · rw [BinaryFormat.midpoint]
    linarith [close.2]

/-- The first grid is coarse. -/
theorem spacing_le_top (x : Binary f) : f.spacing x.code ≤ (10 : ℚ) ^ x.topExponent := by
  unfold topExponent spacing
  simp only
  generalize f.exponent x.code = q
  split
  next up =>
    obtain ⟨n, hn⟩ : ∃ n : Nat, (q + f.precision) / 3 + 1 = n :=
      ⟨((q + f.precision) / 3 + 1).toNat, by omega⟩
    calc (2 : ℚ) ^ q ≤ 2 ^ ((3 * n : Nat) : Int) := zpow_le_zpow_right₀ (by norm_num) (by omega)
      _ = 8 ^ n := by rw [zpow_natCast, pow_mul]; norm_num
      _ ≤ 10 ^ n := pow_le_pow_left₀ (by norm_num) (by norm_num) n
      _ = 10 ^ ((q + f.precision) / 3 + 1) := by rw [hn, zpow_natCast]
  next down =>
    obtain ⟨n, hn⟩ : ∃ n : Nat, (q + f.precision) / 4 + 1 = -n :=
      ⟨(-((q + f.precision) / 4 + 1)).toNat, by omega⟩
    calc (2 : ℚ) ^ q ≤ 2 ^ (-((4 * n : Nat) : Int)) := zpow_le_zpow_right₀ (by norm_num) (by omega)
      _ = (16 ^ n)⁻¹ := by rw [zpow_neg, zpow_natCast, pow_mul]; norm_num
      _ ≤ (10 ^ n)⁻¹ := by gcongr; norm_num
      _ = 10 ^ ((q + f.precision) / 4 + 1) := by rw [hn, zpow_neg, zpow_natCast]

/-! ## Numbers of 32 bits -/

section Single

variable {x : Binary single} {c : Nat} (finite : x.code < single.infinityCode)

include finite

theorem single_exponent_bounds : -149 ≤ single.exponent x.code ∧ single.exponent x.code ≤ 104 := by
  have : x.code / single.binade ≤ 254 := by
    have : x.code / single.binade < 255 := Nat.div_lt_of_lt_mul (by rw [Nat.mul_comm]; exact finite)
    omega
  have least : single.minExponent = -149 := by decide
  rw [exponent, least]
  omega

theorem topExponent_bounds : -31 ≤ x.topExponent ∧ x.topExponent ≤ 43 := by
  have := single_exponent_bounds finite
  have precision : single.precision = 24 := rfl
  unfold topExponent
  simp only [precision]
  split <;> omega

end Single

/-- The grid of this step is fine for every number. -/
theorem finest (c : Nat) : (10 : ℚ) ^ (-45 : Int) < single.spacing c := by
  have least : single.minExponent = -149 := by decide
  have : (2 : ℚ) ^ (-149 : Int) ≤ single.spacing c :=
    zpow_le_zpow_right₀ (by norm_num) (by rw [exponent, least]; omega)
  exact lt_of_lt_of_le (by norm_num) this

theorem exists_found_of_fine {x : Binary single} {c : Nat} (hc : x.code = c + 1)
    (finite : x.code < single.infinityCode) (fine : (10 : ℚ) ^ e < single.spacing c) :
    ∃ k, |(DecimalForm.mk k e).value - single.magnitude (c + 1)| ≤ 10 ^ e / 2 ∧
      x.nearestOnGrid? e = some k := by
  obtain ⟨k, close, found⟩ := exists_nearest (by decide) finite e
  rw [hc] at close found
  exact ⟨k, close, found (isNearest_of_fine fine close)⟩

/-- What the digits of the number with the code `c + 1` have in common. -/
structure IsPrinted (c : Nat) (d : DecimalForm) : Prop where
  pos : 0 < d.digits
  short : d.digits < 2 ^ 53
  low : -45 ≤ d.exponent
  high : d.exponent ≤ 43
  nearest : single.IsNearest d.value (c + 1)
  fine : (10 : ℚ) ^ d.exponent < single.spacing c →
    |d.value - single.magnitude (c + 1)| ≤ 10 ^ d.exponent / 2

/-- A grid that is not much finer than the numbers around has few points up to there. -/
theorem digits_lt {c k : Nat} (coarse : single.spacing c ≤ (10 : ℚ) ^ (e + 1))
    (nearest : single.IsNearest (DecimalForm.mk k e).value (c + 1)) : k < 2 ^ 53 := by
  have step_pos : (0 : ℚ) < 10 ^ e := by positivity
  rw [zpow_add_one₀ (by norm_num)] at coarse
  have : (k : ℚ) * 10 ^ e ≤ 2 ^ 29 * 10 ^ e := by
    calc (k : ℚ) * 10 ^ e ≤ single.midpoint (c + 1) := nearest.below.elim le_of_lt fun h => h.1.le
      _ ≤ single.magnitude (c + 2) := (midpoint_lt_magnitude _).le
      _ ≤ single.spacing (c + 1) * (2 * single.binade) := magnitude_le_spacing _
      _ = single.spacing (c + 1) * 2 ^ 24 := by norm_num [binade, single]
      _ ≤ 2 * single.spacing c * 2 ^ 24 := by
        gcongr
        rcases spacing_succ (f := single) c with stays | grows <;> linarith [@spacing_pos single c]
      _ ≤ 2 ^ 29 * 10 ^ e := by linarith
  have : (k : ℚ) ≤ 2 ^ 29 := le_of_mul_le_mul_right this step_pos
  have : k ≤ 2 ^ 29 := by exact_mod_cast this
  omega

/-- **The digits of a number of 32 bits.** -/
theorem isPrinted_shortest {x : Binary single} {c : Nat} (hc : x.code = c + 1)
    (finite : x.code < single.infinityCode) : IsPrinted c x.shortest := by
  have precise : 2 ≤ single.precision := by decide
  obtain ⟨top_low, top_high⟩ := topExponent_bounds finite
  have tries : 2 * single.precision + 2 ^ single.exponentBits = 304 := rfl
  obtain ⟨last, -, found⟩ := exists_found_of_fine hc finite (finest c)
  obtain ⟨k, e, result, low, high, some, before⟩ := shortestFrom_spec (x := x)
    (2 * single.precision + 2 ^ single.exponentBits) (by omega : -45 ≤ x.topExponent)
    (by omega) (by rw [found]; rfl)
  have nearest := isNearest_of_nearestOnGrid? precise finite some
  rw [hc] at nearest
  -- one step coarser there was no point, or the search started here
  have coarse : single.spacing c ≤ (10 : ℚ) ^ (e + 1) := by
    rcases Int.lt_or_le e x.topExponent with inner | top
    · by_contra! fine
      obtain ⟨k, -, found⟩ := exists_found_of_fine hc finite fine
      rw [before inner] at found
      cases found
    · calc single.spacing c ≤ single.spacing x.code := spacing_mono (by omega)
        _ ≤ 10 ^ x.topExponent := spacing_le_top x
        _ ≤ 10 ^ (e + 1) := zpow_le_zpow_right₀ (by norm_num) (by omega)
  rw [shortest, if_neg (by omega), result]
  refine ⟨?_, digits_lt coarse nearest, low, high.trans top_high, nearest, fun fine => ?_⟩
  · refine Nat.pos_of_ne_zero fun zero => ?_
    subst zero
    have := isNearest_magnitude (f := single) 0
    rw [magnitude_zero] at this
    rw [DecimalForm.value, Nat.cast_zero, zero_mul] at nearest
    exact absurd (nearest.unique this) (by omega)
  · obtain ⟨k', close, found⟩ := exists_found_of_fine hc finite fine
    obtain rfl := Option.some.inj (some.symm.trans found)
    exact close

end Binary

end Paperdoll
