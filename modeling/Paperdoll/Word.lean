import Paperdoll.Number.Power

/-!
# Numbers of fixed width

Sizes and positions on a sheet are words of 32 bits, places on a surface are signed numbers
of 32 bits. Sums that leave the range stop at its end: **`capped`** and **`clamped`** compute
in the unbounded numbers and bring the result back, so that a law about them is a law about
`min` and `max`.

Where a sum or a product is not meant to leave its range, **`word?`** and its relatives say so: they
give the exact result, and nothing if there is no room for it.
-/

namespace Paperdoll

def maxWord : Nat := 2 ^ 32 - 1

/-- The word nearest to a natural number. -/
def capped (n : Nat) : UInt32 :=
  UInt32.ofNat (min n maxWord)

@[simp]
theorem toNat_capped (n : Nat) : (capped n).toNat = min n maxWord := by
  simp only [capped, maxWord, UInt32.toNat_ofNat']
  exact Nat.mod_eq_of_lt (by omega)

/-- A number that had to be capped is beyond every word but the last. -/
theorem capped_le_iff {w : UInt32} (short : w.toNat < maxWord) {n : Nat} :
    capped n ≤ w ↔ n ≤ w.toNat := by
  rw [UInt32.le_iff_toNat_le, toNat_capped]
  omega

theorem max_le_word_iff {a b c : UInt32} : max a b ≤ c ↔ a ≤ c ∧ b ≤ c := by
  have larger : max a b = if a ≤ b then b else a := rfl
  rw [larger]
  simp only [UInt32.le_iff_toNat_le]
  split <;> omega

/-- The number of the signed 32-bit range nearest to an integer. -/
def clamped (z : Int) : Int :=
  max (-2 ^ 31) (min z (2 ^ 31 - 1))

/-- The signed number that shares the 32 low bits of a natural number. -/
def signed (n : Nat) : Int :=
  Int.bmod n (2 ^ 32)

theorem clamped_eq_self {z : Int} (low : -2 ^ 31 ≤ z) (high : z ≤ 2 ^ 31 - 1) :
    clamped z = z := by
  simp only [clamped]
  omega

theorem clamped_bounds (z : Int) : -2 ^ 31 ≤ clamped z ∧ clamped z ≤ 2 ^ 31 - 1 := by
  simp only [clamped]
  omega

theorem signed_eq_self {n : Nat} (h : n < 2 ^ 31) : signed n = n := by
  unfold signed
  rw [Int.bmod_def]
  split <;> omega

/-! ## Results that have room -/

/-- A result of 32 bits. -/
def word? (n : Nat) : Option Nat :=
  if n ≤ maxWord then some n else none

/-- A difference of words, which is none below zero. -/
def wordSub? (a b : Nat) : Option Nat :=
  if b ≤ a then some (a - b) else none

def wordDiv? (a b : Nat) : Option Nat :=
  if b = 0 then none else some (a / b)

/-- A word narrowed to a byte. -/
def byte? (n : Nat) : Option UInt8 :=
  if n < 2 ^ 8 then some (UInt8.ofNat n) else none

/-- A signed result of 64 bits. -/
def long? (z : Int) : Option Int :=
  if -2 ^ 63 ≤ z ∧ z < 2 ^ 63 then some z else none

/-- A result of 64 bits without a sign. -/
def wide? (n : Nat) : Option Nat :=
  if n < 2 ^ 64 then some n else none

def wordOfLong? (z : Int) : Option Nat :=
  if 0 ≤ z ∧ z ≤ maxWord then some z.toNat else none

theorem word?_of_le {n : Nat} (h : n ≤ maxWord) : word? n = some n := if_pos h

theorem wordSub?_of_le {a b : Nat} (h : b ≤ a) : wordSub? a b = some (a - b) := if_pos h

theorem wordDiv?_of_ne_zero {a b : Nat} (h : b ≠ 0) : wordDiv? a b = some (a / b) := if_neg h

theorem byte?_of_lt {n : Nat} (h : n < 2 ^ 8) : byte? n = some (UInt8.ofNat n) := if_pos h

theorem long?_of_bounds {z : Int} (low : -2 ^ 63 ≤ z) (high : z < 2 ^ 63) : long? z = some z :=
  if_pos ⟨low, high⟩

theorem wide?_of_lt {n : Nat} (h : n < 2 ^ 64) : wide? n = some n := if_pos h

theorem wordOfLong?_of_bounds {z : Int} (low : 0 ≤ z) (high : z ≤ maxWord) :
    wordOfLong? z = some z.toNat := if_pos ⟨low, high⟩

end Paperdoll
