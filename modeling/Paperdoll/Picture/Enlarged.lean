import Paperdoll.Bitmap

/-!
# Enlarged pictures

Enlarging repeats every pixel along both sides. **`Bitmap.get?_enlarge?`** says which pixel of the
small picture is seen at a place.
-/

namespace Paperdoll.Bitmap

/-- The picture with every pixel repeated `factor` times along both sides, if its sides are still
words. -/
def enlarge? (b : Bitmap) (factor : Nat) : Option Bitmap :=
  if fits : b.width.toNat * factor < 2 ^ 32 ∧ b.height.toNat * factor < 2 ^ 32 then
    let width := b.width.toNat * factor
    let height := b.height.toNat * factor
    some {
      width := UInt32.ofNat width
      height := UInt32.ofNat height
      pixels := Array.ofFn (n := width * height) fun i =>
        (b.get? (i % width / factor) (i / width / factor)).getD default
      size_eq := by
        simp only [Array.size_ofFn, UInt32.toNat_ofNat']
        rw [Nat.mod_eq_of_lt fits.1, Nat.mod_eq_of_lt fits.2] }
  else none

theorem size_enlarge? {b b' : Bitmap} {factor : Nat} (h : b.enlarge? factor = some b') :
    b'.width.toNat = b.width.toNat * factor ∧ b'.height.toNat = b.height.toNat * factor := by
  simp only [enlarge?] at h
  split at h
  · next fits =>
    simp only [Option.some.injEq] at h
    subst h
    simp only [UInt32.toNat_ofNat']
    exact ⟨Nat.mod_eq_of_lt fits.1, Nat.mod_eq_of_lt fits.2⟩
  · simp at h

theorem get?_enlarge? {b b' : Bitmap} {factor : Nat} (h : b.enlarge? factor = some b')
    (x y : Nat) (hx : x < b'.width.toNat) (hy : y < b'.height.toNat) :
    b'.get? x y = b.get? (x / factor) (y / factor) := by
  have size := size_enlarge? h
  have inside : b'.contains x y := contains_iff.2 ⟨hx, hy⟩
  have positive : 0 < factor := by
    rcases Nat.eq_zero_or_pos factor with rfl | h
    · simp_all
    · exact h
  have column : (b'.index x y) % b'.width.toNat = x := by
    rw [index, Nat.add_comm, Nat.add_mul_mod_self_right, Nat.mod_eq_of_lt hx]
  have row : (b'.index x y) / b'.width.toNat = y := by
    rw [index, Nat.add_comm, Nat.add_mul_div_right _ _ (by omega), Nat.div_eq_of_lt hx,
      Nat.zero_add]
  have seen : b.contains (x / factor) (y / factor) := by
    rw [contains_iff]
    rw [size.1] at hx
    rw [size.2] at hy
    exact ⟨Nat.div_lt_of_lt_mul (by rwa [Nat.mul_comm]),
      Nat.div_lt_of_lt_mul (by rwa [Nat.mul_comm])⟩
  have pixel : b'.pixels[b'.index x y]? =
      some ((b.get? (x / factor) (y / factor)).getD default) := by
    rw [size.1] at column row
    simp only [enlarge?] at h
    split at h
    · simp only [Option.some.injEq] at h
      have := index_lt inside
      subst h
      simp only [Array.getElem?_eq_getElem this, Array.getElem_ofFn, column, row]
    · simp at h
  rw [get?_eq, if_pos inside, pixel]
  have : b.get? (x / factor) (y / factor) ≠ none := by simp [get?, seen]
  obtain ⟨p, hp⟩ := Option.ne_none_iff_exists'.1 this
  simp [hp]

end Paperdoll.Bitmap
