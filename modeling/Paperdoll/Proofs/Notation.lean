import Mathlib.Tactic.Linarith
import Paperdoll.Json.Library
import Paperdoll.Proofs.Rereading

/-!
# Notation: the text of a number

The digits of a number are laid out with a point and perhaps an exponent, and the reader takes this
layout apart again.

**Theorem (`numeral?_text`).** The text of a finite number of 32 bits is a numeral, and its value is
the number with its sign.

Digits and exponent decide between four layouts. Each is a numeral (`numeral?_of_layout`) whose
window holds the digits again (`window_eq`), except that a whole number has got a zero behind the
point; these are the spellings that are read back (`ofNumeral?_of_layout`).

Numerals are also read that nothing finite of 32 bits is written as: a whole number times a power of
ten beyond these stands for infinity (`ofNumeral?_beyond`).
-/

namespace Paperdoll

open Json Json.DecimalText

/-! ## Runs of digits -/

theorem digitsNumber_append (as bs : List Char) :
    digitsNumber (as ++ bs) = 10 ^ bs.length * digitsNumber as + digitsNumber bs :=
  (Nat.ofDigitChars_append 0).trans Nat.ofDigitChars_eq_ofDigitChars_zero

theorem digitsNumber_toDigits (n : Nat) : digitsNumber (Nat.toDigits 10 n) = n :=
  Nat.ofDigitChars_ten_toDigits

theorem digitsNumber_zeros (n : Nat) : digitsNumber (List.replicate n '0') = 0 := by
  induction n with
  | zero => rfl
  | succ n ih =>
    rw [List.replicate_succ', digitsNumber_append, ih]
    rfl

theorem isDigit_toDigits {n : Nat} : ∀ c ∈ Nat.toDigits 10 n, c.isDigit = true :=
  fun _ h => Nat.isDigit_of_mem_toDigits (by decide) (by decide) h

theorem isDigit_zeros {n : Nat} : ∀ c ∈ List.replicate n '0', c.isDigit = true :=
  fun _ h => by rw [List.eq_of_mem_replicate h]; rfl

theorem toDigits_head {n : Nat} (pos : 0 < n) :
    ∃ c rest, Nat.toDigits 10 n = c :: rest ∧ c ≠ '0' := by
  induction n using Nat.strongRecOn with
  | ind n ih =>
    rcases Nat.lt_or_ge n 10 with small | large
    · have nonzero : ∀ n < 10, 0 < n → n.digitChar ≠ '0' := by decide
      exact ⟨n.digitChar, [], Nat.toDigits_of_lt_base small, nonzero n small pos⟩
    · obtain ⟨c, rest, digits, nonzero⟩ := ih (n / 10) (by omega) (by omega)
      rw [Nat.toDigits_of_base_le (by decide) large, digits]
      exact ⟨c, _, List.cons_append, nonzero⟩

/-- The digits of a positive number. -/
structure IsDigits (ds : List Char) (n : Nat) : Prop where
  digit : ∀ c ∈ ds, c.isDigit = true
  number : digitsNumber ds = n
  few : n < 10 ^ ds.length
  head : ∃ c rest, ds = c :: rest ∧ c ≠ '0'

theorem isDigits_toDigits {n : Nat} (pos : 0 < n) : IsDigits (Nat.toDigits 10 n) n where
  digit := isDigit_toDigits
  number := digitsNumber_toDigits n
  few :=
    have length_pos := List.length_pos_of_ne_nil Nat.toDigits_ne_nil
    (Nat.length_toDigits_le_iff (by decide) length_pos).1 le_rfl
  head := toDigits_head pos

theorem IsDigits.length_pos {ds : List Char} {n : Nat} (h : IsDigits ds n) : 0 < ds.length := by
  obtain ⟨c, rest, rfl, -⟩ := h.head
  exact Nat.succ_pos _

/-! ## The window -/

theorem le_ofDigitChars (ds : List Char) (v : Nat) : v ≤ Nat.ofDigitChars 10 ds v := by
  rw [Nat.ofDigitChars_eq_ofDigitChars_zero]
  exact Nat.le_add_right_of_le (Nat.le_mul_of_pos_left v (Nat.pow_pos (by decide)))

theorem foldl_addWhole {ds : List Char} {v : Nat} (short : Nat.ofDigitChars 10 ds v < 2 ^ 64) :
    ds.foldl Window.addWhole ⟨v, 0, false⟩ = ⟨Nat.ofDigitChars 10 ds v, 0, false⟩ := by
  induction ds generalizing v with
  | nil => rfl
  | cons c ds ih =>
    have fits : ¬ 2 ^ 64 ≤ 10 * v + digitValue c :=
      not_le.2 (lt_of_le_of_lt (le_ofDigitChars ds _) short)
    rw [List.foldl_cons, Window.addWhole]
    simp only [Bool.false_or, decide_eq_true_eq, if_neg fits]
    exact ih short

theorem foldl_addFraction {ds : List Char} {v : Nat} {e : Int}
    (short : Nat.ofDigitChars 10 ds v < 2 ^ 64) :
    ds.foldl Window.addFraction ⟨v, e, false⟩ =
      ⟨Nat.ofDigitChars 10 ds v, e - ds.length, false⟩ := by
  induction ds generalizing v e with
  | nil => simp [Nat.ofDigitChars]
  | cons c ds ih =>
    have fits : ¬ 2 ^ 64 ≤ 10 * v + digitValue c :=
      not_le.2 (lt_of_le_of_lt (le_ofDigitChars ds _) short)
    rw [List.foldl_cons, Window.addFraction]
    simp only [Bool.false_or, decide_eq_true_eq, if_neg fits]
    have tail := ih (v := 10 * v + digitValue c) (e := e - 1) short
    rw [tail, List.length_cons, Nat.cast_add_one, sub_sub, add_comm (1 : Int)]
    rfl

/-- **The window of a number that fits** has all its digits. -/
theorem window_eq (d : DecimalText)
    (short : digitsNumber (d.whole ++ d.fraction.getD []) < 2 ^ 64) :
    d.window =
      ⟨digitsNumber (d.whole ++ d.fraction.getD []), -(d.fraction.getD []).length, false⟩ := by
  have all : digitsNumber (d.whole ++ d.fraction.getD []) =
      Nat.ofDigitChars 10 (d.fraction.getD []) (digitsNumber d.whole) := Nat.ofDigitChars_append 0
  rw [all] at short ⊢
  have whole := foldl_addWhole (lt_of_le_of_lt (le_ofDigitChars _ (digitsNumber d.whole)) short)
  rw [window, wholeWindow, whole]
  exact (foldl_addFraction short).trans (by rw [zero_sub])

/-! ## Number texts -/

section Reading

variable {whole fraction : List Char} (negative : Bool)
  (hwhole : ∀ c ∈ whole, c.isDigit = true) (hfraction : ∀ c ∈ fraction, c.isDigit = true)

include hwhole

theorem read?_exponent (cs : List Char) :
    read? negative (whole ++ 'e' :: cs) =
      (readExponent? cs).map fun e => ⟨negative, whole, none, some e⟩ := by
  unfold read?
  rw [List.takeWhile_append_of_pos hwhole, List.dropWhile_append_of_pos hwhole]
  simp

include hfraction

theorem read?_point :
    read? negative (whole ++ '.' :: fraction) = some ⟨negative, whole, some fraction, none⟩ := by
  have taken : fraction.takeWhile Char.isDigit = fraction := by
    rw [← List.append_nil fraction, List.takeWhile_append_of_pos hfraction, List.takeWhile_nil]
  have dropped : fraction.dropWhile Char.isDigit = [] := by
    rw [← List.append_nil fraction, List.dropWhile_append_of_pos hfraction, List.dropWhile_nil]
  unfold read?
  rw [List.takeWhile_append_of_pos hwhole, List.dropWhile_append_of_pos hwhole]
  simp [taken, dropped]

theorem read?_point_exponent (cs : List Char) :
    read? negative (whole ++ '.' :: (fraction ++ 'e' :: cs)) =
      (readExponent? cs).map fun e => ⟨negative, whole, some fraction, some e⟩ := by
  unfold read?
  rw [List.takeWhile_append_of_pos hwhole, List.dropWhile_append_of_pos hwhole]
  simp [List.takeWhile_append_of_pos hfraction, List.dropWhile_append_of_pos hfraction]

end Reading

/-- An exponent is read with its sign. -/
theorem readExponent?_toDigits (e : Int) :
    readExponent? ((if 0 ≤ e then '+' else '-') :: Nat.toDigits 10 e.natAbs) = some e := by
  have digits : (Nat.toDigits 10 e.natAbs).all Char.isDigit = true :=
    List.all_eq_true.2 isDigit_toDigits
  have some_digit : (Nat.toDigits 10 e.natAbs).isEmpty = false := by
    rw [List.isEmpty_eq_false_iff]
    exact Nat.toDigits_ne_nil
  unfold readExponent?
  split_ifs with nonneg
  · simp only [digits, some_digit, digitsNumber_toDigits]
    simp [nonneg]
  · simp only [digits, some_digit, digitsNumber_toDigits]
    simp [abs_of_neg (not_le.1 nonneg)]

/-! ## The four layouts -/

/-- A number text holds these digits. -/
structure IsLayout (d : DecimalForm) (negative : Bool) (t : DecimalText) : Prop where
  sign : t.negative = negative
  plain : t.hasPlainWhole = true
  pointed : t.fraction ≠ some []
  float : t.isWhole = false
  spelling : IsSpelling d t.window.value (t.window.exponent + t.exponent.getD 0)

section Layouts

variable {d : DecimalForm} {ds : List Char}

/-- The digits around the point and the exponent give the number. -/
theorem isSpelling_of_digits {t : DecimalText} (short : d.digits < 2 ^ 53)
    (number : digitsNumber (t.whole ++ t.fraction.getD []) = d.digits)
    (place : -(t.fraction.getD []).length + t.exponent.getD 0 = d.exponent) :
    IsSpelling d t.window.value (t.window.exponent + t.exponent.getD 0) := by
  rw [window_eq t (by omega)]
  simp only [number, place]
  exact .plain

variable (negative : Bool) (h : IsDigits ds d.digits)

include h

theorem plain_take {p : Nat} (pos : 0 < p) {fraction : Option (List Char)} {exponent : Option Int} :
    (DecimalText.mk negative (ds.take p) fraction exponent).hasPlainWhole = true := by
  obtain ⟨c, rest, rfl, nonzero⟩ := h.head
  obtain ⟨p, rfl⟩ : ∃ q, p = q + 1 := ⟨p - 1, by omega⟩
  simp [hasPlainWhole, nonzero]

theorem isLayout_whole {n : Nat} (whole : d.exponent = n) (high : ds.length + n ≤ 13) :
    IsLayout d negative ⟨negative, ds ++ List.replicate n '0', some ['0'], none⟩ := by
  have fits : d.digits * 10 ^ (n + 1) < 2 ^ 53 := by
    calc d.digits * 10 ^ (n + 1) < 10 ^ ds.length * 10 ^ (n + 1) :=
          Nat.mul_lt_mul_of_pos_right h.few (Nat.pow_pos (by decide))
      _ = 10 ^ (ds.length + (n + 1)) := (Nat.pow_add ..).symm
      _ ≤ 10 ^ 14 := Nat.pow_le_pow_right (by decide) (by omega)
      _ < 2 ^ 53 := by decide
  have value : digitsNumber (ds ++ List.replicate n '0' ++ ['0']) = d.digits * 10 ^ (n + 1) := by
    rw [List.append_assoc, ← List.replicate_succ', digitsNumber_append, digitsNumber_zeros,
      h.number, List.length_replicate, Nat.add_zero, Nat.mul_comm]
  refine ⟨rfl, ?_, by simp, rfl, ?_⟩
  · obtain ⟨c, rest, rfl, nonzero⟩ := h.head
    simp [hasPlainWhole, nonzero]
  · rw [window_eq _ (by simp only [Option.getD_some, value]; omega)]
    simp only [Option.getD_some, value]
    exact .whole n whole fits

variable (short : d.digits < 2 ^ 53)

include short

theorem isLayout_inner {p : Nat} (low : 0 < p) (high : p < ds.length)
    (place : (p : Int) = ds.length + d.exponent) :
    IsLayout d negative ⟨negative, ds.take p, some (ds.drop p), none⟩ := by
  refine ⟨rfl, plain_take negative h low, ?_, rfl, isSpelling_of_digits short ?_ ?_⟩
  · rw [ne_eq, Option.some.injEq, List.drop_eq_nil_iff]
    omega
  · rw [Option.getD_some, List.take_append_drop, h.number]
  · simp only [Option.getD_some, Option.getD_none, List.length_drop]
    omega

theorem isLayout_before {n : Nat} (place : (n : Int) = -(ds.length + d.exponent)) :
    IsLayout d negative ⟨negative, ['0'], some (List.replicate n '0' ++ ds), none⟩ := by
  refine ⟨rfl, rfl, ?_, rfl, isSpelling_of_digits short ?_ ?_⟩
  · have := h.length_pos
    rw [ne_eq, Option.some.injEq, List.append_eq_nil_iff, not_and_or]
    exact .inr (List.ne_nil_of_length_pos this)
  · rw [Option.getD_some, ← List.append_assoc, List.singleton_append, ← List.replicate_succ,
      digitsNumber_append, digitsNumber_zeros, h.number, Nat.mul_zero, Nat.zero_add]
  · simp only [Option.getD_some, Option.getD_none, List.length_append, List.length_replicate]
    omega

theorem isLayout_exponent :
    IsLayout d negative ⟨negative, ds.take 1, if ds.length = 1 then none else some (ds.drop 1),
      some (ds.length + d.exponent - 1)⟩ := by
  have length_pos := h.length_pos
  have rest : (if ds.length = 1 then none else some (ds.drop 1)).getD [] = ds.drop 1 := by
    split
    next one => rw [List.drop_eq_nil_of_le one.le, Option.getD_none]
    next => rfl
  refine ⟨rfl, plain_take negative h Nat.one_pos, ?_, ?_, isSpelling_of_digits short ?_ ?_⟩
  · split
    · simp
    · rw [ne_eq, Option.some.injEq, List.drop_eq_nil_iff]
      omega
  · simp [isWhole]
  · rw [rest, List.take_append_drop, h.number]
  · simp only [rest, Option.getD_some, List.length_drop]
    omega

end Layouts

/-- **The digits of a number are laid out** as a number text. -/
theorem exists_layout {d : DecimalForm} (negative : Bool) (pos : 0 < d.digits)
    (short : d.digits < 2 ^ 53) :
    ∃ t, read? negative (Number.singleStyle.digitsText d).toList = some t ∧
      IsLayout d negative t := by
  have h := isDigits_toDigits pos
  unfold NotationStyle.digitsText Number.singleStyle
  simp only [String.toList_ofList]
  generalize Nat.toDigits 10 d.digits = ds at h ⊢
  have front {p : Nat} : ∀ c ∈ ds.take p, c.isDigit = true :=
    fun c hc => h.digit c (List.mem_of_mem_take hc)
  have back {p : Nat} : ∀ c ∈ ds.drop p, c.isDigit = true :=
    fun c hc => h.digit c (List.mem_of_mem_drop hc)
  have zero : ∀ c ∈ ['0'], c.isDigit = true := List.forall_mem_singleton.2 rfl
  -- the four layouts, in the order in which the writer tries them
  split
  next whole =>
    obtain ⟨n, hn⟩ := Int.eq_ofNat_of_zero_le whole.1
    have all : ∀ c ∈ ds ++ List.replicate n '0', c.isDigit = true := by
      simpa [or_imp, forall_and] using h.digit
    rw [hn, Int.toNat_natCast]
    exact ⟨_, read?_point negative all zero, isLayout_whole negative h hn (by omega)⟩
  split
  next inner =>
    obtain ⟨p, hp⟩ := Int.eq_ofNat_of_zero_le inner.1.le
    rw [hp, Int.toNat_natCast]
    exact ⟨_, read?_point negative front back,
      isLayout_inner negative h short (by omega) (by omega) (by omega)⟩
  split
  next before =>
    obtain ⟨n, hn⟩ := Int.eq_ofNat_of_zero_le (neg_nonneg.2 before.2)
    have all : ∀ c ∈ List.replicate n '0' ++ ds, c.isDigit = true := by
      simpa [or_imp, forall_and] using h.digit
    rw [hn, Int.toNat_natCast]
    exact ⟨_, read?_point negative zero all, isLayout_before negative h short (by omega)⟩
  next =>
    refine ⟨_, ?_, isLayout_exponent negative h short⟩
    split
    next one =>
      rw [List.append_nil, List.append_assoc, List.cons_append, List.cons_append, List.nil_append,
        read?_exponent negative front, readExponent?_toDigits, Option.map_some]
    next more =>
      rw [List.append_assoc, List.append_assoc, List.cons_append, List.cons_append,
        List.cons_append, List.nil_append, read?_point_exponent negative front back,
        readExponent?_toDigits, Option.map_some]

/-! ## Numerals -/

open Json.Strict

def signChars (negative : Bool) : List Char :=
  if negative then ['-'] else []

theorem whole_of_read? {negative : Bool} {cs : List Char} {t : DecimalText}
    (read : read? negative cs = some t) : t.whole = cs.takeWhile Char.isDigit := by
  unfold read? at read
  simp only at read
  split at read
  · obtain rfl := Option.some.inj read
    rfl
  · split at read
    · obtain ⟨e, -, rfl⟩ := Option.map_eq_some_iff.1 read
      rfl
    · cases read

theorem hasPlainWhole_toDigits (n : Nat) {fraction : Option (List Char)} {exponent : Option Int} :
    (DecimalText.mk false (Nat.toDigits 10 n) fraction exponent).hasPlainWhole = true := by
  rcases Nat.eq_zero_or_pos n with rfl | pos
  · rfl
  · obtain ⟨c, rest, digits, nonzero⟩ := toDigits_head pos
    simp [hasPlainWhole, digits, nonzero]

/-- What is read without a sign starts with a digit, and so with no sign. -/
theorem numeral?_of_read? {cs : List Char} {t : DecimalText} (read : read? false cs = some t)
    (plain : t.hasPlainWhole = true) (pointed : t.fraction ≠ some []) :
    numeral? cs = some (.decimal t) := by
  have unsigned : ∀ rest, cs ≠ '-' :: rest := by
    rintro rest rfl
    rw [hasPlainWhole, whole_of_read? read, List.takeWhile_cons_of_neg (by decide)] at plain
    cases plain
  simp [numeral?, read, plain, pointed]

/-- What is laid out is a numeral, with a sign or without. -/
theorem numeral?_of_layout {d : DecimalForm} {negative : Bool} {cs : List Char} {t : DecimalText}
    (read : read? negative cs = some t) (layout : IsLayout d negative t) :
    numeral? (signChars negative ++ cs) = some (.decimal t) := by
  cases negative with
  | true => simp [numeral?, signChars, read, layout.plain, layout.pointed]
  | false => exact numeral?_of_read? read layout.plain layout.pointed

/-- **Laid out digits are read back.** -/
theorem ofNumeral?_of_layout {c : Nat} {d : DecimalForm} {negative : Bool} {t : DecimalText}
    (printed : Binary.IsPrinted c d) (finite : c + 1 < BinaryFormat.single.infinityCode)
    (layout : IsLayout d negative t) :
    (Number.ofNumeral? (.decimal t)).map (·.toBinary .single) = some ⟨negative, c + 1⟩ := by
  obtain ⟨y, scaled, bounded, rounded⟩ := read_digits layout.spelling printed finite
  have value : Number.ofNumeral? (.decimal t) = some (.float { y with negative := negative }) := by
    rw [Number.ofNumeral?]
    simp only [layout.float, Bool.false_and]
    rw [windowed_eq_scaled?, scaled, layout.sign]
    rfl
  rw [value, Option.map_some, Number.toBinary, 
    Binary.convert_of_isFinite (x := ⟨negative, y.code⟩) bounded]
  exact congrArg some (congrArg (Binary.mk negative) rounded)

theorem scaled?_zero : scaled? 0 (-1) = some (.ofNat 0) := by
  rw [scaled?, if_pos (by decide), divPower, if_pos (by decide)]

/-- **Zero is read back**, with its sign. -/
theorem ofNumeral?_zero (negative : Bool) :
    (Number.ofNumeral? (.decimal ⟨negative, ['0'], some ['0'], none⟩)).map (·.toBinary .single) =
      some ⟨negative, 0⟩ := by
  have value : Number.ofNumeral? (.decimal ⟨negative, ['0'], some ['0'], none⟩) =
      some (.float ⟨negative, 0⟩) := by
    have windowed : windowed ⟨negative, ['0'], some ['0'], none⟩ =
        (scaled? 0 (-1)).map fun y => { y with negative := negative } :=
      windowed_eq_scaled? _
    rw [Number.ofNumeral?]
    simp only [isWhole, Option.isNone_some, Bool.false_and]
    rw [windowed, scaled?_zero]
    rfl
  rw [value]
  cases negative <;> decide

theorem isRunChar_of_isDigit {c : Char} (h : c.isDigit = true) : isRunChar c = true := by
  simp [isRunChar, Char.isAlphanum, h]

theorem isRunChar_digitsText (style : NotationStyle) (d : DecimalForm) :
    ∀ c ∈ (style.digitsText d).toList, isRunChar c = true := by
  have digit {n : Nat} : ∀ c ∈ Nat.toDigits 10 n, isRunChar c = true :=
    fun c h => isRunChar_of_isDigit (isDigit_toDigits c h)
  have zeros {n : Nat} : ∀ c ∈ List.replicate n '0', isRunChar c = true :=
    fun c h => isRunChar_of_isDigit (isDigit_zeros c h)
  have front {n p : Nat} : ∀ c ∈ (Nat.toDigits 10 n).take p, isRunChar c = true :=
    fun c h => digit c (List.mem_of_mem_take h)
  have back {n p : Nat} : ∀ c ∈ (Nat.toDigits 10 n).drop p, isRunChar c = true :=
    fun c h => digit c (List.mem_of_mem_drop h)
  have nothing : ∀ c ∈ [], isRunChar c = true := List.forall_mem_nil _
  have zero : isRunChar '0' = true := by decide
  have point : isRunChar '.' = true := by decide
  have exponent : isRunChar 'e' = true := by decide
  have sign {p : Prop} [Decidable p] : isRunChar (if p then '+' else '-') = true := by
    split <;> decide
  unfold NotationStyle.digitsText
  simp only [String.toList_ofList]
  split
  · simp only [List.forall_mem_append, List.forall_mem_cons]
    exact ⟨⟨digit, zeros⟩, point, zero, nothing⟩
  split
  · simp only [List.forall_mem_append, List.forall_mem_cons]
    exact ⟨front, point, back⟩
  split
  · simp only [List.forall_mem_append, List.forall_mem_cons]
    exact ⟨⟨⟨zero, point, nothing⟩, zeros⟩, digit⟩
  · have rest {n : Nat} : ∀ c ∈ (if (Nat.toDigits 10 n).length = 1 then []
        else '.' :: (Nat.toDigits 10 n).drop 1), isRunChar c = true := by
      split
      · exact nothing
      · exact List.forall_mem_cons.2 ⟨point, back⟩
    simp only [List.forall_mem_append, List.forall_mem_cons]
    exact ⟨⟨⟨front, rest⟩, exponent, sign, nothing⟩, digit⟩

theorem toList_text (style : NotationStyle) {f : BinaryFormat} (x : Binary f) :
    (style.text x).toList = signChars x.negative ++
      if x.code = 0 then ['0', '.', '0'] else (style.digitsText x.shortest).toList := by
  unfold NotationStyle.text signChars
  rw [String.toList_append]
  congr 1 <;> split <;> rfl

theorem isRunChar_text (style : NotationStyle) {f : BinaryFormat} (x : Binary f) :
    ∀ c ∈ (style.text x).toList, isRunChar c = true := by
  rw [toList_text]
  intro c h
  rcases List.mem_append.1 h with sign | body
  · unfold signChars at sign
    split at sign
    · obtain rfl := List.mem_singleton.1 sign
      decide
    · cases sign
  · split at body
    · simp only [List.mem_cons, List.not_mem_nil, or_false] at body
      rcases body with rfl | rfl | rfl <;> decide
    · exact isRunChar_digitsText style _ c body

/-- **The text of a finite number** is a numeral that stands for it. -/
theorem numeral?_text (x : Binary .single) (finite : x.isFinite = true) :
    ∃ n, numeral? (Number.singleStyle.text x).toList = some n ∧
      (Number.ofNumeral? n).map (·.toBinary .single) = some x := by
  have below : x.code < BinaryFormat.single.infinityCode := of_decide_eq_true finite
  rw [toList_text]
  obtain ⟨negative, code⟩ := x
  rcases code with - | c
  · refine ⟨_, ?_, ofNumeral?_zero negative⟩
    cases negative <;> decide
  · have printed := Binary.isPrinted_shortest (x := ⟨negative, c + 1⟩) rfl below
    obtain ⟨t, read, layout⟩ := exists_layout negative printed.pos printed.short
    rw [if_neg (Nat.succ_ne_zero c)]
    exact ⟨_, numeral?_of_layout read layout, ofNumeral?_of_layout printed below layout⟩

/-! ## Powers of ten -/

theorem toList_powerText (m k : Nat) :
    (powerText m k).toList = Nat.toDigits 10 m ++ 'e' :: '+' :: Nat.toDigits 10 k := by
  have digits (n : Nat) : (toString n).toList = Nat.toDigits 10 n := String.toList_ofList
  rw [powerText, String.toList_append, String.toList_append, digits, digits, List.append_assoc]
  rfl

theorem isRunChar_powerText (m k : Nat) : ∀ c ∈ (powerText m k).toList, isRunChar c = true := by
  have digit {n : Nat} : ∀ c ∈ Nat.toDigits 10 n, isRunChar c = true :=
    fun c h => isRunChar_of_isDigit (isDigit_toDigits c h)
  rw [toList_powerText]
  simp only [List.forall_mem_append, List.forall_mem_cons]
  exact ⟨digit, by decide, by decide, digit⟩

theorem numeral?_powerText (m k : Nat) :
    numeral? (powerText m k).toList =
      some (.decimal ⟨false, Nat.toDigits 10 m, none, some k⟩) := by
  have exponent := readExponent?_toDigits k
  rw [if_pos (Int.natCast_nonneg k), Int.natAbs_natCast] at exponent
  have read := read?_exponent false (isDigit_toDigits (n := m)) ('+' :: Nat.toDigits 10 k)
  rw [exponent, Option.map_some] at read
  rw [toList_powerText]
  exact numeral?_of_read? read (hasPlainWhole_toDigits m) nofun

theorem midpoint_last : BinaryFormat.single.midpoint (BinaryFormat.single.infinityCode - 1) =
    (2 : ℚ) ^ 128 - 2 ^ 103 := by
  have exponent : BinaryFormat.single.exponent (BinaryFormat.single.infinityCode - 1) = 104 := by
    decide
  rw [BinaryFormat.midpoint_eq_sub, BinaryFormat.spacing, exponent,
    Nat.sub_add_cancel (by decide), BinaryFormat.magnitude_infinityCode (by decide) (by decide)]
  norm_num [BinaryFormat.single]

/-- **Beyond the numbers of 32 bits** a numeral stands for infinity. -/
theorem ofNumeral?_beyond {m k : Nat} (short : m < 2 ^ 64) (low : 2 ^ 128 ≤ m * 10 ^ k)
    (high : m * 10 ^ k ≤ 2 ^ 1023) :
    (Number.ofNumeral? (.decimal ⟨false, Nat.toDigits 10 m, none, some k⟩)).map
      (·.toBinary .single) = some (.infinity false) := by
  obtain ⟨⟨negative, code⟩, scaled, finite, positive, large⟩ := scaled?_beyond short low high
  obtain rfl : negative = false := positive
  have number : digitsNumber (Nat.toDigits 10 m ++ []) = m := by
    rw [List.append_nil, digitsNumber_toDigits]
  have windowed : windowed ⟨false, Nat.toDigits 10 m, none, some k⟩ = some ⟨false, code⟩ := by
    rw [windowed_eq_scaled?, window_eq _ (number.trans_lt short)]
    simp only [Option.getD_none, Option.getD_some, number, List.length_nil]
    rw [Nat.cast_zero, neg_zero, zero_add, scaled, Option.map_some]
  have value : Number.ofNumeral? (.decimal ⟨false, Nat.toDigits 10 m, none, some k⟩) =
      some (.float ⟨false, code⟩) := by
    rw [Number.ofNumeral?]
    simp only [isWhole, Option.isNone_some, Bool.and_false, Bool.false_and, windowed]
    rfl
  set x : Binary .double := ⟨false, code⟩
  -- in 64 bits it is still behind the last midpoint of 32 bits
  have rounded : BinaryFormat.single.roundRatio x.ratio.1 x.ratio.2 =
      BinaryFormat.single.infinityCode := by
    refine BinaryFormat.roundRatio_eq_infinityCode (by decide) x.ratio_pos ?_
    rw [Binary.ratio_value, midpoint_last]
    exact large
  rw [value, Option.map_some, Number.toBinary, Binary.convert_of_isFinite finite]
  exact congrArg some (congrArg (Binary.mk false) rounded)

end Paperdoll
