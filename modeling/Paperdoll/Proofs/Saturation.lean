import Mathlib.Data.Nat.Digits.Lemmas
import Mathlib.Tactic.Ring
import Paperdoll.Color
import Paperdoll.Word

/-!
# Saturation: the numbers that the channels of a color denote

A color is written as one run of hexadecimal digits, cut into channels of equal width. The width
has no limit, and nobody computes with numbers of that size: of a channel with more than two
digits, zeros in front left out, it is known that a byte cannot hold it.

**Theorem (`parse_saturates`).** A text is read as a color exactly if it has digits only, at least
one, and their number is 4, 8 or a multiple of three. Each channel is the number that its digits
denote, held at 255, whatever the number of digits, the zeros in front and the letter case. Any
other text is refused by name. On the way no text is cut inside a character or beyond its end, and
where digits are read as a byte, they are one.

The value of a digit is its place among the sixteen (`hexValue?_eq`), and a run of digits is a number
to the base 16 (`hexNumber_eq`); a first digit other than zero makes it large (`lt_number_of_long`).
The bytes of a text come in because it is measured and cut in bytes: digits fill one byte each, so
there it makes no difference, and a wider character has a byte that is no digit
(`all_utf8EncodeChar`).
-/

namespace Paperdoll

namespace Text

variable {c : Char} {cs : List Char}

/-! ## Digits -/

def hexDigits : List Char :=
  ['0', '1', '2', '3', '4', '5', '6', '7', '8', '9', 'a', 'b', 'c', 'd', 'e', 'f']

def digitValue (c : Char) : Nat := hexDigits.idxOf c.toLower

def IsHexadecimal (cs : List Char) : Prop :=
  ∀ c ∈ cs, c.toLower ∈ hexDigits

/-- The number that digits denote, however many there are. -/
def number (cs : List Char) : Nat :=
  Nat.ofDigits 16 (cs.map digitValue).reverse

/-- What holds of the first 128 characters one by one. -/
theorem forall_ascii {P : Char → Prop} (h : ∀ n < 128, P (Char.ofNat n)) (ascii : c.toNat < 128) :
    P c :=
  c.ofNat_toNat ▸ h c.toNat ascii

theorem lt_of_toLower_mem (h : c.toLower ∈ hexDigits) : c.toNat < 128 := by
  by_contra beyond
  have same : c.toLower = c := by
    unfold Char.toLower
    rw [dif_neg]
    rintro ⟨-, high⟩
    have : c.val.toNat ≤ 90 := high
    exact beyond (by show c.val.toNat < 128; omega)
  rw [same] at h
  have ascii : hexDigits.all fun d => decide (d.toNat < 128) := by decide
  exact beyond (of_decide_eq_true (List.all_eq_true.1 ascii c h))

/-- **Digits are read by their place among the sixteen.** -/
theorem hexValue?_eq (c : Char) :
    hexValue? c = if c.toLower ∈ hexDigits then some (digitValue c) else none := by
  by_cases ascii : c.toNat < 128
  · exact forall_ascii (P := fun c => hexValue? c = if c.toLower ∈ hexDigits then
      some (digitValue c) else none) (by decide +kernel) ascii
  · rw [if_neg (mt lt_of_toLower_mem ascii)]
    have beyond : ∀ d : Char, d.toNat < 128 → ¬ c ≤ d := fun d hd hle =>
      ascii (Nat.lt_of_le_of_lt hle hd)
    unfold hexValue?
    rw [if_neg, if_neg, if_neg]
    all_goals exact fun h => beyond _ (by decide) h.2

theorem isHexDigit_iff : isHexDigit c ↔ c.toLower ∈ hexDigits := by
  rw [isHexDigit, hexValue?_eq]
  split <;> simp_all

theorem all_isHexDigit : cs.all isHexDigit ↔ IsHexadecimal cs := by
  simp only [List.all_eq_true, isHexDigit_iff]
  rfl

theorem IsHexadecimal.sublist {ds : List Char} (h : IsHexadecimal cs) (sub : ds.Sublist cs) :
    IsHexadecimal ds := fun c mem => h c (sub.mem mem)

theorem digitValue_lt (h : c.toLower ∈ hexDigits) : digitValue c < 16 :=
  List.idxOf_lt_length_of_mem h

theorem eq_zero_of_digitValue (h : c.toLower ∈ hexDigits) (zero : digitValue c = 0) : c = '0' :=
  forall_ascii (P := fun c => c.toLower ∈ hexDigits → digitValue c = 0 → c = '0')
    (by decide +kernel) (lt_of_toLower_mem h) h zero

/-! ## Numbers -/

theorem number_cons (c : Char) (cs : List Char) :
    number (c :: cs) = digitValue c * 16 ^ cs.length + number cs := by
  simp only [number, List.map_cons, List.reverse_cons, Nat.ofDigits_append, List.length_reverse,
    List.length_map, Nat.ofDigits_singleton]
  ring

theorem number_lt (h : IsHexadecimal cs) : number cs < 16 ^ cs.length := by
  have bound := Nat.ofDigits_lt_base_pow_length (b := 16) (l := (cs.map digitValue).reverse)
    (by decide) fun value mem => by
      obtain ⟨c, hc, rfl⟩ := List.mem_map.1 (List.mem_reverse.1 mem)
      exact digitValue_lt (h c hc)
  simpa [number] using bound

theorem number_lt_of_short (h : IsHexadecimal cs) (short : cs.length ≤ 2) : number cs < 2 ^ 8 :=
  Nat.lt_of_lt_of_le (number_lt h) (Nat.pow_le_pow_right (by decide) short)

theorem foldl_hexNumber (h : IsHexadecimal cs) (n : Nat) :
    cs.foldl (fun n c => 16 * n + (hexValue? c).getD 0) n = n * 16 ^ cs.length + number cs := by
  induction cs generalizing n with
  | nil => simp [number]
  | cons c cs ih =>
    obtain ⟨hc, hcs⟩ := List.forall_mem_cons.1 h
    rw [List.foldl_cons, ih hcs, hexValue?_eq, if_pos hc, Option.getD_some, number_cons,
      List.length_cons]
    ring

theorem hexNumber_eq (h : IsHexadecimal cs) : hexNumber cs = number cs := by
  rw [hexNumber, foldl_hexNumber h, Nat.zero_mul, Nat.zero_add]

theorem number_dropWhile_zero (cs : List Char) : number (cs.dropWhile (· == '0')) = number cs := by
  induction cs with
  | nil => rfl
  | cons c cs ih =>
    by_cases hc : c = '0'
    · subst hc
      have zero : digitValue '0' = 0 := by decide
      rw [List.dropWhile_cons_of_pos rfl, ih, number_cons, zero, Nat.zero_mul, Nat.zero_add]
    · rw [List.dropWhile_cons_of_neg (by simpa using hc)]

/-- More than two digits denote more than a byte holds, unless the first one is zero. -/
theorem lt_number_of_long (hc : c.toLower ∈ hexDigits) (nonzero : c ≠ '0')
    (long : 2 ≤ cs.length) : 255 < number (c :: cs) := by
  have positive : 1 ≤ digitValue c :=
    Nat.pos_of_ne_zero fun zero => nonzero (eq_zero_of_digitValue hc zero)
  rw [number_cons]
  calc 255 < 1 * 16 ^ 2 := by decide
    _ ≤ digitValue c * 16 ^ cs.length :=
      Nat.mul_le_mul positive (Nat.pow_le_pow_right (by decide) long)
    _ ≤ digitValue c * 16 ^ cs.length + number cs := Nat.le_add_right ..

/-! ## Bytes -/

def textBytes (value : String) : List UInt8 :=
  value.toList.flatMap String.utf8EncodeChar

def isDigitByte (b : UInt8) : Bool :=
  isHexDigit (Char.ofUInt8 b)

/-- A character starts at this byte, or the text ends here. -/
def isBoundary (bytes : List UInt8) (i : Nat) : Bool :=
  i == 0 || i == bytes.length || bytes[i]?.any fun b => b < 0x80 || 0xc0 ≤ b

/-- The bytes from `start` on and before `stop`, which have to be whole characters of the text. -/
def slice? (bytes : List UInt8) (start stop : Nat) : Option (List UInt8) :=
  if start ≤ stop ∧ isBoundary bytes start ∧ isBoundary bytes stop then
    some ((bytes.drop start).take (stop - start))
  else none

/-- A number with one more digit, if the byte is a digit and the number stays a byte. -/
def pushDigit? (n b : UInt8) : Option UInt8 := do
  let digit ← hexValue? (Char.ofUInt8 b)
  let shifted ← byte? (n.toNat * 16)
  byte? (shifted.toNat + digit)

/-- The byte that digits denote, at least one of them, with or without a plus sign. -/
def readByte? : List UInt8 → Option UInt8
  | [] => none
  | 0x2b :: b :: bytes => (b :: bytes).foldlM pushDigit? 0
  | bytes => bytes.foldlM pushDigit? 0

/-- The bytes of characters that fill one byte each. -/
def asciiBytes (cs : List Char) : List UInt8 :=
  cs.map fun c => UInt8.ofNat c.toNat

theorem utf8EncodeChar_ascii {c : Char} (h : c.toNat < 128) :
    String.utf8EncodeChar c = [UInt8.ofNat c.toNat] :=
  if_pos (Nat.le_of_lt_succ h)

theorem ofUInt8_ascii {c : Char} (h : c.toNat < 128) : Char.ofUInt8 (UInt8.ofNat c.toNat) = c := by
  have narrow : c.toNat < 2 ^ 8 := Nat.lt_trans h (by decide)
  refine Char.ext (UInt32.toNat_inj.1 ?_)
  show (UInt8.ofNat c.toNat).toUInt32.toNat = c.toNat
  rw [UInt8.toNat_toUInt32, UInt8.toNat_ofNat', Nat.mod_eq_of_lt narrow]

theorem eq_of_byte {c : Char} {b : UInt8} (h : c.toNat < 128) (same : UInt8.ofNat c.toNat = b) :
    c = Char.ofUInt8 b := by
  rw [← same, ofUInt8_ascii h]

/-- The first byte of a wider character shows that it is none of these. -/
theorem utf8EncodeChar_wide {c : Char} (h : 128 ≤ c.toNat) :
    ∃ b bytes, String.utf8EncodeChar c = b :: bytes ∧ 128 ≤ b.toNat := by
  have wide : ¬ c.val.toNat ≤ 127 := Nat.not_le_of_lt h
  simp only [String.utf8EncodeChar, if_neg wide]
  split
  · exact ⟨_, _, rfl, by rw [UInt8.toNat_ofNat']; omega⟩
  · split
    · exact ⟨_, _, rfl, by rw [UInt8.toNat_ofNat']; omega⟩
    · exact ⟨_, _, rfl, by rw [UInt8.toNat_ofNat']; omega⟩

/-- A character is a digit exactly if all its bytes are. -/
theorem all_utf8EncodeChar (c : Char) :
    (String.utf8EncodeChar c).all isDigitByte = isHexDigit c := by
  by_cases ascii : c.toNat < 128
  · rw [utf8EncodeChar_ascii ascii, List.all_cons, List.all_nil, Bool.and_true, isDigitByte,
      ofUInt8_ascii ascii]
  · obtain ⟨b, bytes, heq, wide⟩ := utf8EncodeChar_wide (Nat.le_of_not_lt ascii)
    have first : isDigitByte b = false := Bool.eq_false_iff.2 fun digit =>
      Nat.not_lt_of_le wide (lt_of_toLower_mem (isHexDigit_iff.1 digit))
    have whole : isHexDigit c = false := Bool.eq_false_iff.2 fun digit =>
      ascii (lt_of_toLower_mem (isHexDigit_iff.1 digit))
    rw [heq, List.all_cons, first, whole, Bool.false_and]

theorem all_textBytes (value : String) :
    (textBytes value).all isDigitByte = value.toList.all isHexDigit := by
  simp only [textBytes, List.all_flatMap, all_utf8EncodeChar]

theorem isEmpty_textBytes (value : String) :
    (textBytes value).isEmpty = value.toList.isEmpty := by
  unfold textBytes
  cases value.toList with
  | nil => rfl
  | cons c cs =>
    have some : String.utf8EncodeChar c ≠ [] := fun none => by
      have := c.utf8Size_pos
      rw [← String.length_utf8EncodeChar, none] at this
      cases this
    simp [some]

theorem textBytes_of_hexadecimal {value : String} (h : IsHexadecimal value.toList) :
    textBytes value = asciiBytes value.toList := by
  unfold textBytes asciiBytes
  rw [← List.flatMap_pure_eq_map]
  exact List.flatMap_congr fun c mem => utf8EncodeChar_ascii (lt_of_toLower_mem (h c mem))

/-- Between bytes that are characters one can cut anywhere. -/
theorem isBoundary_ascii (h : IsHexadecimal cs) {i : Nat} (hi : i ≤ cs.length) :
    isBoundary (asciiBytes cs) i := by
  rcases Nat.eq_or_lt_of_le hi with rfl | inside
  · simp [isBoundary, asciiBytes]
  · have narrow := lt_of_toLower_mem (h _ (List.getElem_mem inside))
    have byte : UInt8.ofNat cs[i].toNat < 0x80 := by
      rw [UInt8.lt_iff_toNat_lt, UInt8.toNat_ofNat']
      exact Nat.lt_of_le_of_lt (Nat.mod_le ..) narrow
    simp [isBoundary, asciiBytes, List.getElem?_eq_getElem inside, byte]

theorem slice?_ascii (h : IsHexadecimal cs) {i width : Nat} (fits : (i + 1) * width ≤ cs.length) :
    slice? (asciiBytes cs) (i * width) ((i + 1) * width) =
      some (asciiBytes ((cs.drop (i * width)).take width)) := by
  have next : (i + 1) * width = i * width + width := Nat.succ_mul ..
  rw [slice?, if_pos ⟨by omega, isBoundary_ascii h (by omega), isBoundary_ascii h fits⟩, next,
    Nat.add_sub_cancel_left, asciiBytes, ← List.map_drop, ← List.map_take]
  rfl

theorem dropWhile_asciiBytes (h : IsHexadecimal cs) :
    (asciiBytes cs).dropWhile (· == 0x30) = asciiBytes (cs.dropWhile (· == '0')) := by
  induction cs with
  | nil => rfl
  | cons c cs ih =>
    obtain ⟨hc, hcs⟩ := List.forall_mem_cons.1 h
    have same : (UInt8.ofNat c.toNat == 0x30) = (c == '0') := by
      rw [Bool.eq_iff_iff, beq_iff_eq, beq_iff_eq]
      constructor
      · exact eq_of_byte (lt_of_toLower_mem hc)
      · rintro rfl
        rfl
    show ((UInt8.ofNat c.toNat) :: asciiBytes cs).dropWhile _ = _
    rw [List.dropWhile_cons, List.dropWhile_cons, same, ih hcs]
    split <;> rfl

theorem pushDigit?_ascii {c : Char} (hc : c.toLower ∈ hexDigits) {n : UInt8}
    (room : n.toNat * 16 + digitValue c < 2 ^ 8) :
    pushDigit? n (UInt8.ofNat c.toNat) = some (UInt8.ofNat (n.toNat * 16 + digitValue c)) := by
  have shifted : (UInt8.ofNat (n.toNat * 16)).toNat = n.toNat * 16 := by
    rw [UInt8.toNat_ofNat']
    omega
  rw [pushDigit?, ofUInt8_ascii (lt_of_toLower_mem hc), hexValue?_eq, if_pos hc,
    byte?_of_lt (by omega)]
  simp only [Option.bind_eq_bind, Option.bind_some, shifted, byte?_of_lt room]

/-- **The loop over the digits**, as long as the whole number is a byte. -/
theorem foldlM_pushDigit? (h : IsHexadecimal cs) {n : UInt8}
    (room : n.toNat * 16 ^ cs.length + number cs < 2 ^ 8) :
    (asciiBytes cs).foldlM pushDigit? n =
      some (UInt8.ofNat (n.toNat * 16 ^ cs.length + number cs)) := by
  induction cs generalizing n with
  | nil => simp [asciiBytes, number]
  | cons c cs ih =>
    obtain ⟨hc, hcs⟩ := List.forall_mem_cons.1 h
    have total : n.toNat * 16 ^ (c :: cs).length + number (c :: cs) =
        (n.toNat * 16 + digitValue c) * 16 ^ cs.length + number cs := by
      rw [number_cons, List.length_cons]
      ring
    rw [total] at room ⊢
    -- the number with one more digit is no larger than the whole one
    have first : n.toNat * 16 + digitValue c < 2 ^ 8 :=
      calc n.toNat * 16 + digitValue c ≤ (n.toNat * 16 + digitValue c) * 16 ^ cs.length :=
            Nat.le_mul_of_pos_right _ (Nat.pow_pos (by decide))
        _ < 2 ^ 8 := by omega
    have pushed : (UInt8.ofNat (n.toNat * 16 + digitValue c)).toNat =
        n.toNat * 16 + digitValue c := by
      rw [UInt8.toNat_ofNat']
      omega
    show ((UInt8.ofNat c.toNat) :: asciiBytes cs).foldlM pushDigit? n = _
    rw [List.foldlM_cons, pushDigit?_ascii hc first]
    show (asciiBytes cs).foldlM pushDigit? _ = _
    rw [ih hcs (by rwa [pushed]), pushed]

theorem readByte?_ascii (h : IsHexadecimal cs) (some : cs ≠ []) (room : number cs < 2 ^ 8) :
    readByte? (asciiBytes cs) = .some (UInt8.ofNat (number cs)) := by
  have loop := foldlM_pushDigit? (n := 0) h (by simpa using room)
  rw [UInt8.toNat_zero, Nat.zero_mul, Nat.zero_add] at loop
  rw [← loop]
  cases cs with
  | nil => exact absurd rfl some
  | cons c cs =>
    have hc := h c List.mem_cons_self
    have sign : UInt8.ofNat c.toNat ≠ 0x2b := by
      intro plus
      rw [eq_of_byte (lt_of_toLower_mem hc) plus] at hc
      exact absurd hc (by decide +kernel)
    show readByte? (UInt8.ofNat c.toNat :: asciiBytes cs) = _
    unfold readByte?
    split
    next heq => cases heq
    next heq => exact absurd (List.cons.inj heq).1 sign
    next => rfl

end Text

namespace Color

open Text

variable {cs : List Char}

/-- **A channel is the number that its digits denote, held at 255.** -/
theorem toNat_channel (h : IsHexadecimal cs) : (channel cs).toNat = min 255 (number cs) := by
  have significant : IsHexadecimal (cs.dropWhile (· == '0')) :=
    h.sublist (List.dropWhile_sublist _)
  rw [← number_dropWhile_zero cs]
  have first := List.head?_dropWhile_not (· == '0') cs
  unfold channel
  generalize cs.dropWhile (· == '0') = digits at significant first
  by_cases long : 2 < digits.length
  · cases digits with
    | nil => cases long
    | cons c rest =>
      have nonzero : c ≠ '0' := by simpa using first
      have large := lt_number_of_long (significant c List.mem_cons_self) nonzero
        (Nat.le_of_lt_succ long)
      simp only [if_pos long]
      show 255 = _
      omega
  · have bound := number_lt_of_short significant (Nat.le_of_not_lt long)
    simp only [if_neg long, hexNumber_eq significant, UInt8.toNat_ofNat']
    omega

/-! ## Texts that denote a color -/

/-- A text of hexadecimal digits in equal channels: four for the lengths 4 and 8, else three. -/
structure IsColorText (value : String) : Prop where
  nonempty : value ≠ ""
  digits : IsHexadecimal value.toList
  length : value.length = 4 ∨ value.length = 8 ∨ 3 ∣ value.length

def blockWidth (value : String) : Nat :=
  if value.length = 4 ∨ value.length = 8 then value.length / 4 else value.length / 3

def block (value : String) (i : Nat) : List Char :=
  (value.toList.drop (i * blockWidth value)).take (blockWidth value)

def ofBlocks (value : String) : Color :=
  ⟨channel (block value 0), channel (block value 1), channel (block value 2)⟩

theorem isHexadecimal_block {value : String} (h : IsHexadecimal value.toList) (i : Nat) :
    IsHexadecimal (block value i) :=
  h.sublist ((List.take_sublist ..).trans (List.drop_sublist ..))

theorem channelWidth?_eq (value : String) :
    channelWidth? value.toList.length =
      if value.length = 4 ∨ value.length = 8 ∨ 3 ∣ value.length then some (blockWidth value)
      else none := by
  rw [String.length_toList, channelWidth?, blockWidth]
  by_cases four : value.length = 4 ∨ value.length = 8
  · rw [if_pos four, if_pos four, if_pos (by omega)]
  · rw [if_neg four, if_neg four]
    by_cases three : 3 ∣ value.length
    · rw [if_pos (Nat.mod_eq_zero_of_dvd three), if_pos (.inr (.inr three))]
    · rw [if_neg (mt Nat.dvd_of_mod_eq_zero three), if_neg (by tauto)]

/-- **What reading a color can do.** -/
theorem parse_cases (value : String) :
    (IsColorText value ∧ parse value = .ok (ofBlocks value)) ∨
      ¬ IsColorText value ∧ ∃ fault, parse value = .error (.invalidColor value fault) := by
  unfold parse
  by_cases empty : value.toList.isEmpty
  · refine .inr ⟨fun h => h.nonempty ?_, _, if_pos empty⟩
    rw [← String.toList_inj]
    exact List.isEmpty_iff.1 empty
  · rw [if_neg empty]
    by_cases digits : value.toList.all isHexDigit
    · rw [if_neg (not_not.2 digits), channelWidth?_eq]
      by_cases length : value.length = 4 ∨ value.length = 8 ∨ 3 ∣ value.length
      · refine .inl ⟨⟨fun h => empty (by rw [h]; rfl), all_isHexDigit.1 digits, length⟩, ?_⟩
        rw [if_pos length, ofBlocks, block, block, block, Nat.zero_mul, Nat.one_mul]
        rfl
      · refine .inr ⟨fun h => length h.length, .unevenLength, ?_⟩
        rw [if_neg length]
    · exact .inr ⟨fun h => digits (all_isHexDigit.2 h.digits), _, if_pos digits⟩

/-- A text that is no color is refused by name. -/
theorem exists_fault {value : String} {e : Error} (h : parse value = .error e) :
    ∃ fault, e = .invalidColor value fault := by
  rcases parse_cases value with ⟨-, read⟩ | ⟨-, fault, read⟩
  · cases read.symm.trans h
  · cases read.symm.trans h
    exact ⟨fault, rfl⟩

/-! ## Step by step -/

/-- The channel with number `i`, if neither cutting nor reading fails. -/
def channelStep? (bytes : List UInt8) (width i : Nat) : Option UInt8 := do
  let block ← slice? bytes (i * width) ((i + 1) * width)
  let digits := block.dropWhile (· == 0x30)
  if 2 < digits.length then return 255
  else if digits.isEmpty then return 0
  else readByte? digits

/-- Reading a color byte by byte, if no step fails that is not meant to. -/
def parseSteps? (value : String) : Option (Except Error Color) :=
  let bytes := textBytes value
  if bytes.isEmpty then some (.error (.invalidColor value .empty))
  else if ¬ bytes.all isDigitByte then some (.error (.invalidColor value .notHexadecimal))
  else
    match channelWidth? bytes.length with
    | none => some (.error (.invalidColor value .unevenLength))
    | some width => do
      let red ← channelStep? bytes width 0
      let green ← channelStep? bytes width 1
      let blue ← channelStep? bytes width 2
      return .ok ⟨red, green, blue⟩

/-- **A channel, byte by byte.** -/
theorem channelStep?_ascii (h : IsHexadecimal cs) {i width : Nat}
    (fits : (i + 1) * width ≤ cs.length) :
    channelStep? (asciiBytes cs) width i = some (channel ((cs.drop (i * width)).take width)) := by
  have digits : IsHexadecimal ((cs.drop (i * width)).take width) :=
    h.sublist ((List.take_sublist ..).trans (List.drop_sublist ..))
  have significant : IsHexadecimal (((cs.drop (i * width)).take width).dropWhile (· == '0')) :=
    digits.sublist (List.dropWhile_sublist _)
  unfold channelStep? channel
  simp only [slice?_ascii h fits, Option.bind_eq_bind, Option.bind_some,
    dropWhile_asciiBytes digits]
  generalize ((cs.drop (i * width)).take width).dropWhile (· == '0') = rest at significant
  have same : (asciiBytes rest).length = rest.length := List.length_map ..
  rw [same]
  by_cases long : 2 < rest.length
  · rw [if_pos long, if_pos long]
    rfl
  · rw [if_neg long, if_neg long, hexNumber_eq significant]
    cases rest with
    | nil => rfl
    | cons c rest =>
      exact readByte?_ascii significant (List.cons_ne_nil c rest)
        (number_lt_of_short significant (Nat.le_of_not_lt long))

/-- **No step fails that is not meant to.** -/
theorem parseSteps?_eq (value : String) : parseSteps? value = some (parse value) := by
  unfold parseSteps? parse
  simp only [isEmpty_textBytes, all_textBytes]
  by_cases empty : value.toList.isEmpty
  · rw [if_pos empty, if_pos empty]
  · rw [if_neg empty, if_neg empty]
    by_cases digits : value.toList.all isHexDigit
    · rw [if_neg (not_not.2 digits), if_neg (not_not.2 digits)]
      have hex := all_isHexDigit.1 digits
      have length : (asciiBytes value.toList).length = value.toList.length := List.length_map ..
      rw [textBytes_of_hexadecimal hex, length]
      cases hwidth : channelWidth? value.toList.length with
      | none => rfl
      | some width =>
        have fits : 3 * width ≤ value.toList.length := by
          rw [channelWidth?] at hwidth
          grind
        have step : ∀ i < 3, channelStep? (asciiBytes value.toList) width i =
            some (channel ((value.toList.drop (i * width)).take width)) := fun i hi =>
          channelStep?_ascii hex ((Nat.mul_le_mul_right width hi).trans fits)
        simp only [step 0 (by decide), step 1 (by decide), step 2 (by decide)]
        rw [Nat.zero_mul, Nat.one_mul]
        rfl
    · rw [if_pos digits, if_pos digits]

/-! ## Saturated reading -/

/-- **Reading a color is reading hexadecimal numbers held at 255**, and it reads every text that
has digits for it and no other. -/
theorem parse_saturates (value : String) :
    parseSteps? value = some (parse value) ∧
    ((∃ c, parse value = .ok c) ↔ IsColorText value) ∧
    (∀ c, parse value = .ok c →
      c.red.toNat = min 255 (number (block value 0)) ∧
      c.green.toNat = min 255 (number (block value 1)) ∧
      c.blue.toNat = min 255 (number (block value 2))) ∧
    (¬ IsColorText value → ∃ fault, parse value = .error (.invalidColor value fault)) := by
  refine ⟨parseSteps?_eq value, ?_⟩
  rcases parse_cases value with ⟨accepted, read⟩ | ⟨refused, fault, read⟩
  · refine ⟨⟨fun _ => accepted, fun _ => ⟨_, read⟩⟩, fun c h => ?_,
      fun refused => absurd accepted refused⟩
    cases read.symm.trans h
    have channel := fun i => toNat_channel (isHexadecimal_block accepted.digits i)
    exact ⟨channel 0, channel 1, channel 2⟩
  · refine ⟨⟨fun ⟨c, h⟩ => ?_, fun accepted => absurd accepted refused⟩, fun c h => ?_,
      fun _ => ⟨fault, read⟩⟩
    · cases read.symm.trans h
    · cases read.symm.trans h

/-- Eight digits for each channel, in both letter cases. -/
def wideText : String := "0001fFf0000000aB00000100"

/-- As many bytes as a color may have, but not as many characters. -/
def accentText : String := "é0"

theorem parse_saturates_wideText :
    ∃ c, parse wideText = .ok c ∧ c = ⟨255, 0xab, 255⟩ ∧ IsColorText wideText ∧
      c.red.toNat = min 255 (number "0001fFf0".toList) ∧
      c.green.toNat = min 255 (number "000000aB".toList) ∧
      c.blue.toNat = min 255 (number "00000100".toList) ∧
      parseSteps? wideText = some (.ok c) ∧
      ∃ fault, parse accentText = .error (.invalidColor accentText fault) := by
  have read : parse wideText = .ok ⟨255, 0xab, 255⟩ := by decide +kernel
  obtain ⟨steps, accepted, numbers, -⟩ := parse_saturates wideText
  obtain ⟨-, -, -, refused⟩ := parse_saturates accentText
  obtain ⟨red, green, blue⟩ := numbers _ read
  have blocks : block wideText 0 = "0001fFf0".toList ∧ block wideText 1 = "000000aB".toList ∧
      block wideText 2 = "00000100".toList := by
    decide +kernel
  rw [blocks.1] at red
  rw [blocks.2.1] at green
  rw [blocks.2.2] at blue
  have accent : ¬ IsColorText accentText := fun h =>
    absurd (h.digits 'é' (by decide +kernel)) (by decide +kernel)
  exact ⟨_, read, rfl, accepted.1 ⟨_, read⟩, red, green, blue, steps.trans (by rw [read]),
    refused accent⟩

end Color

end Paperdoll
