import Paperdoll.Number.Shortest

/-!
# Number texts

A number in a document is kept as it is written until somebody asks for its value, because
readers differ in what they make of the same digits.

**Exact reading** (`DecimalText.nearest`). The number nearest to what the digits denote.

**Windowed reading** (`DecimalText.windowed`). As many leading digits as fit into 64 bits are
read as a natural number, the other digits only move the point; that number and the power of
ten are each rounded, and so is their product or quotient. The result may be a neighbour of the
exact one.
-/

namespace Paperdoll.Json

/-- A decimal number as it is written. -/
structure DecimalText where
  negative : Bool
  /-- The digits before the point. -/
  whole : List Char
  /-- The digits after the point, if there is a point. -/
  fraction : Option (List Char)
  exponent : Option Int
deriving DecidableEq, Repr

/-- A number as it is written. -/
inductive Numeral
  | decimal (d : DecimalText)
  /-- A hexadecimal number of at most 32 bits. -/
  | hexadecimal (n : Nat)
  | infinity (negative : Bool)
  | nan
  /-- Written like a number, but without a value. -/
  | void
deriving DecidableEq, Repr

def digitValue (c : Char) : Nat := c.toNat - '0'.toNat

/-- The number that decimal digits denote. -/
def digitsNumber (ds : List Char) : Nat :=
  ds.foldl (fun n c => 10 * n + digitValue c) 0

namespace DecimalText

/-! ## From characters -/

/-- The exponent after its letter: an optional sign and at least one digit. -/
def readExponent? (cs : List Char) : Option Int :=
  let (negative, digits) := match cs with
    | '+' :: rest => (false, rest)
    | '-' :: rest => (true, rest)
    | rest => (false, rest)
  if digits.isEmpty || !digits.all Char.isDigit then none
  else some (if negative then -digitsNumber digits else digitsNumber digits)

/-- Digits, an optional point with digits, and an optional exponent; any of the runs of digits
may be empty. -/
def read? (negative : Bool) (cs : List Char) : Option DecimalText :=
  let whole := cs.takeWhile Char.isDigit
  let (fraction, rest) := match cs.dropWhile Char.isDigit with
    | '.' :: rest => (some (rest.takeWhile Char.isDigit), rest.dropWhile Char.isDigit)
    | rest => (none, rest)
  match rest with
  | [] => some ⟨negative, whole, fraction, none⟩
  | c :: rest =>
    if c = 'e' ∨ c = 'E' then
      (readExponent? rest).map fun e => ⟨negative, whole, fraction, some e⟩
    else none

/-- The whole part has a digit, and starts with zero only if that is all of it. -/
def hasPlainWhole (d : DecimalText) : Bool :=
  match d.whole with
  | [] => false
  | '0' :: rest => rest.isEmpty
  | _ => true

/-! ## Values -/

/-- Neither a point nor an exponent is written. -/
def isWhole (d : DecimalText) : Bool :=
  d.fraction.isNone && d.exponent.isNone

def toInt (d : DecimalText) : Int :=
  if d.negative then -digitsNumber d.whole else digitsNumber d.whole

def nearest (d : DecimalText) : Binary .double :=
  let fraction := d.fraction.getD []
  let digits := digitsNumber (d.whole ++ fraction)
  let exponent := d.exponent.getD 0 - fraction.length
  let place := (Nat.toDigits 10 digits).length + exponent
  -- Far outside the format the power of ten need not be computed.
  if digits = 0 ∨ place < -400 then .zero d.negative
  else if 400 < place then .infinity d.negative
  else
    let (num, den) := (DecimalForm.mk digits exponent).ratio
    .ofRatio d.negative num den

/-- The digits in the window and the power of ten that the others amount to. -/
structure Window where
  value : Nat
  exponent : Int
  /-- A digit did not fit any more. -/
  full : Bool

/-- A digit before the point: past the window it stands for a power of ten. -/
def Window.addWhole (w : Window) (c : Char) : Window :=
  let value := 10 * w.value + digitValue c
  if w.full || 2 ^ 64 ≤ value then { w with exponent := w.exponent + 1, full := true }
  else { w with value }

/-- A digit after the point: past the window it counts for nothing. -/
def Window.addFraction (w : Window) (c : Char) : Window :=
  let value := 10 * w.value + digitValue c
  if w.full || 2 ^ 64 ≤ value then { w with full := true }
  else { w with value, exponent := w.exponent - 1 }

def wholeWindow (d : DecimalText) : Window :=
  d.whole.foldl Window.addWhole ⟨0, 0, false⟩

/-- The window after all digits. -/
def window (d : DecimalText) : Window :=
  -- The first digit after the point gets a chance even when one before it did not fit.
  (d.fraction.getD []).foldl Window.addFraction { d.wholeWindow with full := false }

/-- The largest power of ten that the format holds. -/
def maxPower : Nat := 308

/-- Divides by a power of ten, in steps of at most `maxPower`. -/
def divPower (x : Binary .double) (power : Nat) : Binary .double :=
  if x.code = 0 then x
  else if power ≤ maxPower then x.div (.ofNat (10 ^ power))
  else divPower (x.div (.ofNat (10 ^ maxPower))) (power - maxPower)
termination_by power
decreasing_by simp only [maxPower] at *; omega

/-- The number of the window, scaled; too large a number has no value. -/
def windowed (d : DecimalText) : Option (Binary .double) :=
  let w := d.window
  let exponent := w.exponent + d.exponent.getD 0
  let x : Binary .double := .ofNat w.value
  let scaled : Option (Binary .double) :=
    if exponent < 0 then some (divPower x exponent.natAbs)
    else if exponent ≤ maxPower then
      let y := x.mul (.ofNat (10 ^ exponent.toNat))
      if y.isFinite then some y else none
    else if x.code = 0 then some x
    else none
  scaled.map fun y => { y with negative := d.negative }

end DecimalText

end Paperdoll.Json
