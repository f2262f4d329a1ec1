import Paperdoll.Number.Binary

/-!
# The shortest decimal text of a number

Every real number close enough to a finite binary number `x` rounds to it. **`shortest`** looks
for the fewest decimal digits that denote one of them, and among those with equally few digits
for the one nearest to `x`. The digits are tried on finer and finer decimal grids: a grid has a
point that rounds to `x` only if one of the two neighbours of `x` on it does.

**`NotationStyle`** says how digits and exponent become a text.
-/

namespace Paperdoll

/-- The number `digits * 10 ^ exponent`. -/
structure DecimalForm where
  digits : Nat
  exponent : Int
deriving DecidableEq, Repr

namespace DecimalForm

def ratio (d : DecimalForm) : Nat × Nat :=
  if 0 ≤ d.exponent then (d.digits * 10 ^ d.exponent.toNat, 1)
  else (d.digits, 10 ^ (-d.exponent).toNat)

end DecimalForm

namespace Binary

variable {f : BinaryFormat}

/-- A quotient rounds to the magnitude of `x`. -/
def isReadAs (x : Binary f) (num den : Nat) : Bool :=
  f.roundRatio num den == x.code

/-- The point of the grid of step `10 ^ e` that lies nearest to `x` among those that round to
it; a tie goes to the even one. -/
def nearestOnGrid? (x : Binary f) (e : Int) : Option Nat :=
  let (num, den) := x.ratio
  -- `x` in units of the grid.
  let (n, d) := if 0 ≤ e then (num, den * 10 ^ e.toNat) else (num * 10 ^ (-e).toNat, den)
  let reads (k : Nat) : Bool :=
    let (p, q) := (DecimalForm.mk k e).ratio
    x.isReadAs p q
  let low := n / d
  let rest := n % d
  let lowFirst := 2 * rest < d || (2 * rest == d && low % 2 == 0)
  let order := if lowFirst then [low, low + 1] else [low + 1, low]
  order.find? reads

/-- Looks for a grid with a point for `x`, from the step `10 ^ e` on downwards. -/
def shortestFrom (x : Binary f) (e : Int) : Nat → DecimalForm
  | 0 => ⟨0, 0⟩
  | tries + 1 =>
    match x.nearestOnGrid? e with
    | some k => ⟨k, e⟩
    | none => x.shortestFrom (e - 1) tries

/-- An exponent of ten above the magnitude of `x`. -/
def topExponent (x : Binary f) : Int :=
  let bits := f.exponent x.code + f.precision
  -- Ten lies between the third and the fourth power of two.
  if 0 ≤ bits then bits / 3 + 1 else bits / 4 + 1

/-- The fewest digits that are read as `x`. -/
def shortest (x : Binary f) : DecimalForm :=
  if x.code = 0 then ⟨0, 0⟩ else x.shortestFrom x.topExponent (2 * f.precision + 2 ^ f.exponentBits)

end Binary

/-! ## Digits as text -/

/-- Where a notation without exponent ends. The number has its first digit just before the
place `10 ^ p`; it is written without exponent when `low < p ≤ high`. -/
structure NotationStyle where
  low : Int
  high : Int

namespace NotationStyle

/-- The digits of a positive number with a point, or with a point and an exponent. -/
def digitsText (style : NotationStyle) (d : DecimalForm) : String :=
  let digits := (Nat.toDigits 10 d.digits)
  let place : Int := digits.length + d.exponent
  let zeros (n : Nat) := List.replicate n '0'
  String.ofList <|
    if 0 ≤ d.exponent ∧ place ≤ style.high then
      digits ++ zeros d.exponent.toNat ++ ['.', '0']
    else if 0 < place ∧ place ≤ style.high then
      digits.take place.toNat ++ '.' :: digits.drop place.toNat
    else if style.low < place ∧ place ≤ 0 then
      ['0', '.'] ++ zeros (-place).toNat ++ digits
    else
      let power := place - 1
      let rest := if digits.length = 1 then [] else '.' :: digits.drop 1
      digits.take 1 ++ rest ++ ['e', if 0 ≤ power then '+' else '-'] ++
        Nat.toDigits 10 power.natAbs

def text (style : NotationStyle) {f : BinaryFormat} (x : Binary f) : String :=
  (if x.negative then "-" else "") ++
    if x.code = 0 then "0.0" else style.digitsText x.shortest

end NotationStyle

/-- The digits of a number without an exponent; a whole number has no point. -/
def DecimalForm.plainText (d : DecimalForm) : String :=
  let digits := Nat.toDigits 10 d.digits
  let place : Int := digits.length + d.exponent
  let zeros (n : Nat) := List.replicate n '0'
  String.ofList <|
    if 0 ≤ d.exponent then digits ++ zeros d.exponent.toNat
    else if 0 < place then digits.take place.toNat ++ '.' :: digits.drop place.toNat
    else ['0', '.'] ++ zeros (-place).toNat ++ digits

/-- The shortest text of a number that has no exponent and no superfluous point. -/
def Binary.plainText {f : BinaryFormat} (x : Binary f) : String :=
  if x.isNaN then "NaN"
  else (if x.negative then "-" else "") ++ if x.isFinite then x.shortest.plainText else "inf"

end Paperdoll
