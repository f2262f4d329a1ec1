import Paperdoll.Number.Power

/-!
# Binary floating-point numbers

A format has a precision and a range of exponents; its numbers are written `m * 2 ^ e` with a
significand `m` below `2 ^ precision`. A number is stored as a sign and a **code**, which counts
the magnitudes of the format from zero upwards: the codes below `infinityCode` are the finite
magnitudes in increasing order, `infinityCode` is infinity, and what lies above is no number.
Code and sign side by side are the usual bit pattern.

**`BinaryFormat.roundRatio`** is the code nearest to a quotient of natural numbers, and of two
equally near ones the even one. All arithmetic is done on such quotients, without error, and
rounded once.
-/

namespace Paperdoll

/-- A binary format: bits of the significand, bits of the exponent. -/
structure BinaryFormat where
  precision : Nat
  exponentBits : Nat
deriving DecidableEq, Repr

namespace BinaryFormat

/-- The format of 32 bits. -/
def single : BinaryFormat := ⟨24, 8⟩

/-- The format of 64 bits. -/
def double : BinaryFormat := ⟨53, 11⟩

variable (f : BinaryFormat)

/-- The exponent of the least significands. -/
def minExponent : Int :=
  3 - 2 ^ (f.exponentBits - 1) - f.precision

/-- The number of magnitudes with one and the same exponent. -/
def binade : Nat := 2 ^ (f.precision - 1)

def infinityCode : Nat := (2 ^ f.exponentBits - 1) * f.binade

/-- The significand of a finite magnitude. -/
def significand (code : Nat) : Nat :=
  if code < f.binade then code else code % f.binade + f.binade

def exponent (code : Nat) : Int :=
  f.minExponent + ((code / f.binade - 1 : Nat) : Int)

/-- The quotient rounded to the nearest natural number, a half to the even one. -/
def roundQuotient (num den : Nat) : Nat :=
  let quotient := num / den
  let rest := num % den
  if 2 * rest < den then quotient
  else if den < 2 * rest then quotient + 1
  else quotient + quotient % 2

/-- A quotient times a power of two, as a quotient. -/
def scaleRatio (num den : Nat) (e : Int) : Nat × Nat :=
  if 0 ≤ e then (num * 2 ^ e.toNat, den) else (num, den * 2 ^ (-e).toNat)

/-- The greatest `e` with `2 ^ e` at most a positive quotient. -/
def ratioLog2 (num den : Nat) : Int :=
  let guess : Int := num.log2 - den.log2
  let (n, d) := scaleRatio num den (-guess)
  if d ≤ n then guess else guess - 1

/-- The code of the magnitude nearest to a quotient. -/
def roundRatio (num den : Nat) : Nat :=
  if num = 0 then 0
  else
    let e := max f.minExponent (ratioLog2 num den - (f.precision - 1))
    let (n, d) := scaleRatio num den (-e)
    min f.infinityCode ((e - f.minExponent).toNat * f.binade + roundQuotient n d)

end BinaryFormat

/-- A number of a binary format. -/
structure Binary (f : BinaryFormat) where
  negative : Bool
  code : Nat
deriving DecidableEq, Repr

namespace Binary

variable {f : BinaryFormat}

def zero (negative : Bool) : Binary f := ⟨negative, 0⟩

instance : Inhabited (Binary f) := ⟨zero false⟩

def infinity (negative : Bool) : Binary f := ⟨negative, f.infinityCode⟩

/-- What is no number. -/
def nan : Binary f := ⟨false, f.infinityCode + f.binade / 2⟩

def isNaN (x : Binary f) : Bool := f.infinityCode < x.code

def isFinite (x : Binary f) : Bool := x.code < f.infinityCode

def bits (x : Binary f) : Nat :=
  (if x.negative then 2 ^ (f.precision + f.exponentBits - 1) else 0) + x.code

/-- The magnitude of a finite number, as a quotient. -/
def ratio (x : Binary f) : Nat × Nat :=
  BinaryFormat.scaleRatio (f.significand x.code) 1 (f.exponent x.code)

/-- The number nearest to a signed quotient. -/
def ofRatio (negative : Bool) (num den : Nat) : Binary f :=
  ⟨negative, f.roundRatio num den⟩

def ofNat (n : Nat) : Binary f :=
  ofRatio false n 1

def neg (x : Binary f) : Binary f :=
  { x with negative := !x.negative }

/-- The product of finite numbers. -/
def mul (x y : Binary f) : Binary f :=
  ofRatio (x.negative != y.negative) (x.ratio.1 * y.ratio.1) (x.ratio.2 * y.ratio.2)

/-- The quotient of finite numbers, the second of which is not zero. -/
def div (x y : Binary f) : Binary f :=
  ofRatio (x.negative != y.negative) (x.ratio.1 * y.ratio.2) (x.ratio.2 * y.ratio.1)

/-- The nearest number of another format. -/
def convert (g : BinaryFormat) (x : Binary f) : Binary g :=
  if x.isNaN then nan
  else if x.isFinite then ofRatio x.negative x.ratio.1 x.ratio.2
  else infinity x.negative

/-- The nearest integer of a finite number, a half away from zero. -/
def roundAway (x : Binary f) : Int :=
  let (num, den) := x.ratio
  let n : Int := ((2 * num + den) / (2 * den) : Nat)
  if x.negative then -n else n

def truncate (x : Binary f) : Int :=
  let (num, den) := x.ratio
  let n : Int := (num / den : Nat)
  if x.negative then -n else n

end Binary

end Paperdoll
