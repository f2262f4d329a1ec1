import Paperdoll.Json.Numeral
import Paperdoll.Text.Hex

/-!
# Values of a settings file

A value is a text, a number, a truth value, a date, or a container of values. This module reads
the values that are written without quotes and brackets (**`Value.ofWord?`**): an underscore may
stand between two digits, integers have 64 bits, and leading zeros are not allowed.
-/

namespace Paperdoll.Toml

inductive Value
  | text (s : String)
  | integer (n : Int)
  | float (x : Binary .double)
  | bool (b : Bool)
  /-- A date, a time or both, in the usual spelling. -/
  | date (text : String)
  | array (items : List Value)
  /-- The values of a table, by the path of keys that leads to each. -/
  | table (entries : List (List String × Value))

/-! ## Numbers -/

/-- The characters without underscores, if each of those stands between two digits; `behind` says
that a digit came last. -/
def withoutUnderscores? (isDigit : Char → Bool) (behind : Bool) : List Char → Option (List Char)
  | [] => some []
  | ['_'] => none
  | '_' :: c :: rest =>
    if behind && isDigit c then withoutUnderscores? isDigit false (c :: rest) else none
  | c :: rest => (withoutUnderscores? isDigit (isDigit c) rest).map (c :: ·)

def cutSign : List Char → Option Char × List Char
  | '+' :: rest => (some '+', rest)
  | '-' :: rest => (some '-', rest)
  | rest => (none, rest)

/-- The number that digits of a base write. -/
def baseNumber? (base : Nat) (cs : List Char) : Option Nat := do
  let isDigit (c : Char) : Bool := (Text.hexValue? c).any (· < base)
  let digits ← withoutUnderscores? isDigit false cs
  if digits.isEmpty || !digits.all isDigit then none
  else some (digits.foldl (fun n c => base * n + (Text.hexValue? c).getD 0) 0)

def decimal? (cs : List Char) : Option Json.DecimalText := do
  let (sign, digits) := cutSign (← withoutUnderscores? Char.isDigit false cs)
  let d ← Json.DecimalText.read? (sign == some '-') digits
  if d.hasPlainWhole && d.fraction != some [] then some d else none

def integer? (cs : List Char) : Option Int := do
  let n : Int ← match cs with
    | '0' :: 'x' :: digits => (baseNumber? 16 digits).map Int.ofNat
    | '0' :: 'o' :: digits => (baseNumber? 8 digits).map Int.ofNat
    | '0' :: 'b' :: digits => (baseNumber? 2 digits).map Int.ofNat
    | _ => do
      let d ← decimal? cs
      if d.isWhole then some d.toInt else none
  if -2 ^ 63 ≤ n ∧ n < 2 ^ 63 then some n else none

/-- A number with a point or an exponent that is not too large, infinity, or what is no number. -/
def float? (cs : List Char) : Option (Binary .double) :=
  let (sign, rest) := cutSign cs
  match rest with
  | ['i', 'n', 'f'] => some (.infinity (sign == some '-'))
  | ['n', 'a', 'n'] => some .nan
  | _ => do
    let d ← decimal? cs
    if d.isWhole || !d.nearest.isFinite then none else some d.nearest

/-! ## Dates -/

/-- A number of exactly `n` digits between two bounds, and what follows it. -/
def field? (n low high : Nat) (cs : List Char) : Option (Nat × List Char) :=
  let digits := cs.take n
  let value := Json.digitsNumber digits
  if digits.length = n ∧ digits.all Char.isDigit ∧ low ≤ value ∧ value ≤ high then
    some (value, cs.drop n)
  else none

def daysOfMonth (year month : Nat) : Nat :=
  if month = 2 then
    if (year % 4 = 0 ∧ year % 100 ≠ 0) ∨ year % 400 = 0 then 29 else 28
  else if month = 4 ∨ month = 6 ∨ month = 9 ∨ month = 11 then 30
  else 31

def after? (c : Char) : List Char → Option (List Char)
  | d :: rest => if c = d then some rest else none
  | [] => none

def afterDate? (cs : List Char) : Option (List Char) := do
  let (year, cs) ← field? 4 0 9999 cs
  let (month, cs) ← field? 2 1 12 (← after? '-' cs)
  let (_, cs) ← field? 2 1 (daysOfMonth year month) (← after? '-' cs)
  return cs

def afterMinutes? (cs : List Char) : Option (List Char) := do
  let (_, cs) ← field? 2 0 23 cs
  let (_, cs) ← field? 2 0 59 (← after? ':' cs)
  return cs

/-- The digits of a fraction that are kept: nine at most, and no zeros at the end but the first. -/
def fractionDigits (digits : List Char) : List Char :=
  match ((digits.take 9).reverse.dropWhile (· == '0')).reverse with
  | [] => ['0']
  | kept => kept

/-- A time in its usual spelling, and what follows it. Seconds may be left out, and one of them may
be a leap second. -/
def time? (cs : List Char) : Option (List Char × List Char) := do
  let rest ← afterMinutes? cs
  match rest with
  | ':' :: rest =>
    let (_, rest) ← field? 2 0 60 rest
    match rest with
    | '.' :: rest =>
      let digits := rest.takeWhile Char.isDigit
      if digits.isEmpty then none
      else some (cs.take 8 ++ '.' :: fractionDigits digits, rest.dropWhile Char.isDigit)
    | rest => some (cs.take 8, rest)
  | rest => some (cs.take 5, rest)

/-- The characters say how far a time is from the common one, or nothing; this is their usual
spelling, in which no distance has a plus. -/
def zone? : List Char → Option (List Char)
  | [] => some []
  | ['Z'] | ['z'] => some ['Z']
  | c :: rest =>
    if (c == '+' || c == '-') && afterMinutes? rest == some [] then
      some ((if rest == ['0', '0', ':', '0', '0'] then '+' else c) :: rest)
    else none

/-- The usual spelling of a date, a time, or a date with a time behind it. -/
def date? (cs : List Char) : Option (List Char) :=
  match afterDate? cs with
  | none => do
    let (time, rest) ← time? cs
    if rest.isEmpty then some time else none
  | some [] => some cs
  | some (c :: rest) => do
    let (time, rest) ← time? rest
    let zone ← zone? rest
    if c = 'T' ∨ c = 't' ∨ c = ' ' then some (cs.take 10 ++ 'T' :: time ++ zone) else none

/-! ## Words -/

def Value.ofWord? (cs : List Char) : Option Value :=
  match String.ofList cs with
  | "true" => some (.bool true)
  | "false" => some (.bool false)
  | _ =>
    (integer? cs).map .integer <|> (float? cs).map .float <|>
      (date? cs).map fun text => .date (String.ofList text)

end Paperdoll.Toml
