import Paperdoll.Json.Relaxed
import Paperdoll.Json.Strict
import Paperdoll.Json.Value

/-!
# Reading records from documents

A record is written as an object, whose members may come in any order, or as an array of its
fields in their declared order. The two written forms differ in what they let pass: the
strict one insists on the length of arrays and on words written as whole numbers, but does not
look into members it does not know; the relaxed one takes any number for a word and leaves
out what an array has too many, but unknown members have to make sense. A **`Dialect`** holds
these differences.

A document is read in the order in which it is written, up to the first **`ReadFailure`**.
-/

namespace Paperdoll.Json

/-- Why a document cannot be read. -/
inductive ReadFailure
  /-- It does not hold what is wanted. -/
  | refused
  /-- Whether a word has a prefix is seen from its first two bytes. Where a word is wanted and
  these end inside a character, reading breaks off altogether. -/
  | brokenOff
deriving DecidableEq, Repr

abbrev Reading := Except ReadFailure

/-- A value, without which a document is refused. -/
def need {α : Type} : Option α → Reading α
  | some a => .ok a
  | none => .error .refused

/-- The rules by which documents of one written form become records. -/
structure Dialect where
  parse : String → Option Tree
  /-- The word that a number denotes. -/
  word? : Numeral → Option UInt32
  /-- Arrays may not be longer than what they are read as. -/
  exactLength : Bool
  /-- A value that nobody reads may be passed over. -/
  skips : Tree → Bool

/-! ## The strict form -/

def strictWord? (n : Numeral) : Option UInt32 :=
  match Number.ofNumeral? n with
  | some (.natural n) => if n < 2 ^ 32 then some (UInt32.ofNat n) else none
  | _ => none

def Dialect.strict : Dialect where
  parse := Strict.parse
  word? := strictWord?
  exactLength := true
  skips _ := true

/-! ## The relaxed form -/

/-- The word nearest to the integer part; what is no number counts as zero. -/
def wordOfBinary (x : Binary .double) : UInt32 :=
  if x.isNaN then 0
  else if x.negative then 0
  else if x.isFinite then UInt32.ofNat (min x.truncate.toNat (2 ^ 32 - 1))
  else UInt32.ofNat (2 ^ 32 - 1)

def relaxedDouble? : Numeral → Option (Binary .double)
  | .decimal d => if d.nearest.isFinite then some d.nearest else none
  | .hexadecimal n => some (.ofNat n)
  | .infinity negative => some (.infinity negative)
  | .nan => some .nan
  | .void => none

/-- A number text has a value: one without point and exponent fits into a signed number of
64 bits, any other is not too large. -/
def hasValue : Numeral → Bool
  | .decimal d =>
    if d.isWhole then -2 ^ 63 ≤ d.toInt && d.toInt < 2 ^ 63 else d.nearest.isFinite
  | .void => false
  | _ => true

namespace Tree

mutual

/-- All texts and numbers have values. -/
def makesSense : Tree → Bool
  | .null | .bool _ => true
  | .number n => hasValue n
  | .string s => s.isSome
  | .array items => itemsMakeSense items
  | .object members => membersMakeSense members
  | .wide t => t.makesSense

def itemsMakeSense : List Tree → Bool
  | [] => true
  | t :: ts => t.makesSense && itemsMakeSense ts

def membersMakeSense : List (Option String × Tree) → Bool
  | [] => true
  | (key, t) :: ts => key.isSome && t.makesSense && membersMakeSense ts

end

end Tree

def Dialect.relaxed : Dialect where
  parse := Relaxed.parse
  word? n := (relaxedDouble? n).map wordOfBinary
  exactLength := false
  skips := Tree.makesSense

/-! ## Parts of records -/

def Tree.toText? : Tree → Option String
  | .string s => s
  | .wide t => t.toText?
  | _ => none

/-- A value that may be `null`. -/
def Tree.optional {α : Type} (read : Tree → Reading α) : Tree → Reading (Option α)
  | .null => .ok none
  | t => (read t).map some

def Tree.items? : Tree → Option (List Tree)
  | .array items => some items
  | .wide t => t.items?
  | _ => none

def Tree.members? : Tree → Option (List (Option String × Tree))
  | .object members => some members
  | .wide t => t.members?
  | _ => none

namespace Dialect

variable (d : Dialect)

def readWord : Tree → Reading UInt32
  | .number n => need (d.word? n)
  | .wide _ => .error .brokenOff
  | _ => .error .refused

/-- An array of `n` words. It may be longer unless lengths are exact. -/
def readWords (n : Nat) (t : Tree) : Reading (List UInt32) := do
  let items ← need t.items?
  if d.exactLength && n < items.length then .error .refused
  else
    let words ← (items.take n).mapM d.readWord
    if words.length = n then return words else .error .refused

/-- Adds members to the fields read so far, which are in reverse order, up to the first that comes
twice or may not be passed over; the flag says that there is no such member. -/
def fieldsFrom (names : List String) (fields : List (String × Tree)) :
    List (Option String × Tree) → List (String × Tree) × Bool
  | [] => (fields.reverse, true)
  | (none, _) :: _ => (fields.reverse, false)
  | (some key, t) :: rest =>
    if names.contains key then
      if fields.any (·.1 == key) then (fields.reverse, false)
      else fieldsFrom names ((key, t) :: fields) rest
    else if d.skips t then fieldsFrom names fields rest
    else (fields.reverse, false)

/-- The fields with the given names, in the order in which they are written, up to the first member
that is at fault; the flag says that there is none. -/
def fields (names : List String) (t : Tree) : List (String × Tree) × Bool :=
  match t.members?, t.items? with
  | some members, _ => d.fieldsFrom names [] members
  | none, some items => (names.zip items, !(d.exactLength && names.length < items.length))
  | none, none => ([], false)

def readFields {ρ : Type} (names : List String) (read : ρ → String × Tree → Reading ρ)
    (record : ρ) (t : Tree) : Reading ρ := do
  let (fields, sound) := d.fields names t
  let record ← fields.foldlM read record
  if sound then return record else .error .refused

/-- The values of the fields with the given names; a field may be missing. -/
def fields? (names : List String) (t : Tree) : Option (List (Option Tree)) :=
  let (fields, sound) := d.fields names t
  if sound then some (names.map fun name => (fields.find? (·.1 == name)).map Prod.snd) else none

end Dialect

end Paperdoll.Json
