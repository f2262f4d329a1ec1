import Paperdoll.Json.Tree
import Std.Data.TreeMap

/-!
# Values in the strict form

**`Number.ofNumeral?`** sorts number texts into natural numbers of 64 bits, negative integers of
64 bits, and floating-point numbers for all the rest.

**`Tree.canonical?`** is the form in which a document is kept for later: every text and number has
a value, the members of an object are sorted by key with the last of equal keys kept, and
containers are nested no deeper than allowed. `Tree.text` writes such a document compactly.
-/

namespace Paperdoll.Json

/-! ## Numbers -/

/-- A number by the way in which its value is held. -/
inductive Number
  | natural (n : Nat)
  | negative (n : Nat)
  | float (x : Binary .double)
deriving DecidableEq, Repr

namespace Number

/-- The value of a number text; only decimal ones that are not too large have one. -/
def ofNumeral? : Numeral → Option Number
  | .decimal d =>
    let w := d.wholeWindow
    if d.isWhole && !w.full then
      if !d.negative then some (.natural w.value)
      -- The negative zero is no integer, and integers end at the negative range of 64 bits.
      else if w.value = 0 ∨ 2 ^ 63 < w.value then
        some (.float { (Binary.ofNat w.value : Binary .double) with negative := true })
      else some (.negative w.value)
    else d.windowed.map .float
  | _ => none

/-- The nearest number of another format, rounded from the form in which the value is held. -/
def toBinary (g : BinaryFormat) : Number → Binary g
  | .natural n => .ofRatio false n 1
  | .negative n => .ofRatio true n 1
  | .float x => x.convert g

/-- Numbers of 64 bits are written without an exponent from `0.00001` to below `10 ^ 16`. -/
def doubleStyle : NotationStyle := ⟨-5, 16⟩

/-- Numbers of 32 bits are written without an exponent from `0.000001` to below `10 ^ 13`. -/
def singleStyle : NotationStyle := ⟨-6, 13⟩

/-- The text of a floating-point number; there is none for infinity. -/
def binaryText (style : NotationStyle) {f : BinaryFormat} (x : Binary f) : String :=
  if x.isFinite then style.text x else "null"

def text : Number → String
  | .natural n => toString n
  | .negative n => "-" ++ toString n
  | .float x => binaryText doubleStyle x

end Number

/-! ## Writing -/

def escapeChar (c : Char) : List Char :=
  if c = '"' ∨ c = '\\' then ['\\', c]
  else if c = '\x08' then ['\\', 'b']
  else if c = '\x0c' then ['\\', 'f']
  else if c = '\n' then ['\\', 'n']
  else if c = '\r' then ['\\', 'r']
  else if c = '\t' then ['\\', 't']
  else if c.toNat < 0x20 then
    ['\\', 'u', '0', '0', Nat.digitChar (c.toNat / 16), Nat.digitChar (c.toNat % 16)]
  else [c]

def quoted (s : String) : String :=
  String.ofList ('"' :: s.toList.flatMap escapeChar ++ ['"'])

/-- An array of parts that are already written. -/
def arrayText (items : List String) : String :=
  "[" ++ ",".intercalate items ++ "]"

def objectText (members : List (String × String)) : String :=
  "\x7b" ++ ",".intercalate (members.map fun m => quoted m.1 ++ ":" ++ m.2) ++ "\x7d"

namespace Tree

mutual

/-- The compact text of a document; what has no value is written as `null`. -/
def text : Tree → String
  | .null => "null"
  | .bool b => if b then "true" else "false"
  | .number n => ((Number.ofNumeral? n).map Number.text).getD "null"
  | .string s => (s.map quoted).getD "null"
  | .array items => arrayText (itemTexts items)
  | .object members => objectText (memberTexts members)
  | .wide t => t.text

def itemTexts : List Tree → List String
  | [] => []
  | t :: ts => t.text :: itemTexts ts

def memberTexts : List (Option String × Tree) → List (String × String)
  | [] => []
  | (key, t) :: ts => (key.getD "", t.text) :: memberTexts ts

end

/-! ## Canonical documents -/

/-- The members by key, the last of equal keys kept. -/
def sortMembers (members : List (String × Tree)) : List (Option String × Tree) :=
  let map : Std.TreeMap String Tree := members.foldl (fun map m => map.insert m.1 m.2) ∅
  map.toList.map fun m => (some m.1, m.2)

mutual

/-- The canonical form of a document with containers at most `depth` deep. -/
def canonical? (depth : Nat) : Tree → Option Tree
  | .null => some .null
  | .bool b => some (.bool b)
  | .number n => (Number.ofNumeral? n).map fun _ => .number n
  | .string s => s.map fun s => .string (some s)
  | .array items =>
    if depth = 0 then none else (canonicalItems? (depth - 1) items).map .array
  | .object members =>
    if depth = 0 then none
    else (canonicalMembers? (depth - 1) members).map fun ms => .object (sortMembers ms)
  | .wide t => canonical? depth t

def canonicalItems? (depth : Nat) : List Tree → Option (List Tree)
  | [] => some []
  | t :: ts => do
    let t ← canonical? depth t
    let ts ← canonicalItems? depth ts
    return t :: ts

def canonicalMembers? (depth : Nat) : List (Option String × Tree) → Option (List (String × Tree))
  | [] => some []
  | (key, t) :: ts => do
    let key ← key
    let t ← canonical? depth t
    let ts ← canonicalMembers? depth ts
    return (key, t) :: ts

end

def member? (key : String) : Tree → Option Tree
  | .object members => (members.find? fun m => m.1 == some key).map Prod.snd
  | _ => none

end Tree

end Paperdoll.Json
