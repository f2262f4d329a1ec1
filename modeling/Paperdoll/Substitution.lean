import Paperdoll.Color
import Paperdoll.Text.Split
import Std.Data.TreeMap

/-!
# Substitutions

A substitution sends finitely many colors to other colors and leaves the rest alone. It is one
simultaneous look-up: **`Substitution.apply`** asks once for a color and never follows a chain.
`ofArgs` reads one from arguments of the form `FROM=TO`; of two pairs with the same source the
later one counts.
-/

namespace Paperdoll

/-- A finite map from colors to colors. -/
structure Substitution where
  map : Std.TreeMap Color Color := ∅

namespace Substitution

def empty : Substitution := {}

def insert (s : Substitution) (source target : Color) : Substitution :=
  ⟨s.map.insert source target⟩

def get? (s : Substitution) (c : Color) : Option Color :=
  s.map[c]?

def size (s : Substitution) : Nat :=
  s.map.size

def isEmpty (s : Substitution) : Bool :=
  s.map.isEmpty

def pairs (s : Substitution) : List (Color × Color) :=
  s.map.toList

instance : BEq Substitution := ⟨fun s t => s.pairs == t.pairs⟩

/-- The color that takes the place of a color. -/
def apply (s : Substitution) (c : Color) : Color :=
  (s.get? c).getD c

@[simp]
theorem get?_empty (c : Color) : empty.get? c = none := by
  simp [empty, get?]

theorem get?_insert (s : Substitution) (source target c : Color) :
    (s.insert source target).get? c = if source = c then some target else s.get? c := by
  simp [insert, get?, Std.TreeMap.getElem?_insert]

/-! ## Reading -/

/-- The pair that an argument `FROM=TO` denotes; the source is read first. -/
def parsePair (arg : String) : Except Error (Color × Color) :=
  match Text.cutOnce '=' arg with
  | none => .error (.invalidColor arg .noAssignment)
  | some (source, target) => do
    let source ← Color.parse source
    let target ← Color.parse target
    return (source, target)

/-- Adds the pairs of the arguments, from the first to the last; empty arguments are skipped. -/
def insertArgs (s : Substitution) : List String → Except Error Substitution
  | [] => .ok s
  | arg :: rest =>
    if arg.isEmpty then s.insertArgs rest
    else do
      let (source, target) ← parsePair arg
      (s.insert source target).insertArgs rest

/-- The substitution that the arguments of a directive denote. -/
def ofArgs (args : List String) : Except Error Substitution :=
  empty.insertArgs args

end Substitution

end Paperdoll
