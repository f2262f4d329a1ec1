import Paperdoll.Directive
import Paperdoll.Substitution

/-!
# Recolorings

A recoloring is a tree of substitutions that run one after the other. **`Recoloring.apply`** is
what it does to a color; alpha takes no part. `parse` builds the recoloring of a directive text:
every `replace` is put inside what came before it, so that the last directive of the text sees
a color first and the first directive has the final say. Other commands do nothing.

The smart constructors `replace` and `compose` drop what does nothing, so that a built recoloring
is `same` or holds substitutions only.
-/

namespace Paperdoll

/-- A transformation of colors. -/
inductive Recoloring
  /-- Every color stays. -/
  | same
  | table (s : Substitution)
  /-- First `inner`, then `outer`. -/
  | after (outer inner : Recoloring)

namespace Recoloring

instance : Inhabited Recoloring := ⟨same⟩

/-- The recoloring of one substitution, which is `same` if that is empty. -/
def replace (s : Substitution) : Recoloring :=
  if s.isEmpty then same else table s

/-- First `inner`, then `outer`, leaving out what does nothing. -/
def compose : Recoloring → Recoloring → Recoloring
  | same, inner => inner
  | outer, same => outer
  | outer, inner => after outer inner

def isSame : Recoloring → Bool
  | same => true
  | _ => false

/-- The number of substitutions. -/
def depth : Recoloring → Nat
  | same => 0
  | table _ => 1
  | after outer inner => outer.depth + inner.depth

/-- The leaves from the one applied last to the one applied first; `none` stands for `same`. -/
def leaves : Recoloring → List (Option Substitution)
  | same => [none]
  | table s => [some s]
  | after outer inner => outer.leaves ++ inner.leaves

def tables (m : Recoloring) : List Substitution :=
  m.leaves.filterMap id

/-- Two trees of one shape with the same pairs at the same places. -/
def beq : Recoloring → Recoloring → Bool
  | same, same => true
  | table s, table t => s == t
  | after outer inner, after outer' inner' => outer.beq outer' && inner.beq inner'
  | _, _ => false

instance : BEq Recoloring := ⟨beq⟩

/-! ## From directives -/

/-- Puts the directives inside `m`, one after the other. -/
def addDirectives (m : Recoloring) : List Directive → Except Error Recoloring
  | [] => .ok m
  | d :: ds =>
    if d.isReplace then do
      let s ← Substitution.ofArgs d.args
      (m.compose (replace s)).addDirectives ds
    else m.addDirectives ds

/-- The recoloring of a list of directives, the first of which acts last. -/
def ofDirectives (ds : List Directive) : Except Error Recoloring :=
  addDirectives same ds

/-- The recoloring of a directive text. -/
def parse (text : String) : Except Error Recoloring := do
  let ds ← Directive.parseAll text
  ofDirectives ds

/-! ## Action -/

/-- What becomes of a color. -/
def apply : Recoloring → Color → Color
  | same, c => c
  | table s, c => s.apply c
  | after outer inner, c => outer.apply (inner.apply c)

/-- Changes the color at the front of a byte string and keeps the bytes behind it. A recoloring
without substitutions reads nothing; any other fails on fewer than three bytes. -/
def applyFront? (m : Recoloring) (bytes : List UInt8) : Option (List UInt8) :=
  if m.depth = 0 then some bytes
  else
    match bytes with
    | red :: green :: blue :: rest =>
      let c := m.apply ⟨red, green, blue⟩
      some (c.red :: c.green :: c.blue :: rest)
    | _ => none

/-- Changes the color of every four bytes; a shorter rest stays. -/
def applyPixels (m : Recoloring) : List UInt8 → List UInt8
  | red :: green :: blue :: alpha :: rest =>
    let c := m.apply ⟨red, green, blue⟩
    c.red :: c.green :: c.blue :: alpha :: m.applyPixels rest
  | rest => rest

def applyBuffer (m : Recoloring) (bytes : List UInt8) : List UInt8 :=
  -- The whole string is left alone without a look at it.
  if m.isSame then bytes else m.applyPixels bytes

theorem applyPixels_same : ∀ bytes, same.applyPixels bytes = bytes
  | [] | [_] | [_, _] | [_, _, _] => rfl
  | red :: green :: blue :: alpha :: rest => by
    rw [applyPixels, applyPixels_same rest, apply]

theorem applyBuffer_eq (m : Recoloring) (bytes : List UInt8) :
    m.applyBuffer bytes = m.applyPixels bytes := by
  unfold applyBuffer
  cases m with
  | same => exact (applyPixels_same bytes).symm
  | table s => rfl
  | after outer inner => rfl

end Recoloring

end Paperdoll
