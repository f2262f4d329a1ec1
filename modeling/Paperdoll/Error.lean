import Paperdoll.Character.Slot
import Paperdoll.Number.Power
import Paperdoll.Text.Quoted

/-!
# What can go wrong

One type holds the causes for which a directive is refused, a frame table cannot be built or
a drawing stops. A cause carries what a caller may ask about; its wording is written once, in
**`Error.message`**.
-/

namespace Paperdoll

/-- Why a text denotes no color, or no pair of colors. -/
inductive ColorFault
  | empty
  | notHexadecimal
  | unevenLength
  | noAssignment
deriving DecidableEq, Repr

def ColorFault.message : ColorFault → String
  | .empty => "empty color"
  | .notHexadecimal => "non-hexadecimal digit"
  | .unevenLength => "length is not a multiple of 3 (or an RGBA form)"
  | .noAssignment => "expected FROM=TO"

/-- Why frame declarations contradict themselves. -/
inductive FrameFault
  /-- The grid names a row beyond its declared `columns` and `rows`. -/
  | rowOutside (row : Nat) (columns rows : UInt32)
  /-- The grid names a column beyond its declared `columns` and `rows`. -/
  | columnOutside (column : Nat) (columns rows : UInt32)
  /-- A rectangle ends before it starts. -/
  | inverted (name : String) (left top right bottom : UInt32)
deriving DecidableEq, Repr

def bracketed (numbers : List Nat) : String :=
  "[" ++ ", ".intercalate (numbers.map toString) ++ "]"

def FrameFault.message : FrameFault → String
  | .rowOutside row columns rows =>
    s!"row {row} exceeds grid dimensions " ++ bracketed [columns.toNat, rows.toNat]
  | .columnOutside column columns rows =>
    s!"column {column} exceeds grid dimensions " ++ bracketed [columns.toNat, rows.toNat]
  | .inverted name left top right bottom =>
    "frame " ++ Text.quote name ++ " has inverted rectangle " ++
      bracketed [left.toNat, top.toNat, right.toNat, bottom.toNat]

/-- Why no canvas of a size can be had. -/
inductive CanvasFault
  | emptySide (width height : UInt32)
  | sideTooLong (width height : UInt32)
deriving DecidableEq, Repr

/-- The longest side of a canvas. -/
def maxCanvasSide : Nat := 16384

def CanvasFault.message : CanvasFault → String
  | .emptySide width height => s!"cannot create a {width}x{height} canvas"
  | .sideTooLong width height =>
    s!"canvas {width}x{height} exceeds {maxCanvasSide} pixels per side"

/-- The bytes that the pixels of a bitmap fill, unless their number exceeds 64 bits. -/
def byteLength? (width height : UInt32) : Option Nat :=
  let length := width.toNat * height.toNat * 4
  if length < 2 ^ 64 then some length else none

inductive Error
  /-- The segment with this number among the non-empty ones has no command. -/
  | malformedDirective (index : Nat) (segment : String)
  | invalidColor (value : String) (fault : ColorFault)
  | frameMismatch (fault : FrameFault)
  | frameNotFound (name : String)
  | noCanvas (fault : CanvasFault)
  /-- The bytes given are not as many as the size needs. -/
  | invalidBitmap (width height : UInt32) (given : Nat)
  | missingSheet (slot : Slot)
deriving DecidableEq, Repr

namespace Error

def message : Error → String
  | .malformedDirective index segment =>
    s!"Malformed directive segment #{index} (" ++ Text.quote segment ++ "): empty command"
  | .invalidColor value fault => "Invalid color " ++ Text.quote value ++ ": " ++ fault.message
  | .frameMismatch fault => "Sprite sheet does not match frame data: " ++ fault.message
  | .frameNotFound name => "Frame " ++ Text.quote name ++ " not found in sprite sheet"
  | .noCanvas fault => "Rendering surface unavailable: " ++ fault.message
  | .invalidBitmap width height given =>
    -- A length beyond 64 bits is reported as the largest one within them.
    let needed := (byteLength? width height).getD (2 ^ 64 - 1)
    s!"Invalid bitmap: {width}x{height} needs {needed} bytes, got {given} bytes"
  | .missingSheet slot => "Missing sprite sheet for " ++ slot.name

/-- The sheets of a character contradict each other or their frame tables, as opposed to a bad
directive or a surface that cannot be had. -/
def isAssetInconsistency : Error → Bool
  | .frameMismatch _ | .frameNotFound _ | .missingSheet _ => true
  | _ => false

theorem bind_eq_ok {α β : Type} {x : Except Error α} {f : α → Except Error β} {b : β} :
    (x >>= f) = .ok b ↔ ∃ a, x = .ok a ∧ f a = .ok b := by
  cases x with
  | error e =>
    constructor
    · intro h
      cases h
    · rintro ⟨_, h, -⟩
      cases h
  | ok a =>
    constructor
    · intro h
      exact ⟨a, rfl, h⟩
    · rintro ⟨_, h, hf⟩
      cases h
      exact hf

theorem bind_eq_error {ε α β : Type} {x : Except ε α} {f : α → Except ε β} {e : ε} :
    (x >>= f) = .error e ↔ x = .error e ∨ ∃ a, x = .ok a ∧ f a = .error e := by
  cases x with
  | error e' =>
    constructor
    · intro h
      cases h
      exact .inl rfl
    · rintro (h | ⟨_, h, -⟩)
      · cases h
        rfl
      · cases h
  | ok a =>
    constructor
    · intro h
      exact .inr ⟨a, rfl, h⟩
    · rintro (h | ⟨_, h, hf⟩)
      · cases h
      · cases h
        exact hf

@[simp]
theorem mapError_ok {ε ε' α : Type} (f : ε → ε') (a : α) :
    (Except.ok a : Except ε α).mapError f = .ok a := rfl

@[simp]
theorem mapError_error {ε ε' α : Type} (f : ε → ε') (e : ε) :
    (Except.error e : Except ε α).mapError f = .error (f e) := rfl

theorem mapError_eq_ok {ε ε' α : Type} {x : Except ε α} {f : ε → ε'} {a : α} :
    x.mapError f = .ok a ↔ x = .ok a := by
  cases x <;> simp

theorem mapError_eq_error {ε ε' α : Type} {x : Except ε α} {f : ε → ε'} {e' : ε'} :
    x.mapError f = .error e' ↔ ∃ e, x = .error e ∧ f e = e' := by
  cases x <;> simp

theorem eq_ok_of_toOption {α : Type} {x : Except Error α} {a : α} (h : x.toOption = some a) :
    x = .ok a := by
  cases x with
  | error e => cases h
  | ok b => exact congrArg Except.ok (Option.some.inj h)

end Error

end Paperdoll
