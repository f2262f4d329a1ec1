/-!
# Bytes as text

**`Utf8.decode`** reads a byte string as UTF-8. A reader that stops says where the sequence it
could not finish begins, and either how many of its bytes belong together or that the input
ended inside it. The second byte of a sequence is held to a range that depends on the first,
which keeps out overlong forms, surrogates and codes beyond the last character.

**`Utf8.decodeLossy`** never stops: a sequence that forms no character becomes one replacement
character, and reading goes on behind it.
-/

namespace Paperdoll.Text.Utf8

/-- Why bytes are no text. -/
inductive Fault
  /-- The `length` bytes at `index` begin no character. -/
  | invalid (length index : Nat)
  /-- The input ends inside the character that begins at `index`. -/
  | incomplete (index : Nat)
deriving DecidableEq, Repr

def Fault.message : Fault → String
  | .invalid length index => s!"invalid utf-8 sequence of {length} bytes from index {index}"
  | .incomplete index => s!"incomplete utf-8 byte sequence from index {index}"

/-- A character of which some bytes have been read: `code` holds the bits so far, `missing`
bytes follow, and the next of them lies between `low` and `high`. -/
structure Pending where
  start : Nat
  seen : Nat
  missing : Nat
  low : UInt8
  high : UInt8
  code : Nat

/-- What the first byte of a character of more than one byte announces. -/
def Pending.ofLead? (start : Nat) (b : UInt8) : Option Pending :=
  if 0xc2 ≤ b ∧ b ≤ 0xdf then some ⟨start, 1, 1, 0x80, 0xbf, b.toNat - 0xc0⟩
  else if b = 0xe0 then some ⟨start, 1, 2, 0xa0, 0xbf, 0⟩
  else if b = 0xed then some ⟨start, 1, 2, 0x80, 0x9f, 0xd⟩
  else if 0xe1 ≤ b ∧ b ≤ 0xef then some ⟨start, 1, 2, 0x80, 0xbf, b.toNat - 0xe0⟩
  else if b = 0xf0 then some ⟨start, 1, 3, 0x90, 0xbf, 0⟩
  else if 0xf1 ≤ b ∧ b ≤ 0xf3 then some ⟨start, 1, 3, 0x80, 0xbf, b.toNat - 0xf0⟩
  else if b = 0xf4 then some ⟨start, 1, 3, 0x80, 0x8f, 4⟩
  else none

def Pending.admits (p : Pending) (b : UInt8) : Bool :=
  p.low ≤ b && b ≤ p.high

def Pending.codeWith (p : Pending) (b : UInt8) : Nat :=
  64 * p.code + (b.toNat - 0x80)

/-- The character in progress with one more byte, after which others follow. -/
def Pending.push (p : Pending) (b : UInt8) : Pending :=
  ⟨p.start, p.seen + 1, p.missing - 1, 0x80, 0xbf, p.codeWith b⟩

/-- Reads on at `index`; `pending` is the character in progress and `done` holds the finished
ones, last first. -/
def decodeFrom (index : Nat) (pending : Option Pending) (done : List Char) :
    List UInt8 → Except Fault (List Char)
  | [] =>
    match pending with
    | none => .ok done.reverse
    | some p => .error (.incomplete p.start)
  | b :: bytes =>
    match pending with
    | none =>
      if b < 0x80 then decodeFrom (index + 1) none (Char.ofNat b.toNat :: done) bytes
      else
        match Pending.ofLead? index b with
        | none => .error (.invalid 1 index)
        | some p => decodeFrom (index + 1) (some p) done bytes
    | some p =>
      if p.admits b then
        if p.missing ≤ 1 then decodeFrom (index + 1) none (Char.ofNat (p.codeWith b) :: done) bytes
        else decodeFrom (index + 1) (some (p.push b)) done bytes
      else .error (.invalid p.seen p.start)

def decode (bytes : List UInt8) : Except Fault String :=
  (decodeFrom 0 none [] bytes).map String.ofList

def replacement : Char := '\ufffd'

/-- Reads on behind the bytes of `pending`. -/
def decodeLossyFrom (pending : Option Pending) : List UInt8 → List Char
  | [] => if pending.isSome then [replacement] else []
  | b :: bytes =>
    match pending.filter (·.admits b) with
    | some p =>
      if p.missing ≤ 1 then Char.ofNat (p.codeWith b) :: decodeLossyFrom none bytes
      else decodeLossyFrom (some (p.push b)) bytes
    | none =>
      (if pending.isSome then [replacement] else []) ++
        if b < 0x80 then Char.ofNat b.toNat :: decodeLossyFrom none bytes
        else
          match Pending.ofLead? 0 b with
          | none => replacement :: decodeLossyFrom none bytes
          | some p => decodeLossyFrom (some p) bytes

/-- The text that the bytes encode, as far as they do. -/
def decodeLossy (bytes : List UInt8) : String :=
  String.ofList (decodeLossyFrom none bytes)

end Paperdoll.Text.Utf8
