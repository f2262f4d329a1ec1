import Paperdoll.Json.Tree
import Paperdoll.Text.Hex
import Paperdoll.Text.Name

/-!
# The relaxed written form

Beside the strict form this one has comments, keys without quotes, single quotes, commas at the
end of containers, more escapes, lines that go on behind a backslash, hexadecimal numbers,
infinity and what is no number, and all blanks of the Unicode standard. **`Relaxed.lex`** is an
automaton like the strict one, with modes for comments and escapes.
-/

namespace Paperdoll.Json.Relaxed

/-- Where the reader is; runs and texts are held in reverse order. -/
inductive Mode
  | between
  /-- Behind a slash that has to start a comment. -/
  | slash
  | lineComment
  | blockComment
  /-- Behind a star inside a comment. -/
  | blockStar
  /-- Inside a number or a name. -/
  | run (units : List TextUnit)
  | runEscape (units : List TextUnit)
  | runCode (units : List TextUnit) (missing value : Nat)
  | text (quote : Char) (units : List TextUnit)
  | escape (quote : Char) (units : List TextUnit)
  /-- Behind a backslash and a carriage return, which may be half of a line end. -/
  | lineEnd (quote : Char) (units : List TextUnit)
  | code (quote : Char) (units : List TextUnit) (missing value : Nat)
  /-- Inside a code that is written with two digits. -/
  | byte (quote : Char) (units : List TextUnit) (missing value : Nat)

structure State where
  mode : Mode
  /-- The tokens read, the last one first. -/
  tokens : List Token

def isLineTerminator (c : Char) : Bool :=
  c == '\n' || c == '\r' || c == '\u2028' || c == '\u2029'

/-- Blanks between tokens: those of ASCII, the byte order mark, and the space separators. -/
def isBlank (c : Char) : Bool :=
  let n := c.toNat
  isLineTerminator c || n == 0x9 || n == 0xb || n == 0xc || n == 0x20 || n == 0xa0 ||
    n == 0x1680 || (0x2000 ≤ n && n ≤ 0x200a) || n == 0x202f || n == 0x205f || n == 0x3000 ||
    n == 0xfeff

def punctuation? : Char → Option Token
  | '[' => some .openArray
  | ']' => some .closeArray
  | '\x7b' => some .openObject
  | '\x7d' => some .closeObject
  | ',' => some .comma
  | ':' => some .colon
  | _ => none

def isRunChar (c : Char) : Bool :=
  c == '+' || c == '-' || c == '.' || Text.continuesName c

/-! ## Runs -/

/-- The characters of a run without codes. -/
def plainChars? : List TextUnit → Option (List Char)
  | [] => some []
  | .char c :: rest => (plainChars? rest).map (c :: ·)
  | .code _ :: _ => none

def unsigned? (sign : Option Char) (cs : List Char) : Option Numeral :=
  let negative := sign == some '-'
  match cs with
  | ['I', 'n', 'f', 'i', 'n', 'i', 't', 'y'] =>
    some (if sign = some '+' then .void else .infinity negative)
  | ['N', 'a', 'N'] => some (if sign = some '+' then .void else .nan)
  | '0' :: x :: digits =>
    if x = 'x' ∨ x = 'X' then
      if digits.isEmpty || !digits.all Text.isHexDigit then none
      else
        let n := Text.hexNumber digits
        some (if sign.isSome ∨ 2 ^ 32 ≤ n then .void else .hexadecimal n)
    else decimal? negative cs
  | cs => decimal? negative cs
where
  /-- A decimal number with a digit before or behind the point. -/
  decimal? (negative : Bool) (cs : List Char) : Option Numeral := do
    let d ← DecimalText.read? negative cs
    let hasDigit := if d.whole.isEmpty then (d.fraction.getD []) != [] else d.hasPlainWhole
    if hasDigit then some (.decimal d) else none

/-- The number that a run writes. -/
def numeral? (cs : List Char) : Option Numeral :=
  match cs with
  | '+' :: rest => unsigned? (some '+') rest
  | '-' :: rest => unsigned? (some '-') rest
  | rest => unsigned? none rest

/-- The meaning of a name where a value stands. -/
def keyword? (cs : List Char) : Option Tree :=
  match String.ofList cs with
  | "null" => some .null
  | "true" => some (.bool true)
  | "false" => some (.bool false)
  | "Infinity" => some (.number (.infinity false))
  | "NaN" => some (.number .nan)
  | _ => none

/-- A piece that may start a name; a code may always. -/
def startsName : TextUnit → Bool
  | .char c => Text.startsName c
  | .code _ => true

def continuesName : TextUnit → Bool
  | .char c => Text.continuesName c
  | .code _ => true

/-- The character whose two halves carry these bits. The mark of the upper planes is not added to
them but laid over them, so that planes with an even number fall onto those before them. -/
def joinHalves (high low : Nat) : Nat :=
  0x10000 ||| (high <<< 10) ||| low

/-- The token that a run writes. -/
def runToken? (units : List TextUnit) : Option Token :=
  match units with
  | [] => none
  | first :: rest =>
    if startsName first then
      if rest.all continuesName then
        some (.name (joinUnits joinHalves units) ((plainChars? units).bind keyword?))
      else none
    else do
      let cs ← plainChars? units
      let n ← numeral? cs
      return .scalar (.number n)

/-! ## The automaton -/

/-- The character that a backslash and a character stand for: digits, `x` and `u` begin other
forms, and any character without a meaning of its own stands for itself. -/
def escaped? (c : Char) : Option Char :=
  match c with
  | 'b' => some '\x08'
  | 'f' => some '\x0c'
  | 'n' => some '\n'
  | 'r' => some '\r'
  | 't' => some '\t'
  | 'v' => some '\x0b'
  | '0' => some '\x00'
  | c => if c.isDigit then none else some c

def opens : Token → Bool
  | .openArray | .openObject => true
  | _ => false

/-- Reads a character that stands between tokens; `isWide` says that the next one takes more than
one byte. -/
def enter (tokens : List Token) (c : Char) (isWide : Bool) : Option State :=
  let marked := if isWide then .wide :: tokens else tokens
  if isBlank c then some ⟨.between, tokens⟩
  else if c = '"' ∨ c = '\x27' then some ⟨.text c [], marked⟩
  else if c = '/' then some ⟨.slash, tokens⟩
  else if c = '\\' then some ⟨.runEscape [], tokens⟩
  else
    match punctuation? c with
    | some token => some ⟨.between, token :: if opens token then marked else tokens⟩
    | none => if isRunChar c then some ⟨.run [.char c], tokens⟩ else none

/-- Reads a character inside a quoted text. -/
def stepText (tokens : List Token) (quote : Char) (units : List TextUnit) (c : Char) :
    Option State :=
  if c = quote then some ⟨.between, .string (joinUnits joinHalves units.reverse) :: tokens⟩
  else if c = '\\' then some ⟨.escape quote units, tokens⟩
  else if isLineTerminator c then none
  else some ⟨.text quote (.char c :: units), tokens⟩

/-- Reads a character; `isWide` says that the next one takes more than one byte. -/
def step (s : State) (c : Char) (isWide : Bool) : Option State :=
  let goTo (mode : Mode) : Option State := some ⟨mode, s.tokens⟩
  match s.mode with
  | .between => enter s.tokens c isWide
  | .slash =>
    if c = '/' then goTo .lineComment else if c = '*' then goTo .blockComment else none
  | .lineComment => goTo (if isLineTerminator c then .between else .lineComment)
  | .blockComment => goTo (if c = '*' then .blockStar else .blockComment)
  | .blockStar =>
    goTo (if c = '/' then .between else if c = '*' then .blockStar else .blockComment)
  | .run units =>
    if c = '\\' then goTo (.runEscape units)
    else if isRunChar c then goTo (.run (.char c :: units))
    else do
      let token ← runToken? units.reverse
      enter (token :: s.tokens) c isWide
  | .runEscape units => if c = 'u' then goTo (.runCode units 4 0) else none
  | .runCode units missing value => do
    let digit ← Text.hexValue? c
    let value := 16 * value + digit
    goTo (if missing ≤ 1 then .run (.code value :: units) else .runCode units (missing - 1) value)
  | .text quote units => stepText s.tokens quote units c
  | .escape quote units =>
    if c = 'u' then goTo (.code quote units 4 0)
    else if c = 'x' then goTo (.byte quote units 2 0)
    else if c = '\r' then goTo (.lineEnd quote units)
    else if isLineTerminator c then goTo (.text quote units)
    else (escaped? c).bind fun c => goTo (.text quote (.char c :: units))
  | .lineEnd quote units =>
    if c = '\n' then goTo (.text quote units) else stepText s.tokens quote units c
  | .code quote units missing value => do
    let digit ← Text.hexValue? c
    let value := 16 * value + digit
    goTo (if missing ≤ 1 then .text quote (.code value :: units)
      else .code quote units (missing - 1) value)
  | .byte quote units missing value => do
    let digit ← Text.hexValue? c
    let value := 16 * value + digit
    goTo (if missing ≤ 1 then .text quote (.char (Char.ofNat value) :: units)
      else .byte quote units (missing - 1) value)

/-- The tokens at the end of the input, in order. -/
def finish (s : State) : Option (List Token) :=
  match s.mode with
  | .between | .lineComment => some s.tokens.reverse
  | .run units => (runToken? units.reverse).map fun t => (t :: s.tokens).reverse
  | _ => none

def lex (cs : List Char) : Option (List Token) := do
  let nextIsWide := (cs.drop 1).map fun c => decide (0x7f < c.toNat)
  let last ← (cs.zip (nextIsWide ++ [false])).foldlM (fun s (c, isWide) => step s c isWide)
    ⟨.between, []⟩
  finish last

def parse (text : String) : Option Tree := do
  let tokens ← lex text.toList
  parseTokens true tokens

end Paperdoll.Json.Relaxed
