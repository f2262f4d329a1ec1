import Paperdoll.Json.Tree
import Paperdoll.Text.Hex

/-!
# The strict written form

Double quotes, no comments, no comma at the end of a container, four blanks only. **`Strict.lex`**
runs over the characters with a small automaton: between tokens, inside a run of characters that
is to be a number or a keyword, or inside a quoted text. A run is read as a whole when it
ends; since no two scalars may stand side by side, this accepts what reading the longest
number or keyword would.
-/

namespace Paperdoll.Json.Strict

/-- Where the reader is; runs and texts are held in reverse order. -/
inductive Mode
  | between
  | run (chars : List Char)
  | text (units : List TextUnit)
  /-- Behind a backslash. -/
  | escape (units : List TextUnit)
  /-- Inside a code of which so many digits are missing. -/
  | code (units : List TextUnit) (missing value : Nat)

structure State where
  mode : Mode
  /-- The tokens read, the last one first. -/
  tokens : List Token

def isBlank (c : Char) : Bool :=
  c == ' ' || c == '\t' || c == '\n' || c == '\r'

def punctuation? : Char → Option Token
  | '[' => some .openArray
  | ']' => some .closeArray
  | '\x7b' => some .openObject
  | '\x7d' => some .closeObject
  | ',' => some .comma
  | ':' => some .colon
  | _ => none

def isRunChar (c : Char) : Bool :=
  c.isAlphanum || c == '+' || c == '-' || c == '.'

def numeral? (chars : List Char) : Option Numeral := do
  let (negative, digits) := match chars with
    | '-' :: rest => (true, rest)
    | rest => (false, rest)
  let d ← DecimalText.read? negative digits
  if d.hasPlainWhole && d.fraction != some [] then some (.decimal d) else none

def runToken? (chars : List Char) : Option Token :=
  match String.ofList chars with
  | "null" => some (.scalar .null)
  | "true" => some (.scalar (.bool true))
  | "false" => some (.scalar (.bool false))
  | _ => (numeral? chars).map fun n => .scalar (.number n)

def escaped? : Char → Option Char
  | '"' => some '"'
  | '\\' => some '\\'
  | '/' => some '/'
  | 'b' => some '\x08'
  | 'f' => some '\x0c'
  | 'n' => some '\n'
  | 'r' => some '\r'
  | 't' => some '\t'
  | _ => none

def joinHalves (high low : Nat) : Nat :=
  0x10000 + 0x400 * high + low

def enter (tokens : List Token) (c : Char) : Option State :=
  if isBlank c then some ⟨.between, tokens⟩
  else if c = '"' then some ⟨.text [], tokens⟩
  else if isRunChar c then some ⟨.run [c], tokens⟩
  else (punctuation? c).map fun t => ⟨.between, t :: tokens⟩

def step (s : State) (c : Char) : Option State :=
  match s.mode with
  | .between => enter s.tokens c
  | .run chars =>
    if isRunChar c then some ⟨.run (c :: chars), s.tokens⟩
    else do
      let token ← runToken? chars.reverse
      enter (token :: s.tokens) c
  | .text units =>
    if c = '"' then some ⟨.between, .string (joinUnits joinHalves units.reverse) :: s.tokens⟩
    else if c = '\\' then some ⟨.escape units, s.tokens⟩
    else if c.toNat < 0x20 then none
    else some ⟨.text (.char c :: units), s.tokens⟩
  | .escape units =>
    if c = 'u' then some ⟨.code units 4 0, s.tokens⟩
    else (escaped? c).map fun c => ⟨.text (.char c :: units), s.tokens⟩
  | .code units missing value => do
    let digit ← Text.hexValue? c
    let value := 16 * value + digit
    return ⟨if missing ≤ 1 then .text (.code value :: units) else .code units (missing - 1) value,
      s.tokens⟩

def finish (s : State) : Option (List Token) :=
  match s.mode with
  | .between => some s.tokens.reverse
  | .run chars => (runToken? chars.reverse).map fun t => (t :: s.tokens).reverse
  | _ => none

def lex (cs : List Char) : Option (List Token) := do
  let last ← cs.foldlM step ⟨.between, []⟩
  finish last

/-- The document that a text writes in the strict form. -/
def parse (text : String) : Option Tree := do
  let tokens ← lex text.toList
  parseTokens false tokens

end Paperdoll.Json.Strict
