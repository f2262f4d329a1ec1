import Paperdoll.Json.Numeral

/-!
# Documents and their grammar

A document is a tree of arrays and objects over scalars. The tree keeps what a reader may still
refuse: numbers as they are written, texts whose escapes may fail to form characters, and where a
value goes on, after its first character, with one that takes several bytes.

**`Grammar.parse`** builds the tree from tokens with an explicit stack of the containers that are
open, so that nesting is bounded by nothing but the length of the document. The two written
forms of documents differ in their tokens and in whether a comma may end a container; both
share this machine.
-/

namespace Paperdoll.Json

/-! ## Texts -/

/-- A piece of a text: a character, or a code written with four hexadecimal digits. -/
inductive TextUnit
  | char (c : Char)
  | code (n : Nat)
deriving DecidableEq, Repr

def isHighSurrogate (n : Nat) : Bool := 0xd800 ≤ n && n < 0xdc00

/-- The second half of a character beyond 16 bits. -/
def isLowSurrogate (n : Nat) : Bool := 0xdc00 ≤ n && n < 0xe000

/-- The characters of the pieces, after those in `done`, which are in reverse order. A half
without its other half forms no character; `join` forms one of the ten bits of each. -/
def joinUnitsFrom (join : Nat → Nat → Nat) (done : List Char) : List TextUnit → Option (List Char)
  | [] => some done.reverse
  | .char c :: rest => joinUnitsFrom join (c :: done) rest
  | .code high :: .code low :: rest =>
    if isHighSurrogate high && isLowSurrogate low then
      joinUnitsFrom join (Char.ofNat (join (high - 0xd800) (low - 0xdc00)) :: done) rest
    else if isHighSurrogate high || isLowSurrogate high then none
    else joinUnitsFrom join (Char.ofNat high :: done) (.code low :: rest)
  | .code n :: rest =>
    if isHighSurrogate n || isLowSurrogate n then none
    else joinUnitsFrom join (Char.ofNat n :: done) rest

/-- The text that pieces form, if every half has its other half. -/
def joinUnits (join : Nat → Nat → Nat) (units : List TextUnit) : Option String :=
  (joinUnitsFrom join [] units).map String.ofList

/-! ## Trees and tokens -/

/-- A document. -/
inductive Tree
  | null
  | bool (b : Bool)
  | number (n : Numeral)
  /-- A text, or nothing if its escapes form no characters. -/
  | string (text : Option String)
  | array (items : List Tree)
  | object (members : List (Option String × Tree))
  /-- A text or a container whose second character takes more than one byte. -/
  | wide (value : Tree)

instance : Inhabited Tree := ⟨.null⟩

inductive Token
  | openArray
  | closeArray
  | openObject
  | closeObject
  | comma
  | colon
  | scalar (value : Tree)
  /-- A quoted text, which may be a value or a key. -/
  | string (text : Option String)
  /-- A name without quotes, which may be a key; `value` is what it means as a value. -/
  | name (text : Option String) (value : Option Tree)
  /-- Says of the text or the container that follows that it is wide. -/
  | wide

/-- The value that a token stands for by itself. -/
def Token.value? : Token → Option Tree
  | .scalar value => some value
  | .string text => some (.string text)
  | .name _ value => value
  | _ => none

/-- The key that a token stands for. -/
def Token.key? : Token → Option (Option String)
  | .string text => some text
  | .name text _ => some text
  | _ => none

/-! ## The machine -/

/-- A container that is open, with its finished parts, the last one first. -/
inductive OpenContainer
  | array (items : List Tree)
  | object (members : List (Option String × Tree))
  /-- An object that waits for the value of a key. -/
  | member (members : List (Option String × Tree)) (key : Option String)
  /-- The place of a wide value. -/
  | wide

/-- What has to come next. -/
inductive Expected
  | value
  | valueOrClose
  | key
  | keyOrClose
  | colon (key : Option String)
  | commaOrClose
  /-- Nothing: the document is complete. -/
  | finish (document : Tree)

/-- The state of the machine. -/
structure ParseState where
  expected : Expected
  stack : List OpenContainer

/-- Hands a finished value to the innermost open container. -/
def deliver (value : Tree) : List OpenContainer → Option ParseState
  | [] => some ⟨.finish value, []⟩
  | .array items :: rest => some ⟨.commaOrClose, .array (value :: items) :: rest⟩
  | .member members key :: rest => some ⟨.commaOrClose, .object ((key, value) :: members) :: rest⟩
  | .wide :: rest => deliver (.wide value) rest
  | .object _ :: _ => none

def stepValue (stack : List OpenContainer) : Token → Option ParseState
  | .wide => some ⟨.value, .wide :: stack⟩
  | .openArray => some ⟨.valueOrClose, .array [] :: stack⟩
  | .openObject => some ⟨.keyOrClose, .object [] :: stack⟩
  | token => do
    let value ← token.value?
    deliver value stack

def stepClose : List OpenContainer → Token → Option ParseState
  | .array items :: rest, .closeArray => deliver (.array items.reverse) rest
  | .object members :: rest, .closeObject => deliver (.object members.reverse) rest
  | _, _ => none

def afterComma (trailingComma : Bool) : List OpenContainer → Option Expected
  | .array _ :: _ => some (if trailingComma then .valueOrClose else .value)
  | .object _ :: _ => some (if trailingComma then .keyOrClose else .key)
  | _ => none

/-- The next state where a key may stand; it does not matter whether a key is wide. -/
def stepKey (stack : List OpenContainer) : Token → Option ParseState
  | .wide => some ⟨.key, stack⟩
  | token => do
    let key ← token.key?
    return ⟨.colon key, stack⟩

def step (trailingComma : Bool) (s : ParseState) (token : Token) : Option ParseState :=
  match s.expected with
  | .value => stepValue s.stack token
  | .valueOrClose =>
    match token with
    | .closeArray => stepClose s.stack token
    | _ => stepValue s.stack token
  | .key => stepKey s.stack token
  | .keyOrClose =>
    match token with
    | .closeObject => stepClose s.stack token
    | _ => stepKey s.stack token
  | .colon key =>
    match token, s.stack with
    | .colon, .object members :: rest => some ⟨.value, .member members key :: rest⟩
    | _, _ => none
  | .commaOrClose =>
    match token with
    | .comma => (afterComma trailingComma s.stack).map (⟨·, s.stack⟩)
    | _ => stepClose s.stack token
  | .finish _ => none

def parseTokens (trailingComma : Bool) (tokens : List Token) : Option Tree := do
  let last ← tokens.foldlM (step trailingComma) ⟨.value, []⟩
  match last.expected with
  | .finish document => some document
  | _ => none

end Paperdoll.Json
