import Paperdoll.Text.Hex

/-!
# Quoted texts of a settings file

A text stands between double quotes, where a backslash starts an escape, or between single
quotes, where every character means itself. Three quotes instead of one let it run over several
lines; then a backslash at the end of a line swallows all blanks that follow. A line ends with a
line feed, before which a carriage return may stand; nowhere else may one stand. Reading takes
two steps: **`rawLine?`** and **`rawLines?`** find the end of a text, **`unescape?`** replaces
the escapes.
-/

namespace Paperdoll.Toml

def isSpace (c : Char) : Bool := c == ' ' || c == '\t'

/-- A character that may not stand in a text or a comment. -/
def isForbidden (c : Char) : Bool :=
  (c.toNat < 0x20 && c != '\t') || c == '\x7f'

def singleQuote : Char := '\x27'

/-! ## Escapes -/

/-- Where the reader of a text is. -/
inductive EscapeMode
  | plain
  /-- Behind a backslash. -/
  | escape
  /-- In a code, of which `missing` digits are to come. -/
  | code (missing value : Nat)
  /-- Behind a backslash and blanks, where the line has to end. -/
  | lineEnd
  /-- Behind a carriage return, where a line feed has to follow. -/
  | lineFeed
  /-- Behind a backslash that ended a line. -/
  | skip

def shortEscape? : Char → Option Char
  | 'b' => some '\x08'
  | 't' => some '\t'
  | 'n' => some '\n'
  | 'f' => some '\x0c'
  | 'r' => some '\r'
  | 'e' => some '\x1b'
  | '"' => some '"'
  | '\\' => some '\\'
  | _ => none

/-- The mode that a character behind a backslash leads to, if it stands for no character. -/
def longEscape? (c : Char) : Option EscapeMode :=
  if c = 'x' then some (.code 2 0)
  else if c = 'u' then some (.code 4 0)
  else if c = 'U' then some (.code 8 0)
  else if c = '\n' then some .skip
  else if c = '\r' then some .lineFeed
  else if isSpace c then some .lineEnd
  else none

/-- The characters that stand behind a point reached in `mode`. -/
def unescapeFrom? (mode : EscapeMode) : List Char → Option (List Char)
  | [] =>
    match mode with
    | .plain | .skip => some []
    | _ => none
  | c :: cs =>
    match mode with
    | .plain =>
      if c = '\\' then unescapeFrom? .escape cs else (unescapeFrom? .plain cs).map (c :: ·)
    | .escape =>
      match shortEscape? c with
      | some d => (unescapeFrom? .plain cs).map (d :: ·)
      | none =>
        match longEscape? c with
        | some mode => unescapeFrom? mode cs
        | none => none
    | .code missing value =>
      match Text.hexValue? c with
      | none => none
      | some digit =>
        let value := 16 * value + digit
        if 1 < missing then unescapeFrom? (.code (missing - 1) value) cs
        else if value.isValidChar then (unescapeFrom? .plain cs).map (Char.ofNat value :: ·)
        else none
    | .lineEnd =>
      if c = '\n' then unescapeFrom? .skip cs
      else if c = '\r' then unescapeFrom? .lineFeed cs
      else if isSpace c then unescapeFrom? .lineEnd cs
      else none
    | .lineFeed => if c = '\n' then unescapeFrom? .skip cs else none
    | .skip =>
      if c = '\n' ∨ isSpace c then unescapeFrom? .skip cs
      else if c = '\r' then unescapeFrom? .lineFeed cs
      else if c = '\\' then unescapeFrom? .escape cs
      else (unescapeFrom? .plain cs).map (c :: ·)

def unescape? (cs : List Char) : Option (List Char) :=
  unescapeFrom? .plain cs

/-! ## Ends -/

/-- The characters up to the quote that ends a text on its line, and what follows it. -/
def rawLine? (quote : Char) : List Char → Option (List Char × List Char)
  | [] => none
  | c :: cs =>
    if c = quote then some ([], cs)
    else if isForbidden c then none
    else if c = '\\' ∧ quote = '"' then
      match cs with
      | [] => none
      | d :: ds =>
        if isForbidden d then none else (rawLine? quote ds).map fun r => (c :: d :: r.1, r.2)
    else (rawLine? quote cs).map fun r => (c :: r.1, r.2)

/-- The characters up to the three quotes that end a text of several lines, and what follows; up to
two quotes before them belong to the text. -/
def rawLines? (quote : Char) : List Char → Option (List Char × List Char)
  | [] => none
  | c :: cs =>
    let quotes := min 5 ((c :: cs).takeWhile (· == quote)).length
    if 3 ≤ quotes then some (List.replicate (quotes - 3) quote, (c :: cs).drop quotes)
    else if c = '\r' then
      if cs.head? = some '\n' then (rawLines? quote cs).map fun r => (c :: r.1, r.2) else none
    else if isForbidden c ∧ c ≠ '\n' then none
    else if c = '\\' ∧ quote = '"' then
      match cs with
      | [] => none
      | d :: ds => (rawLines? quote ds).map fun r => (c :: d :: r.1, r.2)
    else (rawLines? quote cs).map fun r => (c :: r.1, r.2)

/-- A line end at the front of a text of several lines does not count. -/
def dropFirstLineEnd : List Char → List Char
  | '\n' :: cs | '\r' :: '\n' :: cs => cs
  | cs => cs

def quotedText? (cs : List Char) : Option (String × List Char) := do
  let quote ← cs.head?
  let isLong := [quote, quote, quote].isPrefixOf cs
  let (raw, rest) ←
    if isLong then rawLines? quote (dropFirstLineEnd (cs.drop 3)) else rawLine? quote (cs.drop 1)
  let text ← if quote = '"' then unescape? raw else some raw
  return (String.ofList text, rest)

end Paperdoll.Toml
