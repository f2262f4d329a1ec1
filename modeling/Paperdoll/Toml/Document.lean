import Paperdoll.Toml.Quoted
import Paperdoll.Toml.Value

/-!
# Settings files

A settings file is a sequence of lines that assign values to keys, under headers that open tables.
**`Document.parse?`** reads one. A document is kept flat, as a map from paths of keys to what was
declared there, because the rules about what may be declared twice are rules about paths: a
value or a table opened by a header is final, a table that only came into being on the way to
another may still be opened or added to, and a new element of an array of tables starts afresh.
-/

namespace Paperdoll.Toml

/-! ## Reading values -/

/-- A reader takes characters off the front of the input, or fails. -/
abbrev Reader := StateT (List Char) Option

def skipSpaces : Reader Unit :=
  modify (·.dropWhile isSpace)

def accept (c : Char) : Reader Bool := do
  match ← get with
  | d :: rest => if c = d then set rest; return true else return false
  | [] => return false

def expect (c : Char) : Reader Unit := do
  if !(← accept c) then failure

def take {α : Type} (read : List Char → Option (α × List Char)) : Reader α := fun cs => read cs

/-- Takes a line end, if one comes next. -/
def acceptLineEnd : Reader Bool := do
  match ← get with
  | '\n' :: rest | '\r' :: '\n' :: rest => set rest; return true
  | _ => return false

def skipComment : Reader Unit := do
  if ← accept '#' then
    let isInside (c : Char) : Bool := c != '\n' && c != '\r'
    let cs ← get
    if (cs.takeWhile isInside).any isForbidden then failure
    set (cs.dropWhile isInside)

def skipLines : (limit : Nat) → Reader Unit
  | 0 => return
  | limit + 1 => do
    skipSpaces
    skipComment
    if ← acceptLineEnd then skipLines limit

def isKeyChar (c : Char) : Bool :=
  c.isAlphanum || c == '_' || c == '-'

def key : Reader String := do
  match ← get with
  | [] => failure
  | c :: cs =>
    if c = '"' ∨ c = singleQuote then
      if [c, c, c].isPrefixOf (c :: cs) then failure else take quotedText?
    else
      let name := (c :: cs).takeWhile isKeyChar
      if name.isEmpty then failure
      set ((c :: cs).dropWhile isKeyChar)
      return String.ofList name

/-- How deep containers may be nested, and how many keys may have dots between them. -/
def maxDepth : Nat := 80

/-- At most `limit` keys with dots between them. -/
def keysUpTo : (limit : Nat) → Reader (List String)
  | 0 => failure
  | limit + 1 => do
    skipSpaces
    let first ← key
    skipSpaces
    if ← accept '.' then return first :: (← keysUpTo limit) else return [first]

def keyPath : Reader (List String) :=
  keysUpTo maxDepth

/-- A character that may belong to a value without quotes. -/
def isWordChar (c : Char) : Bool :=
  isKeyChar c || c == '+' || c == '.' || c == ':'

/-- A value without quotes and brackets; a date and a time may have one space between them. -/
def word : Reader Value := do
  let cs ← get
  let first := cs.takeWhile isWordChar
  let second := match cs.dropWhile isWordChar with
    | ' ' :: c :: rest => ' ' :: (c :: rest).takeWhile isWordChar
    | _ => []
  let whole := if afterDate? first == some [] ∧ (date? (first ++ second)).isSome then
      first ++ second
    else first
  set (cs.drop whole.length)
  StateT.lift (Value.ofWord? whole)

/-! ## Declarations -/

/-- How a table came into being. -/
inductive TableOrigin
  /-- On the way to a header. -/
  | passed
  /-- By its own header. -/
  | opened
  /-- By dots in a key. -/
  | dotted
  /-- As an array of tables, by the headers of its elements. -/
  | elements
deriving DecidableEq

inductive Declaration
  | value (v : Value)
  | table (origin : TableOrigin)

/-- What is declared, by path. -/
structure Document where
  declarations : List (List String × Declaration) := []

namespace Document

def find? (d : Document) (path : List String) : Option Declaration :=
  (d.declarations.find? (·.1 == path)).map Prod.snd

def declare (d : Document) (path : List String) (what : Declaration) : Document :=
  ⟨(path, what) :: d.declarations.filter (·.1 != path)⟩

/-- Passes through the tables on the way to a header, from `path` on. -/
def passTo? (d : Document) (path : List String) : List String → Option Document
  | [] | [_] => some d
  | key :: rest =>
    let path := path ++ [key]
    match d.find? path with
    | none => (d.declare path (.table .passed)).passTo? path rest
    | some (.table _) => d.passTo? path rest
    | some (.value _) => none

def openTable? (d : Document) (path : List String) : Option Document := do
  let d ← d.passTo? [] path
  match d.find? path with
  | none | some (.table .passed) => some (d.declare path (.table .opened))
  | _ => none

def openElement? (d : Document) (path : List String) : Option Document := do
  let d ← d.passTo? [] path
  match d.find? path with
  | none => some (d.declare path (.table .elements))
  | some (.table .elements) =>
    some ⟨d.declarations.filter fun e => !(path.isPrefixOf e.1 && path.length < e.1.length)⟩
  | _ => none

/-- Assigns a value to dotted keys in the table at `path`. The way may lead through the last
element of an array of tables, but the table that gets the value must not be one of them. -/
def assign? (d : Document) (path : List String) (v : Value) : List String → Option Document
  | [] => none
  | [key] =>
    match d.find? (path ++ [key]) with
    | none => some (d.declare (path ++ [key]) (.value v))
    | some _ => none
  | key :: next :: rest =>
    let path := path ++ [key]
    match d.find? path with
    | none => (d.declare path (.table .dotted)).assign? path v (next :: rest)
    | some (.table .dotted) | some (.table .passed) => d.assign? path v (next :: rest)
    | some (.table .elements) => if rest.isEmpty then none else d.assign? path v (next :: rest)
    | some _ => none

/-- What is declared below a path, as a table. -/
def tableAt (d : Document) (path : List String) : Value :=
  .table <| d.declarations.filterMap fun (p, what) =>
    if path.isPrefixOf p && path.length < p.length then
      let value := match what with
        | .value v => v
        | .table _ => .table []
      some (p.drop path.length, value)
    else none

def get? (d : Document) (path : List String) : Option Value :=
  match d.find? path with
  | none => none
  | some (.value v) => some v
  | some (.table .elements) => some (.array [d.tableAt path])
  | some (.table _) => some (d.tableAt path)

def keys (d : Document) : List String :=
  d.declarations.filterMap fun (path, _) =>
    match path with
    | [key] => some key
    | _ => none

end Document

/-! ## Containers -/

mutual

/-- A value; `depth` containers may be nested in it. -/
def value : (limit depth : Nat) → Reader Value
  | 0, _ => failure
  | limit + 1, depth => do
    match ← get with
    | '[' :: rest =>
      set rest
      if depth = 0 then failure
      return .array (← items limit (depth - 1))
    | '\x7b' :: rest =>
      set rest
      if depth = 0 then failure
      return Document.tableAt (← members limit (depth - 1) {}) []
    | c :: _ =>
      if c = '"' ∨ c = singleQuote then return .text (← take quotedText?) else word
    | [] => failure

def items : (limit depth : Nat) → Reader (List Value)
  | 0, _ => failure
  | limit + 1, depth => do
    skipLines (← get).length
    if ← accept ']' then return []
    let first ← value limit depth
    skipLines (← get).length
    if ← accept ',' then return first :: (← items limit depth)
    expect ']'
    return [first]

/-- The members of an inline table up to its end, added to those in `d`. Lines may end between
any two parts of a member. -/
def members : (limit depth : Nat) → Document → Reader Document
  | 0, _, _ => failure
  | limit + 1, depth, d => do
    skipLines (← get).length
    if ← accept '\x7d' then return d
    let path ← keyPath
    skipLines (← get).length
    expect '='
    skipLines (← get).length
    let v ← value limit depth
    skipLines (← get).length
    let d ← StateT.lift (d.assign? [] v path)
    if ← accept ',' then members limit depth d
    else
      expect '\x7d'
      return d

end

/-! ## Lines -/

/-- A document in progress and the path of the table that is open. -/
structure Progress where
  document : Document := {}
  path : List String := []

/-- Reads a header or an assignment. -/
def statement (limit : Nat) (p : Progress) : Reader Progress := do
  if ← accept '[' then
    let isElement ← accept '['
    let path ← keyPath
    expect ']'
    if isElement then
      expect ']'
      return ⟨← StateT.lift (p.document.openElement? path), path⟩
    else return ⟨← StateT.lift (p.document.openTable? path), path⟩
  else
    let path ← keyPath
    expect '='
    skipSpaces
    let v ← value limit maxDepth
    return { p with document := ← StateT.lift (p.document.assign? p.path v path) }

def lines : (limit : Nat) → Progress → Reader Document
  | 0, _ => failure
  | limit + 1, p => do
    skipLines limit
    if (← get).isEmpty then return p.document
    let p ← statement limit p
    skipSpaces
    skipComment
    if (← get).isEmpty then return p.document
    if !(← acceptLineEnd) then failure
    lines limit p

/-- The characters behind a byte order mark at the front. -/
def withoutMark : List Char → List Char
  | '\ufeff' :: cs => cs
  | cs => cs

def Document.parse? (text : String) : Option Document :=
  let cs := withoutMark text.toList
  -- Every step takes a character, so the limit is never reached.
  ((lines (cs.length + 2) {}).run cs).map Prod.fst

end Paperdoll.Toml
