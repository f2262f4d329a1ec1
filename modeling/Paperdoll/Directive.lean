import Paperdoll.Error
import Paperdoll.Text.Split

/-!
# Directives

A directive text is a sequence of segments, each after a question mark; a segment is a command
and its arguments between semicolons. The short form `command=argument;…` puts the first
argument behind an equals sign.

**Reading** (`Directive.parseAll`). Empty segments count for nothing. Blanks around a command are
dropped, arguments are kept as they stand. A segment fails only if its command is blank; the
error gives its number among the segments that count.

**Writing** (`Directive.textOf`). The canonical text puts every argument behind a semicolon.
-/

namespace Paperdoll

/-- A command and its arguments. -/
structure Directive where
  command : String
  args : List String
deriving DecidableEq, Repr

namespace Directive

def replaceCommand : String := "replace"

def isReplace (d : Directive) : Bool :=
  d.command == replaceCommand

/-! ## Reading -/

/-- Reads one segment, which is the one with number `index`. -/
def parseSegment (index : Nat) (segment : String) : Except Error Directive :=
  match Text.pieces ';' segment with
  | [] => .error (.malformedDirective index segment)
  | head :: rest =>
    let (command, args) :=
      match Text.cutOnce '=' head with
      | some (command, arg) => (Text.trim command, arg :: rest)
      | none => (Text.trim head, rest)
    if command.isEmpty then .error (.malformedDirective index segment) else .ok ⟨command, args⟩

/-- Reads segments, the first of which has number `index`. -/
def parseSegments (index : Nat) : List String → Except Error (List Directive)
  | [] => .ok []
  | segment :: rest => do
    let first ← parseSegment index segment
    let others ← parseSegments (index + 1) rest
    return first :: others

/-- The segments of a text that count. -/
def segments (text : String) : List String :=
  (Text.pieces '?' text).filter fun segment => !segment.isEmpty

/-- The directives of a text, in order. -/
def parseAll (text : String) : Except Error (List Directive) :=
  parseSegments 0 (segments text)

/-! ## Writing -/

/-- A directive after a question mark, its arguments after semicolons. -/
def text (d : Directive) : String :=
  "?" ++ d.command ++ String.join (d.args.map (";" ++ ·))

/-- The canonical text of a list of directives. -/
def textOf (ds : List Directive) : String :=
  String.join (ds.map text)

end Directive

end Paperdoll
