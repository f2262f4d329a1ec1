import Paperdoll.Program.Help
import Paperdoll.Program.Recolor
import Paperdoll.Program.Render

/-!
# Programs

Two programs put the library to work from a command line: one shows and applies directives,
the other draws characters. **`Program.script`** is what a call of a program does.
-/

namespace Paperdoll

/-- A form of calls and what is done for a call of that form. -/
structure Program where
  commandLine : CommandLine
  run : Invocation → Task Unit

namespace Program

def all : List Program :=
  [⟨RecolorProgram.commandLine, RecolorProgram.run⟩, ⟨RenderProgram.commandLine, RenderProgram.run⟩]

def named? (name : String) : Option Program :=
  all.find? (·.commandLine.name == name)

def printAll : List String → Script ExitStatus
  | [] => .done .success
  | line :: rest => .print line (printAll rest)

def script (p : Program) (arguments : List String) : Script ExitStatus :=
  match p.commandLine.parse arguments with
  | .ok call => (p.run call).status
  | .error refusal =>
    match p.commandLine.answer? refusal with
    | some lines => printAll lines
    | none => .done .misuse

end Program

end Paperdoll
