import Paperdoll.Program.Arguments

/-!
# Help texts

The answers to calls that ask for help or for the version: what the program or the command does,
how it is called, and a line for each command, operand and option. Options are listed in their
declared order; those of the program stand between those of the command.
-/

namespace Paperdoll

/-- A line of a list: a form and what it does. -/
structure HelpEntry where
  form : String
  about : String

namespace HelpEntry

/-- Entries with what they do in one column. -/
def lines (entries : List HelpEntry) : List String :=
  let width := entries.foldl (fun w e => max w e.form.length) 0
  entries.map fun e =>
    "  " ++ e.form ++ String.ofList (List.replicate (width + 2 - e.form.length) ' ') ++ e.about

/-- A list under a head, with an empty line before it. -/
def part (head : String) (entries : List HelpEntry) : List String :=
  if entries.isEmpty then [] else ["", head ++ ":"] ++ lines entries

end HelpEntry

def Operand.entry (o : Operand) : HelpEntry :=
  ⟨"<" ++ o.name ++ ">", o.about⟩

def Command.entry (c : Command) : HelpEntry :=
  ⟨c.name, c.about⟩

namespace CommandOption

def form (o : CommandOption) : String :=
  let short := match o.short with
    | some c => String.ofList ['-', c, ',', ' ']
    | none => "    "
  let value := if o.takesValue then " <" ++ o.valueName ++ ">" else ""
  short ++ "--" ++ o.long ++ value ++ if o.kind = .values then "..." else ""

def entry (o : CommandOption) : HelpEntry :=
  ⟨o.form, o.about ++ (o.usual.map (" [default: " ++ · ++ "]")).getD ""⟩

/-- What decides the order of options that were declared at one place of their lists. -/
def sortText (o : CommandOption) : String :=
  (o.short.map fun c => String.ofList [c.toLower]).getD o.long

/-- Two lists of options in one, each in its order. -/
def merge : List CommandOption → List CommandOption → List CommandOption
  | [], ps => ps
  | os, [] => os
  | o :: os, p :: ps =>
    (if p.sortText < o.sortText then [p, o] else [o, p]) ++ merge os ps

end CommandOption

namespace CommandLine

def helpAbout : String := "Print this message or the help of the given subcommand(s)"

def usage (line : CommandLine) : String :=
  "Usage: " ++ line.name ++ (if line.options.isEmpty then "" else " [OPTIONS]") ++ " <COMMAND>"

def commandUsage (line : CommandLine) (c : Command) : String :=
  let options := if (c.options ++ line.options).isEmpty then "" else " [OPTIONS]"
  "Usage: " ++ line.name ++ " " ++ c.name ++ options ++
    String.join (c.operands.map fun o => " " ++ o.entry.form)

def help (line : CommandLine) : List String :=
  [line.about, "", line.usage] ++
    HelpEntry.part "Commands" (line.commands.map Command.entry ++ [⟨helpCommand, helpAbout⟩]) ++
    HelpEntry.part "Options" (line.ownOptions.map CommandOption.entry)

def commandHelp (line : CommandLine) (c : Command) : List String :=
  let options := CommandOption.merge c.options line.options ++ [.forHelp]
  [c.about, "", line.commandUsage c] ++
    HelpEntry.part "Arguments" (c.operands.map Operand.entry) ++
    HelpEntry.part "Options" (options.map CommandOption.entry)

def helpOnHelp (line : CommandLine) : List String :=
  [helpAbout, "", "Usage: " ++ line.name ++ " " ++ helpCommand ++ " [COMMAND]..."] ++
    HelpEntry.part "Arguments" [⟨"[COMMAND]...", "Print help for the subcommand(s)"⟩]

/-- The lines that answer a call which is not carried out, unless it makes no sense. -/
def answer? (line : CommandLine) : Refusal → Option (List String)
  | .misuse => none
  | .helpWanted none => some line.help
  | .helpWanted (some c) => some (line.commandHelp c)
  | .helpOnHelp => some line.helpOnHelp
  | .versionWanted => some [line.name ++ " " ++ line.version]

end CommandLine

end Paperdoll
