import Paperdoll.Text.Split

/-!
# Command lines

A program has commands, a command has options and operands. **`CommandLine.parse`** reads the
arguments of a call, or says why it stops: the arguments make no sense, or help or the version
is asked for.

**Options.** A long option takes its value behind an equals sign or from the next argument; short
ones may be written together, and the last of them takes the rest of its argument as value. An
argument that starts with a hyphen is never a value by itself. Two hyphens end the options. The
options of the program may stand before the command and behind it; behind it they count more.
-/

namespace Paperdoll

/-- What an option asks for or takes. -/
inductive OptionKind
  | help
  | version
  | flag
  /-- One value; the option may be given once. -/
  | value
  /-- One value; the option may be given again. -/
  | valueAgain
  /-- One value or more; the option may be given again. -/
  | values
deriving DecidableEq, Repr

structure CommandOption where
  short : Option Char := none
  long : String
  kind : OptionKind
  valueName : String := ""
  about : String
  /-- The value that counts when none is given. -/
  usual : Option String := none
  accepts : String → Bool := fun _ => true

namespace CommandOption

def takesValue (o : CommandOption) : Bool :=
  o.kind matches .value | .valueAgain | .values

def isRepeatable (o : CommandOption) : Bool :=
  o.kind matches .valueAgain | .values

def forHelp : CommandOption :=
  { short := some 'h', long := "help", kind := .help, about := "Print help" }

def forVersion : CommandOption :=
  { short := some 'V', long := "version", kind := .version, about := "Print version" }

end CommandOption

structure Operand where
  name : String
  about : String
  accepts : String → Bool := fun _ => true

structure Command where
  name : String
  about : String
  options : List CommandOption
  operands : List Operand

/-- The form of the calls of a program. -/
structure CommandLine where
  name : String
  version : String
  about : String
  /-- The options that every command has as well. -/
  options : List CommandOption
  commands : List Command

/-- Why a call is not carried out. -/
inductive Refusal
  | misuse
  | helpWanted (command : Option Command)
  /-- Help is wanted about how to get help. -/
  | helpOnHelp
  | versionWanted

/-- What a call gives: values by the long name of their option, and operands. -/
structure Given where
  options : List (String × List String) := []
  operands : List String := []
deriving Repr

namespace Given

def has (g : Given) (option : String) : Bool :=
  g.options.any (·.1 == option)

def values (g : Given) (option : String) : List String :=
  (g.options.filter (·.1 == option)).flatMap Prod.snd

def value? (g : Given) (option : String) : Option String :=
  (g.values option).head?

end Given

/-! ## Reading arguments one by one -/

/-- The state of a reader of arguments. -/
structure ArgumentReader where
  given : Given := {}
  /-- An option that still takes values, and those it has. -/
  pending : Option (CommandOption × List String) := none
  /-- Two hyphens have been read. -/
  onlyOperands : Bool := false

namespace ArgumentReader

/-- Adds an option with its values, which have to be acceptable. -/
def record (r : ArgumentReader) (o : CommandOption) (values : List String) :
    Except Refusal ArgumentReader :=
  if values.all o.accepts && (o.isRepeatable || !r.given.has o.long) then
    .ok { r with given := { r.given with options := r.given.options ++ [(o.long, values)] } }
  else .error .misuse

/-- Records the option that still takes values; it must have at least one. -/
def settle (r : ArgumentReader) : Except Refusal ArgumentReader :=
  match r.pending with
  | none => .ok r
  | some (_, []) => .error .misuse
  | some (o, values) => { r with pending := none }.record o values

/-- The refusal or the next state for an option without a value. -/
def readPlain (r : ArgumentReader) (command : Option Command) (o : CommandOption) :
    Except Refusal ArgumentReader :=
  match o.kind with
  | .help => .error (.helpWanted command)
  | .version => .error .versionWanted
  | _ => if o.takesValue then .ok { r with pending := some (o, []) } else r.record o []

/-- Reads what follows two hyphens. -/
def readLong (r : ArgumentReader) (command : Option Command) (options : List CommandOption)
    (argument : String) : Except Refusal ArgumentReader :=
  let (name, value) := match Text.cutOnce '=' argument with
    | some (name, value) => (name, some value)
    | none => (argument, none)
  match options.find? (·.long == name) with
  | none => .error .misuse
  | some o =>
    match value with
    | none => r.readPlain command o
    | some v => if o.takesValue then r.record o [v] else .error .misuse

/-- Reads short options that are written together. -/
def readShort (r : ArgumentReader) (command : Option Command) (options : List CommandOption) :
    List Char → Except Refusal ArgumentReader
  | [] => .ok r
  | c :: rest =>
    match options.find? (·.short == some c) with
    | none => .error .misuse
    | some o =>
      if o.takesValue && !rest.isEmpty then
        r.record o [String.ofList (if rest.head? = some '=' then rest.drop 1 else rest)]
      else do
        let r ← r.readPlain command o
        r.readShort command options rest

def readOperand (r : ArgumentReader) (operands : List Operand) (argument : String) :
    Except Refusal ArgumentReader :=
  match operands[r.given.operands.length]? with
  | none => .error .misuse
  | some o =>
    if o.accepts argument then
      .ok { r with given := { r.given with operands := r.given.operands ++ [argument] } }
    else .error .misuse

/-- Reads an argument that is no option as a value, or else as an operand. -/
def readValue (r : ArgumentReader) (operands : List Operand) (argument : String) :
    Except Refusal ArgumentReader :=
  match r.pending with
  | none => r.readOperand operands argument
  | some (o, values) =>
    let r := { r with pending := some (o, values ++ [argument]) }
    if o.kind = .values then .ok r else r.settle

def read (r : ArgumentReader) (command : Option Command) (options : List CommandOption)
    (operands : List Operand) (argument : String) : Except Refusal ArgumentReader :=
  if r.onlyOperands then r.readOperand operands argument
  else
    match argument.toList with
    | ['-', '-'] => do return { ← r.settle with onlyOperands := true }
    | '-' :: '-' :: rest => do (← r.settle).readLong command options (String.ofList rest)
    | '-' :: c :: rest => do (← r.settle).readShort command options (c :: rest)
    | _ => r.readValue operands argument

end ArgumentReader

/-! ## Calls -/

/-- A call that can be carried out. -/
structure Invocation where
  command : String
  given : Given
deriving Repr

namespace CommandLine

def optionsOf (line : CommandLine) (command : Command) : List CommandOption :=
  command.options ++ line.options ++ [.forHelp]

def ownOptions (line : CommandLine) : List CommandOption :=
  line.options ++ [.forHelp, .forVersion]

def command? (line : CommandLine) (name : String) : Option Command :=
  line.commands.find? (·.name == name)

/-- Reads the arguments behind a command, before which `before` was given. -/
def parseCommand (line : CommandLine) (command : Command) (before : Given)
    (arguments : List String) : Except Refusal Invocation := do
  let read (r : ArgumentReader) := r.read (some command) (line.optionsOf command) command.operands
  let r ← (← arguments.foldlM read {}).settle
  if r.given.operands.length < command.operands.length then .error .misuse
  else
    let given := { r.given with options := r.given.options ++ before.options }
    return { command := command.name, given }

def helpCommand : String := "help"

/-- What the arguments behind the command for help ask for. -/
def parseHelp (line : CommandLine) : List String → Refusal
  | [] => .helpWanted none
  | [name] =>
    match line.command? name with
    | some command => .helpWanted (some command)
    | none => if name = helpCommand then .helpOnHelp else .misuse
  | _ => .misuse

/-- Reads arguments up to the command and those behind it. -/
def parseFrom (line : CommandLine) (r : ArgumentReader) : List String → Except Refusal Invocation
  | [] => .error .misuse
  | argument :: rest => do
    let isCommand := r.pending.isNone && !r.onlyOperands
    if isCommand && argument == helpCommand then .error (line.parseHelp rest)
    else
      match if isCommand then line.command? argument else none with
      | some command => line.parseCommand command r.given rest
      | none =>
        let r ← r.read none line.ownOptions [] argument
        line.parseFrom r rest

def parse (line : CommandLine) (arguments : List String) : Except Refusal Invocation :=
  line.parseFrom {} arguments

end CommandLine

end Paperdoll
