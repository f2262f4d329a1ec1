/-!
# Scripts

What a program does to the outside is a script: it prints lines, asks for the contents of files,
writes files, and ends with a result. A script is a value, so that a run can be looked at without
a file system; whoever performs it gives the answers.

A **`Task`** is a script that may end early with an exit status.
-/

namespace Paperdoll

/-- How a program ends. -/
inductive ExitStatus
  | success
  | failure
  /-- The arguments make no sense. -/
  | misuse
  /-- The program breaks off. -/
  | brokenOff
deriving DecidableEq, Repr

def ExitStatus.code : ExitStatus → UInt8
  | .success => 0
  | .failure => 1
  | .misuse => 2
  | .brokenOff => 101

/-- The actions of a program up to its result. -/
inductive Script (α : Type)
  | done (result : α)
  | print (line : String) (next : Script α)
  /-- Asks for the contents of a file; there are none if it cannot be read. -/
  | read (path : String) (next : Option (List UInt8) → Script α)
  /-- Writes a file; the answer is whether that was possible. -/
  | write (path : String) (content : List UInt8) (next : Bool → Script α)

namespace Script

variable {α β : Type}

def bind (s : Script α) (f : α → Script β) : Script β :=
  match s with
  | done a => f a
  | print line next => print line (next.bind f)
  | read path next => read path fun content => (next content).bind f
  | write path content next => write path content fun written => (next written).bind f

instance : Monad Script where
  pure := done
  bind := bind

end Script

/-- A script that may end early. -/
abbrev Task := ExceptT ExitStatus Script

namespace Task

variable {α : Type}

def fail : Task α :=
  throw .failure

def need : Option α → Task α
  | some a => pure a
  | none => fail

/-- The value of a computation, without which the program fails. -/
def succeed {ε : Type} (result : Except ε α) : Task α :=
  need result.toOption

def print (line : String) : Task Unit :=
  .lift (Script.print line (.done ()))

def read? (path : String) : Task (Option (List UInt8)) :=
  .lift (Script.read path .done)

/-- The contents of a file, without which the program fails. -/
def read (path : String) : Task (List UInt8) := do
  need (← read? path)

def write (path : String) (content : List UInt8) : Task Unit := do
  if !(← ExceptT.lift (Script.write path content .done)) then fail

def status (t : Task Unit) : Script ExitStatus :=
  Script.bind t fun
    | .ok () => .done .success
    | .error status => .done status

end Task

end Paperdoll
