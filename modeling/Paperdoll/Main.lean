import Paperdoll.Program

/-!
# The command line

The first argument names the program, the others are its arguments. Scripts are performed on the
files of the system.
-/

namespace Paperdoll

def readFile? (path : String) : IO (Option (List UInt8)) := do
  try
    let bytes ← IO.FS.readBinFile path
    return some bytes.toList
  catch _ => return none

/-- Writes a file; the answer is whether that was possible. -/
def writeFile (path : String) (content : List UInt8) : IO Bool := do
  try
    IO.FS.writeBinFile path content.toByteArray
    return true
  catch _ => return false

/-- Performs a script on the files of the system. -/
def Script.perform {α : Type} : Script α → IO α
  | .done result => return result
  | .print line next => do
    IO.println line
    next.perform
  | .read path next => do (next (← readFile? path)).perform
  | .write path content next => do (next (← writeFile path content)).perform

end Paperdoll

def main (arguments : List String) : IO UInt32 := do
  let program := arguments.head?.bind Paperdoll.Program.named?
  match program with
  | some program =>
    let status ← (program.script (arguments.drop 1)).perform
    return status.code.toUInt32
  | none =>
    IO.eprintln "The first argument has to name a program."
    return 2
