import Moorings.CommandLine.Run

/-!
# The program

Runs the command that the arguments mean, prints what it has to tell on
standard output and a report of what went wrong on standard error, and ends
with its code. Standard input is read only by a command that stores it.

The network of the process is its own: nobody else listens on it.
-/

namespace Moorings.CommandLine

/-- Whether a command stores what comes on standard input. -/
def readsInput : Except Stop Command → Bool
  | .ok (.visit _ _ (some (.post _))) => true
  | _ => false

/-- All bytes of standard input. -/
partial def readAll (input : IO.FS.Stream) (sofar : Bytes) : IO Bytes := do
  let piece ← input.read 65536
  if piece.isEmpty then pure sofar else readAll input (sofar ++ piece.toList)

end Moorings.CommandLine

open Moorings.CommandLine in
/-- The program. -/
def main (arguments : List String) : IO UInt32 := do
  let stdin ←
    if readsInput (Command.ofArguments arguments) then readAll (← IO.getStdin) []
    else pure []
  let (exit, _) := run {} arguments stdin
  (← IO.getStdout).putStr exit.output
  (← IO.getStderr).putStr exit.report
  return exit.code.toUInt32
