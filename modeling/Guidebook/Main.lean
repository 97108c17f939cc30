import Guidebook.Command.Run
import Guidebook.Files.Snapshot

/-!
# The command

The command runs on a snapshot of the files, the working directory and the
variables around it, which it reads from its standard input.  A snapshot does not
tell what the libraries say about texts that they cannot read, so their words are
left blank, and wildcards are refused by the number of their stars.
-/

open Guidebook

/-- Read the snapshot, run the command with the arguments, and leave what it
leaves. -/
def main (arguments : List String) : IO UInt32 := do
  let text ← (← IO.getStdin).readToEnd
  let around := Snapshot.surroundings [] "root" ((Json.parse? text).getD .null)
  let _ := Query.Wildcard.Compiler.bounded
  let outcome := Command.run around arguments
  (← IO.getStdout).putStr outcome.output
  (← IO.getStderr).putStr outcome.messages
  return UInt32.ofNat outcome.code
