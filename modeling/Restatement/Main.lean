import Restatement.Command
import Restatement.Settings.Standard
import Restatement.Snapshot

/-!
The command line program. The working directory comes as a snapshot on standard input.
-/

open Restatement

partial def readToEnd (stream : IO.FS.Stream) (sofar : String) : IO String := do
  let line ← stream.getLine
  if line.isEmpty then return sofar
  readToEnd stream (sofar ++ line)

def main (arguments : List String) : IO UInt32 := do
  match Command.parse? (arguments.map String.toList) with
  | none =>
      IO.eprintln "usage: check PATH... [OPTIONS] | explain FILE --line N [OPTIONS]"
      return 2
  | some command =>
      let input ← readToEnd (← IO.getStdin) ""
      let snapshot := (Json.parse input.length input.toList).toOption.getD .null
      let _ := Snapshot.names snapshot
      let library := Settings.Library.standard Settings.usualDepth
      match command.run library .usual (Snapshot.workplace snapshot) with
      | .ok outcome =>
          IO.print (String.ofList outcome.stdout)
          IO.eprint (String.ofList outcome.stderr)
          return UInt32.ofNat outcome.exitCode
      | .error breakdown =>
          IO.eprintln (String.ofList breakdown.message)
          return 1
