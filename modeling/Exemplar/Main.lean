/-
The program.
-/
import Exemplar.CommandLine.Basic
import Exemplar.Files.Machine

open Exemplar in
def main (arguments : List String) : IO UInt32 := do
  let ending ← Machine.run (CommandLine.run arguments)
  IO.print ending.output
  match ending.errorText with
  | some text => IO.eprintln text
  | none => return UInt32.ofNat ending.code
  return UInt32.ofNat ending.code
