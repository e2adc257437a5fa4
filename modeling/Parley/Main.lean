/-
The program on a host where no agent listens.
-/
import Parley.Cli.Run

/-- Runs the command that the arguments name. -/
def main (arguments : List String) : IO UInt32 := do
  let world : Parley.Cli.World :=
    { identity := ⟨"0.3.0", "x86_64", "linux", 1, []⟩, timestamp := "0" }
  let ended := world.runProgram arguments
  IO.print ended.output
  for line in ended.errors do
    IO.eprintln line
  return UInt32.ofNat ended.code
