import Std.Time.DateTime.Timestamp
import SchemaDiagram.CommandLine

/-!
# The program

The command line in the world it runs in: files, environment variables, the clock and a source of
randomness.
-/

namespace SchemaDiagram.CommandLine

/-- Files and variables of the machine. -/
def machine : Host IO where
  file? name := try return some (← IO.FS.readFile name) catch _ => return none
  environment? name := IO.getEnv name

/-- Stamps that start at a random identifier and at the present time. -/
def freshSupply : IO Supply := do
  let bytes ← IO.getRandomBytes 16
  let start := bytes.foldl (fun value byte => value * 256 + byte.toNat) 0
  let now := (← Std.Time.Timestamp.now).toNanosecondsSinceUnixEpoch.val
  return {
    stamp := fun n =>
      let nanos := now + n
      { id := Identifier.ofNat (start + n)
        time := ⟨Int.fdiv nanos 1000000000, (Int.fmod nanos 1000000000).toNat⟩
        color := palette.getD ((start + n) % palette.length) "" }
    drawn := 0 }

def usage : String :=
  "usage: schemax format FILE [--database-type TYPE] | apply DIAGRAM FILE | " ++
    "language [--database-type TYPE] | --version"

/-- Print what a run ends with; what went wrong goes to the error stream. -/
def report (outcome : Outcome) : IO Unit :=
  match outcome with
  | .printed _ => IO.print outcome.output
  | .failed message => IO.eprintln message
  | .misused => IO.eprintln usage

end SchemaDiagram.CommandLine

open SchemaDiagram.CommandLine in
def main (arguments : List String) : IO UInt32 := do
  let outcome ← run machine (← freshSupply) arguments
  report outcome
  return UInt32.ofNat outcome.exitStatus
