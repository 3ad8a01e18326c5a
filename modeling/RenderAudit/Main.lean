import RenderAudit.CommandLine
import RenderAudit.Listing

/-!
The program: reads a workspace listing from standard input and its settings from the arguments and
the environment.
-/

namespace RenderAudit

partial def readLines (input : IO.FS.Stream) (seen : List String) : IO (List String) := do
  let line ← input.getLine
  if line.isEmpty then return seen.reverse
  let line := if line.endsWith "\n" then (line.dropEnd 1).toString else line
  readLines input (line :: seen)

def readEnvironment : IO Environment :=
  Environment.names.foldlM
    (fun environment name => do
      match ← IO.getEnv name with
      | some value => return environment.insert name value
      | none => return environment)
    Table.empty

end RenderAudit

open RenderAudit in
def main (arguments : List String) : IO UInt32 := do
  let lines ← readLines (← IO.getStdin) []
  match Workspace.ofListing? lines with
  | none =>
      IO.eprintln "error: the listing on standard input cannot be read"
      return 2
  | some workspace =>
      let outcome := CommandLine.run workspace (← readEnvironment) arguments
      IO.print outcome.output
      IO.eprint outcome.errors
      return UInt32.ofNat outcome.status
