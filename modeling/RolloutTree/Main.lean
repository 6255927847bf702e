import RolloutTree.Command.Recording

/-!
# The program

Reads the recording of a cluster from one line of the standard input, and does what the command line
asks for. Without a recording there is no context and no cluster.
-/

open RolloutTree.Command

/-- Runs the program and gives its exit code. -/
def main (words : List String) : IO UInt32 := do
  let terminalType ← IO.getEnv "TERM"
  let line ← (← IO.getStdin).getLine
  let surroundings := match (RolloutTree.Json.parse? line).bind Recording.decode with
    | some recording => recording.surroundings terminalType
    | none => { terminalType, now := ⟨0, 0, 0⟩ }
  let session := Session.ofWords surroundings words
  IO.print session.output
  IO.eprint (session.remarks.getD "usage: get rollout|experiment NAME, or __complete KIND TEXT\n")
  return session.exit.toUInt32
