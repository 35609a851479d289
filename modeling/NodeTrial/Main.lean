import NodeTrial.CommandLine.Tools

/-! The program. Its first argument names the tool, the others are the tool's. It runs in a
rehearsal without servers and executors, so a load run gets no responses and a transfer run
ends where it needs the executor.
-/

namespace NodeTrial

def toolNamed? (name : String) : Option CommandLine.Tool :=
  match name with
  | "load" => some .load
  | "transfer" => some .transfer
  | "write-server" => some .writeServer
  | _ => none

/-- The variables of the environment that the tools know. -/
def knownVariables : IO (List (String × String)) := do
  let names := ["BLOCKDB_SERVER", "BLOCKDB_TOOL", "PORT"]
  let values ← names.mapM fun name => do
    return (← IO.getEnv name).map fun value => (name, value)
  return values.filterMap id

def surroundings (shellVariables : List (String × String)) : CommandLine.Surroundings where
  shellVariables
  network := .silent
  elapsed := ⟨0, 0⟩
  rehearsal := ⟨[], ⟨[], [], []⟩, []⟩
  words := .ofList []
  patience := 1000

end NodeTrial

/-- Runs the tool that the first argument names, and exits with its code. -/
def main (args : List String) : IO UInt32 := do
  match args with
  | [] => return 2
  | name :: rest =>
    match NodeTrial.toolNamed? name with
    | none => return 2
    | some tool =>
      let surroundings := NodeTrial.surroundings (← NodeTrial.knownVariables)
      let outcome := NodeTrial.CommandLine.run surroundings tool rest
      outcome.lines.forM IO.println
      outcome.error.forM IO.eprintln
      return UInt32.ofNat outcome.code
