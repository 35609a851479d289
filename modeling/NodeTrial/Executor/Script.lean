import NodeTrial.Executor
import NodeTrial.Executor.Script.Run

/-! Command scripts that stand in for an executor. Such a script can be read but not started by
itself, so what becomes of it is up to the program that is told to run it.
-/

namespace NodeTrial.Script

/-- What a program that was started does with its arguments, the first of which names a script; none
if it does what is not known.
-/
def outputOf? (tree : FileTree) (called : String) (args : List String) (script : String)
    : Program → Option ToolOutput
  | .shell dialect => do
    let ending ← runScript? dialect tree (ofText (args.headD "")) (ofText script)
      ((args.drop 1).map ofText)
    return .ofBytes ending.code (bytesOf ending.output) (bytesOf ending.errors)
  | .launcher =>
    some ⟨some 126, "", called ++ ": '" ++ args.headD "" ++ "': Permission denied\n"⟩
  | program =>
    let (status, errors) := program.refusal called args
    some ⟨some status, "", errors⟩

/-- Runs a command whose tool is a script. -/
def execute? (tree : FileTree) (c : ToolCommand) (script key file : String)
    : Except IoError (Option ToolOutput) := do
  let (program, args) := c.invocation key file
  match ← tree.start program args with
  | .file _ => throw (.system .permissionDenied)
  | .program found => return outputOf? tree program args script found

end NodeTrial.Script
