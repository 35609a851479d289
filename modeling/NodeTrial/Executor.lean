import NodeTrial.IoError
import NodeTrial.Text.Blank
import NodeTrial.Text.Quoted
import NodeTrial.Text.Utf8
import NodeTrial.Url.Basic

/-! The external executor that signs and sends transactions: how it is invoked, and what a run of
it leaves behind. Only what it writes to its error output tells a failure; its exit status does
not.
-/

namespace NodeTrial

/-- How the executor is invoked: the program that runs it, if any, its own path, and the server
it is pointed at.
-/
structure ToolCommand where
  interpreter : Option String
  tool : String
  server : String
  deriving DecidableEq, Repr

namespace ToolCommand

/-- A text without the slashes at its end. -/
def withoutSlashes (s : String) : String :=
  String.ofList (s.toList.reverse.dropWhile (· = '/')).reverse

/-- The command for an interpreter, a tool and a server. A blank interpreter is none. -/
def of (interpreter : Option String) (tool : String) (server : Url) : ToolCommand where
  interpreter := interpreter.filter fun text => !Text.isBlankText text
  tool
  server := withoutSlashes server.text

/-- The arguments that name the transaction file, the signer's key and the server. -/
def options (c : ToolCommand) (key file : String) : List String :=
  ["--transactionFile=" ++ file, "--privateKey=" ++ key, "--server=" ++ c.server]

/-- The program to start and its arguments. -/
def invocation (c : ToolCommand) (key file : String) : String × List String :=
  match c.interpreter with
  | some interpreter => (interpreter, c.tool :: c.options key file)
  | none => (c.tool, c.options key file)

/-- The command line as it is shown. -/
def display (c : ToolCommand) (key file : String) : String :=
  let (program, args) := c.invocation key file
  " ".intercalate (program :: args)

end ToolCommand

/-- What a run of the executor leaves behind: its exit code, none if a signal ended it, and what
it wrote.
-/
structure ToolOutput where
  code : Option Nat
  stdout : String
  stderr : String
  deriving DecidableEq, Repr

namespace ToolOutput

/-- The output of a run that wrote these bytes; what is not UTF-8 in them is replaced. -/
def ofBytes (code : Option Nat) (stdout stderr : List UInt8) : ToolOutput :=
  ⟨code, Text.decodeLossy stdout, Text.decodeLossy stderr⟩

/-- The run exited with code zero. -/
def succeeded (o : ToolOutput) : Bool :=
  o.code = some 0

/-- The run reported an error: it wrote something other than blanks to its error output. -/
def hadError (o : ToolOutput) : Bool :=
  !Text.isBlankText o.stderr

/-- What the log says of a run that reported an error: both outputs, without the blanks around them.
-/
def complaint (o : ToolOutput) : String :=
  "Command had error with output " ++ Text.quoted (Text.trim o.stdout) ++ "; stderr "
    ++ Text.quoted (Text.trim o.stderr)

end ToolOutput

end NodeTrial
