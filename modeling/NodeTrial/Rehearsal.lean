import NodeTrial.FileTree
import NodeTrial.Tester

/-! A rehearsal: the tools run in surroundings of their own, where some executors stand ready, some
directories can be written to and no server answers. What an executor was handed is kept, so
that it can be seen afterwards.
-/

namespace NodeTrial

/-- An executor that stands ready: its place, whether it can be started without a program that runs
it, and whether it does what it is asked to.
-/
structure ReadyTool where
  place : List String
  direct : Bool
  journals : Bool
  deriving DecidableEq, Repr

/-- The surroundings of a rehearsal: the executors, the other files and the ports in use. -/
structure Rehearsal where
  tools : List ReadyTool
  tree : FileTree
  busyPorts : List Nat
  deriving DecidableEq, Repr

namespace Rehearsal

def files (r : Rehearsal) : FileTree :=
  { r.tree with files := r.tools.map ReadyTool.place ++ r.tree.files }

def tool? (r : Rehearsal) (place : List String) : Option ReadyTool :=
  r.tools.find? fun tool => tool.place = place

/-- The executor that a path leads to. -/
def toolOf? (r : Rehearsal) (path : String) : Option ReadyTool :=
  match r.files.locate path with
  | .ok place => r.tool? place
  | .error _ => none

/-- The executor that runs when a program is started, if one does, or why the program cannot be
started. A program that reads scripts runs the one it is given, and a launcher starts the
program that its arguments name; either starts even if there is no such thing.
-/
def start (r : Rehearsal) (program : String) (args : List String)
    : Except IoError (Option ReadyTool) := do
  match ← r.files.start program args with
  | .file place =>
    match r.tool? place with
    | some tool => if tool.direct then return some tool else throw (.system .permissionDenied)
    | none => throw (.system .permissionDenied)
  | .program (.shell _) => return args.head?.bind r.toolOf?
  | .program .launcher => return (args.head?.bind r.toolOf?).filter ReadyTool.direct
  | .program _ => return none

/-- Starts the executor that a run is configured with. -/
def startTool (r : Rehearsal) (config : TesterConfig) (key : String)
    : Except IoError (Option ReadyTool) :=
  let (program, args) := config.command.invocation key config.transactionFile
  r.start program args

/-- Why no server answers: connections are refused, and other schemes than these two have none. -/
def refusal (server : Url) : TransportError :=
  if server.scheme = "http" ∨ server.scheme = "https" then .noConnection else .other

/-- Writes the transaction file. -/
def write (r : Rehearsal) (config : TesterConfig) : Except IoError Unit :=
  if canHandOver config.transactionFile then
    (r.files.write config.transactionFile).mapError .system
  else .error .nulCharacter

def environment (r : Rehearsal) (config : TesterConfig) : Environment where
  write _ _ := r.write config
  execute _ key := (r.startTool config key).map fun _ => ⟨some 0, "", ""⟩
  fetch _ _ := .error (refusal config.server)

/-- An executor works when it is started with a key: it keeps what it is handed, unless the
transaction file has taken its own place.
-/
def works (r : Rehearsal) (config : TesterConfig) (key : String) : Bool :=
  match r.startTool config key with
  | .ok (some tool) =>
    tool.journals && (r.files.locate config.transactionFile).toOption != some tool.place
  | _ => false

/-- What the executor was handed in a history, in order: each key with the transaction file. -/
def handedOver (r : Rehearsal) (config : TesterConfig) (history : List Action)
    : List (String × String) :=
  (journal history).filter fun (key, _) => r.works config key

end Rehearsal

end NodeTrial
