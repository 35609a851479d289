import NodeTrial.Executor.Script.Command
import NodeTrial.FileTree

/-! The state of a running script: its variables, what its channels are tied to, what it has written
and what it has set up for later.
-/

namespace NodeTrial.Script

/-- What a channel is tied to: a text that is written at its end and read from its front, a file, or
one of the devices that take everything, take nothing or give zeros.
-/
inductive Stream where
  | text (index : Nat)
  | file (place : List String)
  | nothing
  | full
  | zeros
  deriving DecidableEq, Repr

/-- A variable: its value if it has one, whether it is fixed, and whether programs see it. -/
structure Variable where
  value : Option String
  fixed : Bool
  exported : Bool
  deriving DecidableEq, Repr

/-- The state of a running script. -/
structure Shell where
  dialect : Dialect
  tree : FileTree
  name : String
  arguments : List String
  bindings : List (String × Variable)
  functions : List (String × Command)
  options : List String
  traps : List (String × String)
  status : Nat
  outputStatus : Option Nat
  channels : List (Nat × Stream)
  texts : Array String
  files : List (List String × String)
  guarded : Bool
  loops : Nat
  calls : Nat
  process : Nat
  ancestors : List Nat
  depth : Nat
  level : Nat
  pending : List (Nat × Nat)
  jobs : List (Nat × Nat)
  locals : List (List (String × Option Variable))

/-- What ends the run of commands before their end: the script exits or is killed, a function
returns, a loop is left or goes on, the rest of a line is dropped, or the script runs for too
long.
-/
inductive Halt where
  | exited
  | killed (signal : Nat)
  | returned
  | left (levels : Nat) (again : Bool)
  | dropped
  | lost
  deriving DecidableEq, Repr

abbrev Run : Type → Type :=
  ExceptT Halt (StateM Shell)

/-- An association list with another value for a key. -/
def put {α β : Type} [BEq α] (key : α) (value : β) : List (α × β) → List (α × β)
  | [] => [(key, value)]
  | (k, v) :: rest => if k == key then (key, value) :: rest else (k, v) :: put key value rest

/-- An association list without a key. -/
def remove {α β : Type} [BEq α] (key : α) (entries : List (α × β)) : List (α × β) :=
  entries.filter fun (k, _) => !(k == key)

namespace Shell

/-- The number of the process of a script that is not run by another one. -/
def firstProcess : Nat := 1000

/-- The number of the process that started a script. -/
def parent (s : Shell) : Nat :=
  s.ancestors.headD (firstProcess - 1)

def nextJob (s : Shell) : Nat :=
  s.process + s.jobs.length + 1

/-- The status of a command that is no command in the right form: the dialects differ. -/
def usageStatus (s : Shell) : Nat :=
  match s.dialect with
  | .plain => 2
  | .extended => 1

def hasOption (s : Shell) (option : String) : Bool :=
  s.options.contains option

/-- The characters at which values are divided into fields. -/
def separators (s : Shell) : List Char :=
  match (s.bindings.lookup "IFS").bind Variable.value with
  | some value => value.toList
  | none => [' ', '\t', '\n']

/-- The text between joined arguments. -/
def joint (s : Shell) : String :=
  match (s.bindings.lookup "IFS").bind Variable.value with
  | some value => String.ofList (value.toList.take 1)
  | none => " "

def optionLetters (s : Shell) : String :=
  let letters := [("errexit", 'e'), ("noglob", 'f'), ("nounset", 'u'), ("verbose", 'v'),
    ("xtrace", 'x'), ("noclobber", 'C'), ("noexec", 'n'), ("allexport", 'a')]
  let own := match s.dialect with
    | .plain => []
    | .extended => ['h', 'B']
  String.ofList (((letters.filter fun (name, _) => s.hasOption name).map (·.2)) ++ own)

/-- The value of a parameter that stands for one text. -/
def value? (s : Shell) (parameter : String) : Option String :=
  match parameter with
  | "#" => some (Text.natText s.arguments.length)
  | "?" => some (Text.natText s.status)
  | "$" => some (Text.natText s.process)
  | "PPID" => some (Text.natText s.parent)
  | "!" => s.jobs.head?.map fun (job, _) => Text.natText job
  | "-" => some s.optionLetters
  | "0" => some s.name
  | "@" | "*" => if s.arguments.isEmpty then none else some (s.joint.intercalate s.arguments)
  | name =>
    match Text.digits? name.toList with
    | some n => s.arguments[n - 1]?
    | none => (s.bindings.lookup name).bind Variable.value

def content? (s : Shell) (place : List String) : Option String :=
  match s.files.lookup place with
  | some content => some content
  | none =>
    match s.tree.standing? place with
    | some .file => some ""
    | _ => none

/-- The tree of files with those that the script has made. -/
def allFiles (s : Shell) : FileTree :=
  { s.tree with files := s.files.map (·.1) ++ s.tree.files }

end Shell

/-- Goes on only for a while: the script runs for too long. -/
def lost {α : Type} : Run α :=
  throw .lost

def streamOf (channel : Nat) : Run (Option Stream) := do
  return (← get).channels.lookup channel

def newText (content : String) : Run Nat := do
  let s ← get
  set { s with texts := s.texts.push content }
  return s.texts.size

/-- Writes to a stream. The answer says whether it could be written to. -/
def writeTo (stream : Stream) (text : String) : Run Bool := do
  match stream with
  | .text index =>
    modify fun s => { s with texts := s.texts.modify index (· ++ text) }
    return true
  | .file place =>
    modify fun s => { s with files := put place ((s.content? place).getD "" ++ text) s.files }
    return true
  | .nothing | .zeros => return true
  | .full => return text.isEmpty

def write (channel : Nat) (text : String) : Run Bool := do
  if text.isEmpty then return true
  match ← streamOf channel with
  | some stream => writeTo stream text
  | none => return false

/-- Writes to the channel of errors. -/
def report (text : String) : Run Unit := do
  let _ ← write 2 text

/-- Writes what is wrong to the channel of errors. -/
def complain (text : String) : Run Unit := do
  report ((← get).name ++ ": 1: " ++ text ++ "\n")

def setStatus (status : Nat) : Run Unit :=
  modify fun s => { s with status }

/-- Ends the script because of an error. -/
def fail {α : Type} (text : String) : Run α := do
  complain text
  setStatus (← get).usageStatus
  throw .exited

/-- Ends the script because of an error, or only the line in the extended dialect. -/
def failLine {α : Type} (text : String) : Run α := do
  complain text
  setStatus (← get).usageStatus
  throw (if (← get).dialect = .plain then .exited else .dropped)

/-- Takes all that is left to read on a channel. -/
def readAll (channel : Nat) : Run String := do
  match ← streamOf channel with
  | some (.text index) =>
    let text := (← get).texts.getD index ""
    modify fun s => { s with texts := s.texts.setIfInBounds index "" }
    return text
  | _ => return ""

/-- Takes the next line on a channel without its end, and whether it had one. -/
def readLineOf (channel : Nat) : Run (String × Bool) := do
  match ← streamOf channel with
  | some (.text index) =>
    let text := ((← get).texts.getD index "").toList
    let (line, rest) := Text.upTo (· == '\n') text
    let left := String.ofList (rest.drop 1)
    modify fun s => { s with texts := s.texts.setIfInBounds index left }
    return (String.ofList line, !rest.isEmpty)
  | _ => return ("", false)

/-- Gives a variable a value. -/
def assign (name value : String) : Run Unit := do
  let s ← get
  let old := (s.bindings.lookup name).getD ⟨none, false, s.hasOption "allexport"⟩
  if old.fixed then failLine (name ++ ": is read only")
  set { s with bindings := put name { old with value := some value } s.bindings }

/-- Changes a variable in another way than by its value. -/
def mark (name : String) (change : Variable → Variable) : Run Unit :=
  modify fun s =>
    let old := (s.bindings.lookup name).getD ⟨none, false, false⟩
    { s with bindings := put name (change old) s.bindings }

/-- Runs commands and undoes one change of the state afterwards, however they end. -/
def restoring {α : Type} (restore : (before after : Shell) → Shell) (body : Run α) : Run α := do
  let before ← get
  try
    let result ← body
    modify (restore before)
    return result
  catch halt =>
    modify (restore before)
    throw halt

/-- Runs commands whose failure does not end the script. -/
def guarding (body : Run Unit) : Run Unit :=
  restoring (fun before after => { after with guarded := before.guarded }) do
    modify fun s => { s with guarded := true }
    body

def signalOf? (dialect : Dialect) (name : String) : Option Nat :=
  let isLong := dialect = .extended ∧ (name.map Char.toUpper).startsWith "SIG"
  let bare := if isLong then String.ofList (name.toList.drop 3) else name
  let named := [("EXIT", 0), ("HUP", 1), ("INT", 2), ("QUIT", 3), ("ILL", 4), ("TRAP", 5),
    ("ABRT", 6), ("IOT", 6), ("BUS", 7), ("FPE", 8), ("KILL", 9), ("USR1", 10), ("SEGV", 11),
    ("USR2", 12), ("PIPE", 13), ("ALRM", 14), ("TERM", 15), ("STKFLT", 16), ("CHLD", 17),
    ("CONT", 18), ("STOP", 19), ("TSTP", 20), ("TTIN", 21), ("TTOU", 22), ("URG", 23),
    ("XCPU", 24), ("XFSZ", 25), ("VTALRM", 26), ("PROF", 27), ("WINCH", 28), ("IO", 29),
    ("POLL", 29), ("PWR", 30), ("SYS", 31)]
  match named.lookup (bare.map Char.toUpper) with
  | some number => some number
  | none => (Text.digits? name.toList).filter (· ≤ 64)

/-- Signals that a script does not notice unless it asks for them. -/
def quietSignals (dialect : Dialect) : List Nat :=
  [0, 17, 18, 23, 28] ++
    match dialect with
    | .plain => []
    | .extended => [3]

/-- What is said of a program that a signal has killed. -/
def obituary? (signal : Nat) : Option String :=
  [(1, "Hangup"), (3, "Quit"), (4, "Illegal instruction"), (5, "Trace/breakpoint trap"),
    (6, "Aborted"), (7, "Bus error"), (8, "Floating point exception"), (9, "Killed"),
    (10, "User defined signal 1"), (11, "Segmentation fault"), (12, "User defined signal 2"),
    (14, "Alarm clock"), (15, "Terminated")].lookup signal

end NodeTrial.Script
