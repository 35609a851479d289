import NodeTrial.Executor.Script.Condition
import NodeTrial.Executor.Script.Fields
import NodeTrial.Executor.Script.Shell
import NodeTrial.Executor.Script.Utility

/-! Commands that act on a running script itself and need to run no other command: they print, read,
set variables and options, or end a part of the script.
-/

namespace NodeTrial.Script

def contentOf (s : Shell) (path : String) : Except SystemError String := do
  let place ← s.allFiles.locate path
  match s.content? place, s.allFiles.standing? place with
  | some content, _ =>
    if place = ["dev", "zero"] then return String.ofList (List.replicate 300000 '\x00')
    else return content
  | none, some .directory => throw .isADirectory
  | none, some _ => return ""
  | none, none => throw .notFound

/-- What conditions can ask about files and variables. -/
def factsOf (s : Shell) : FileFacts :=
  let standing (path : String) : Option Standing :=
    match s.allFiles.locate path with
    | .ok place => s.allFiles.standing? place
    | .error _ => none
  let inDevices (path : String) : Bool :=
    match s.allFiles.locate path with
    | .ok place => place.head? == some "dev"
    | .error _ => false
  { isFile := fun path =>
      match standing path with
      | some .file => !inDevices path
      | some (.program _) => true
      | _ => false
    isDirectory := fun path => standing path matches some .directory
    isDevice := fun path => (standing path matches some .file) && inDevices path
    hasContent := fun path =>
      match contentOf s path with
      | .ok content => !inDevices path && content != ""
      | .error _ => false
    mayRun := fun path => standing path matches some (.program _)
    isSet := fun name => (s.value? name).isSome }

/-- What programs can read. The input is taken only if they ask for it. -/
def readingsOf (takesInput : Bool) : Run Readings := do
  let input ← if takesInput then readAll 0 else pure ""
  let s ← get
  return ⟨input, contentOf s⟩

/-- Prints a text as a command; it fails if nothing can be written. -/
def print (name text : String) : Run Unit := do
  if ← write 1 text then setStatus 0
  else
    complain (name ++ ": I/O error")
    setStatus 1

def printFormatted (args : List String) : Run Unit := do
  let dialect := (← get).dialect
  let isBare := args.head? = some "--"
  let args := if isBare then args.drop 1 else args
  match dialect, args with
  | .plain, [] =>
    complain "usage: printf format [arg ...]"
    setStatus 2
  | .extended, [] =>
    report usage
    setStatus 2
  | .extended, "-v" :: name :: format :: args =>
    let (text, status, _) := formatText dialect format args
    assign name text
    setStatus status
  | _, format :: args =>
    if format.startsWith "-" ∧ format ≠ "-" ∧ ¬isBare then
      complain ("printf: Illegal option " ++ format)
      if dialect = .extended then report usage
      setStatus 2
    else
      let (text, status, warned) := formatText dialect format args
      print "printf" text
      if warned then complain "printf: expected numeric value"
      if status ≠ 0 then setStatus status
where
  /-- How the command is used. -/
  usage : String := "printf: usage: printf [-v var] format [arguments]\n"

/-- A status that an argument gives, if there is one, kept in a byte if `inByte` says so; in the
extended dialect it may be negative.
-/
def statusOf (inByte : Bool) (name : String) : List String → Run Nat
  | [] => return (← get).status
  | arg :: _ => do
    let number? := match (← get).dialect with
      | .plain => (Text.digits? arg.toList).map Int.ofNat
      | .extended => Text.integer? arg.toList
    match number? with
    | some n => return if inByte then (n % 256).toNat else n.toNat
    | none =>
      complain (name ++ ": Illegal number: " ++ arg)
      setStatus 2
      throw .exited

/-- Leaves loops, or goes on with the next round of one. -/
def leave (again : Bool) (args : List String) : Run Unit := do
  let s ← get
  let levels ← match args with
    | [] => pure 1
    | arg :: _ =>
      match (Text.digits? arg.toList).filter (· != 0) with
      | some n => pure n
      | none => fail ("Illegal number: " ++ arg)
  setStatus 0
  if s.loops = 0 then
    if s.dialect = .extended then complain "only meaningful in a loop"
    return
  throw (.left (min levels s.loops) again)

/-- Drops arguments at the front. -/
def shift (args : List String) : Run Unit := do
  let s ← get
  let n ← match args with
    | [] => pure 1
    | arg :: _ =>
      match Text.digits? arg.toList with
      | some n => pure n
      | none => fail ("shift: Illegal number: " ++ arg)
  if s.arguments.length < n then
    if s.dialect = .plain then fail "shift: can't shift that many"
    setStatus 1
  else set { s with arguments := s.arguments.drop n, status := 0 }

def optionNames : List (Char × String) :=
  [('e', "errexit"), ('u', "nounset"), ('x', "xtrace"), ('f', "noglob"), ('v', "verbose"),
   ('n', "noexec"), ('a', "allexport"), ('C', "noclobber"), ('b', "notify"), ('m', "monitor")]

/-- Switches an option on or off. -/
def switch (isOn : Bool) (name : String) : Run Unit := do
  let s ← get
  let known := (optionNames.map (·.2)) ++ ["ignoreeof", "vi", "emacs", "nolog"] ++
    (if s.dialect = .extended then ["pipefail", "posix", "errtrace", "functrace", "physical"]
     else [])
  if !known.contains name then
    complain ("set: Illegal option -o " ++ name)
    setStatus 2
    if s.dialect = .plain then throw .exited
  else
    let others := s.options.filter (· != name)
    set { s with options := if isOn then name :: others else others }

/-- Switches options by their letters; some letter asks for a name. -/
def switchLetters (isOn : Bool) : List Char → Run Bool
  | [] => return false
  | c :: rest => do
    let s ← get
    if c = 'o' then
      let _ ← switchLetters isOn rest
      return true
    match optionNames.lookup c with
    | some name => switch isOn name
    | none =>
      if s.dialect = .plain ∨ !(['h', 'B', 'E', 'T', 'H', 'P', 'k', 't', 'p'].contains c) then
        complain ("set: Illegal option -" ++ c.toString)
        setStatus 2
        if s.dialect = .plain then throw .exited
    switchLetters isOn rest

/-- Sets options and arguments; a name of an option may be still to come. -/
def setOptions : (waiting : Option Bool) → List String → Run Unit
  | _, [] => return
  | some isOn, name :: rest => do
    switch isOn name
    setOptions none rest
  | none, arg :: rest => do
    match arg.toList with
    | ['-', '-'] => modify fun s => { s with arguments := rest }
    | ['-'] | ['+'] =>
      if !rest.isEmpty then modify fun s => { s with arguments := rest }
    | '-' :: letters =>
      let waits ← switchLetters true letters
      setOptions (if waits then some true else none) rest
    | '+' :: letters =>
      let waits ← switchLetters false letters
      setOptions (if waits then some false else none) rest
    | _ => modify fun s => { s with arguments := arg :: rest }

/-- The name and the value of an argument that may be an assignment. -/
def assignmentOf (arg : String) : String × Option String :=
  match Text.splitFirst? (· == '=') arg.toList with
  | some (name, value) => (String.ofList name, some (String.ofList value))
  | none => (arg, none)

/-- A name that a variable can have. -/
def isName (name : String) : Bool :=
  name.toList.head?.any (fun c => c.isAlpha || c == '_') &&
    name.toList.all fun c => c.isAlphanum || c == '_'

/-- Changes variables that arguments name, after giving them the values that these hold. -/
def declare (command : String) (args : List String) (change : Variable → Variable) : Run Unit := do
  setStatus 0
  let options := args.takeWhile fun arg => arg.startsWith "-"
  if options.any (· != "-p") ∧ (← get).dialect = .plain then
    fail (command ++ ": Illegal option")
  for arg in args.drop options.length do
    let (name, value) := assignmentOf arg
    if !isName name then
      complain (command ++ ": " ++ name ++ ": bad variable name")
      setStatus (← get).usageStatus
      if (← get).dialect = .plain then throw .exited
    else
      match value with
      | some value => assign name value
      | none => pure ()
      mark name change

/-- Makes variables that are undone when the function ends. -/
def declareLocal (args : List String) : Run Unit := do
  let s ← get
  if s.calls = 0 then
    complain "local: not in a function"
    setStatus s.usageStatus
    if s.dialect = .plain then throw .exited
    return
  setStatus 0
  for arg in args.filter fun arg => !arg.startsWith "-" do
    let (name, value) := assignmentOf arg
    modify fun s =>
      match s.locals with
      | saved :: outer =>
        if (saved.lookup name).isSome then s
        else { s with locals := ((name, s.bindings.lookup name) :: saved) :: outer }
      | [] => s
    match value with
    | some value => assign name value
    | none =>
      if s.dialect = .extended then mark name fun v => { v with value := none }

/-- Removes variables or functions. -/
def unset (args : List String) : Run Unit := do
  setStatus 0
  match args with
  | "-f" :: names =>
    modify fun s => { s with functions := names.foldl (fun fs name => remove name fs) s.functions }
  | args =>
    for name in (if args.head? = some "-v" then args.drop 1 else args) do
      let s ← get
      if (s.bindings.lookup name).any Variable.fixed then
        complain ("unset: " ++ name ++ ": is read only")
        setStatus s.usageStatus
        if s.dialect = .plain then throw .exited
      else
        let isFunction := s.dialect = .extended ∧ (s.bindings.lookup name).isNone
        set { s with
          bindings := remove name s.bindings
          functions := if isFunction then remove name s.functions else s.functions }

/-- The characters of a line that is read, each with a mark if a backslash stands before it, and
whether the line goes on after its end.
-/
def readEscapes (raw : Bool) : List Char → List (Char × Bool) × Bool
  | [] => ([], false)
  | ['\\'] => if raw then ([('\\', false)], false) else ([], true)
  | '\\' :: c :: rest =>
    if raw then
      let (more, goesOn) := readEscapes raw (c :: rest)
      (('\\', false) :: more, goesOn)
    else
      let (more, goesOn) := readEscapes raw rest
      ((c, true) :: more, goesOn)
  | c :: rest =>
    let (more, goesOn) := readEscapes raw rest
    ((c, false) :: more, goesOn)

/-- Reads a line, with those that it goes on with, of which there are fewer than `bound`. -/
def readEscapedLine (raw : Bool) : (bound : Nat) → Run (List (Char × Bool) × Bool)
  | 0 => return ([], false)
  | bound + 1 => do
    let (line, hasEnd) ← readLineOf 0
    let (cs, goesOn) := readEscapes raw line.toList
    if goesOn ∧ hasEnd then
      let (more, hasEnd) ← readEscapedLine raw bound
      return (cs ++ more, hasEnd)
    return (cs, hasEnd)

/-- Reads a line into variables. -/
def readInto (args : List String) : Run Unit := do
  let s ← get
  match Utility.takeOptions ['r', 's', 'e'] ['p', 't'] args with
  | none => lost
  | some (options, names) =>
    let lone := names.isEmpty ∧ s.dialect = .extended
    if names.isEmpty ∧ s.dialect = .plain then
      complain "read: arg count"
      setStatus 2
    else
      let (cs, hasEnd) ← readEscapedLine (Utility.has 'r' options) 10000
      if lone then assign "REPLY" (String.ofList (cs.map (·.1)))
      else
        let fields := Fields.ofLine s.separators names.length cs
        for (name, value) in names.zip (fields ++ List.replicate names.length "") do
          assign name value
      setStatus (if hasEnd then 0 else 1)

/-- The key of a signal in the actions that are set up. -/
def trapKey? (dialect : Dialect) (name : String) : Option String :=
  if dialect = .extended ∧ ["ERR", "DEBUG", "RETURN"].contains name then some name
  else (signalOf? dialect name).map Text.natText

/-- Sets up actions for signals. -/
def setTraps (args : List String) : Run Unit := do
  let s ← get
  setStatus 0
  let args := if args.head? = some "--" then args.drop 1 else args
  match args with
  | [] =>
    for (key, action) in s.traps do
      let name := if key = "0" then "EXIT" else key
      let _ ← write 1 ("trap -- '" ++ action ++ "' " ++ name ++ "\n")
  | action :: names =>
    let (action?, names) :=
      if action = "-" then (none, names)
      else if names.isEmpty ∨ (Text.digits? action.toList).isSome then (none, args)
      else (some action, names)
    for name in names do
      match trapKey? s.dialect name with
      | none =>
        match s.dialect with
        | .plain => report ("trap: " ++ name ++ ": bad trap\n")
        | .extended => complain ("trap: " ++ name ++ ": invalid signal specification")
        setStatus 1
      | some key =>
        modify fun s =>
          { s with traps := match action? with
              | some action => put key action s.traps
              | none => remove key s.traps }

/-- The signal that arguments name, 15 if they name none, and the processes; none for a signal that
is not known.
-/
def signalAnd (dialect : Dialect) (args : List String) : Option (Nat × List String) :=
  match args with
  | "-s" :: name :: rest | "-n" :: name :: rest => 
    (signalOf? dialect name).map fun n => (n, rest)
  | "--" :: rest => some (15, rest)
  | arg :: rest =>
    match arg.toList with
    | '-' :: name => (signalOf? dialect (String.ofList name)).map fun n =>
        (n, if rest.head? = some "--" then rest.drop 1 else rest)
    | _ => some (15, args)
  | [] => some (15, [])

/-- Waits for jobs, which have all ended. -/
def wait (args : List String) : Run Unit := do
  let s ← get
  setStatus 0
  if args.isEmpty ∧ s.dialect = .extended then
    modify fun s => { s with jobs := s.jobs.map fun (job, _) => (job, 127) }
  for arg in args do
    match (Text.digits? arg.toList).bind fun job => s.jobs.lookup job with
    | some status => setStatus status
    | none => setStatus 127

/-- Goes to another directory. -/
def changeDirectory (args : List String) : Run Unit := do
  let s ← get
  let path := (args.head?).getD ((s.value? "HOME").getD "/")
  let path := if path = "-" then (s.value? "OLDPWD").getD "/" else path
  let place? := match s.allFiles.locate path with
    | .ok place => if s.allFiles.standing? place matches some .directory then some place else none
    | .error _ => none
  match place? with
  | some place =>
    let text (place : List String) : String := "/" ++ "/".intercalate place
    assign "OLDPWD" (text s.tree.here)
    assign "PWD" (text place)
    modify fun s => { s with tree := { s.tree with here := place } }
    if args.head? = some "-" then print "cd" (text place ++ "\n") else setStatus 0
  | none =>
    complain ("cd: can't cd to " ++ path)
    setStatus s.usageStatus

/-- Commands that end the script when they are used in a wrong way. -/
def specialNames : List String :=
  [":", ".", "break", "continue", "eval", "exec", "exit", "export", "readonly", "return", "set",
   "shift", "times", "trap", "unset"]

/-- The other commands that a dialect has itself. -/
def builtinNames (dialect : Dialect) : List String :=
  ["true", "false", "echo", "printf", "[", "test", "read", "kill", "wait", "cd", "pwd", "command",
   "type", "umask", "local", "getopts", "alias", "unalias", "hash", "jobs", "ulimit", "bg", "fg"] ++
    (if dialect = .extended then
      ["source", "let", "declare", "typeset", "builtin", "shopt", "mapfile", "readarray", "history",
       "enable", "caller", "dirs", "pushd", "popd", "disown", "suspend", "logout", "help"]
     else [])

/-- A dialect has a command itself. -/
def isBuiltin (dialect : Dialect) (name : String) : Bool :=
  specialNames.contains name || (builtinNames dialect).contains name

/-- Programs that there are on every system, but whose work is not known here. -/
def otherPrograms : List String :=
  ["awk", "perl", "xargs", "tee", "sh", "bash", "dash", "date", "id", "hostname", "timeout", "nproc",
   "bc", "dd", "od", "printenv", "base64", "md5sum", "sha256sum", "mktemp", "ls", "rm", "touch",
   "mkdir", "rmdir", "mv", "cp", "ln", "find", "ps", "stat", "chmod", "whoami", "env", "nohup",
   "nice", "setsid", "nl", "paste", "fold", "comm", "join", "shuf", "tty", "stty", "which", "sync",
   "realpath", "readlink", "python3", "diff", "cmp", "gzip", "tar", "mkfifo"]

/-- A program of this name is on every system. -/
def isProgram (name : String) : Bool :=
  otherPrograms.contains name || (Program.named? name).isSome ||
    ["cat", "head", "tail", "wc", "tr", "sort", "uniq", "cut", "seq", "grep", "egrep", "fgrep",
     "sed", "expr", "rev", "tac", "sleep", "yes", "uname", "basename", "dirname", "echo", "printf",
     "kill", "pwd"].contains name

/-- Says what names stand for. -/
def describe (short : Bool) (names : List String) : Run Unit := do
  setStatus 0
  for name in names do
    let s ← get
    let reserved := ["if", "then", "else", "elif", "fi", "case", "esac", "for", "while", "until",
      "do", "done", "\x7b", "\x7d", "!"]
    let path := "/usr/bin/" ++ name
    let text? :=
      if reserved.contains name then
        some (if short then name else name ++ " is a shell keyword")
      else if (s.functions.lookup name).isSome then
        let kind := if s.dialect = .plain then "shell function" else "function"
        some (if short then name else name ++ " is a " ++ kind)
      else if isBuiltin s.dialect name then
        let kind := if s.dialect = .plain ∧ specialNames.contains name then "special shell builtin"
          else "shell builtin"
        some (if short then name else name ++ " is a " ++ kind)
      else if isProgram name then some (if short then path else name ++ " is " ++ path)
      else if name.contains '/' then
        match s.allFiles.startable name with
        | .ok (.program _) => some (if short then name else name ++ " is " ++ name)
        | _ => none
      else none
    match text? with
    | some text => let _ ← write 1 (text ++ "\n")
    | none =>
      setStatus (if s.dialect = .plain then 127 else 1)
      if !short then
        let text := name ++ ": not found"
        if s.dialect = .plain then let _ ← write 1 (text ++ "\n")
        else complain ("type: " ++ text)

/-- Calculates sums as a command: the status tells whether the last one is zero. -/
def letSums (args : List String) : Run Unit := do
  for arg in args do
    let s ← get
    match Sum.calculate s.dialect s.value? arg with
    | .ok (value, assigned) =>
      for (name, n) in assigned do assign name (Text.intText n)
      setStatus (if value = 0 then 1 else 0)
    | .error _ =>
      complain ("let: " ++ arg ++ ": syntax error")
      setStatus 1

/-- Runs a command that the script itself has and that needs no other command. The answer is no if
this is no such command.
-/
def runBuiltin (name : String) (args : List String) : Run Bool := do
  let s ← get
  if !isBuiltin s.dialect name then return false
  match name with
  | ":" | "true" => setStatus 0
  | "false" => setStatus 1
  | "echo" => print "echo" (echoText s.dialect args)
  | "printf" => printFormatted args
  | "exit" =>
    setStatus (← statusOf true "exit" args)
    throw .exited
  | "break" => leave false args
  | "continue" => leave true args
  | "shift" => shift args
  | "set" =>
    if args.isEmpty then lost
    setStatus 0
    setOptions none args
  | "unset" => unset args
  | "export" =>
    let isTakenBack := args.head? = some "-n"
    declare name args fun v => { v with exported := !isTakenBack }
  | "readonly" =>
    declare name args fun v => { v with fixed := true }
  | "local" => declareLocal args
  | "declare" | "typeset" =>
    if args.any fun arg => arg.startsWith "-a" || arg.startsWith "-A" || arg.startsWith "-p" then
      lost
    if s.calls = 0 then
      declare name (args.filter fun arg => !arg.startsWith "-") id
    else declareLocal args
    if args.contains "-r" then
      for arg in args.filter fun arg => !arg.startsWith "-" do
        mark (assignmentOf arg).1 fun v => { v with fixed := true }
  | "[" =>
    if args.getLast? = some "]" then test args.dropLast
    else
      complain "[: missing ]"
      setStatus 2
  | "test" => test args
  | "read" => readInto args
  | "trap" => setTraps args
  | "wait" => wait args
  | "cd" => changeDirectory args
  | "pwd" => print "pwd" ("/" ++ "/".intercalate s.tree.here ++ "\n")
  | "umask" => if args.isEmpty then print "umask" "0022\n" else setStatus 0
  | "let" => letSums args
  | "type" => describe false args
  | "hash" =>
    if args.isEmpty ∧ s.dialect = .extended then print "hash" "hash: hash table empty\n"
    else setStatus 0
  | "jobs" | "shopt" => setStatus 0
  | "eval" | "return" | "exec" | "kill" | "command" | "builtin" | "." | "source" => return false
  | _ => lost
  return true
where
  /-- Tests a condition. -/
  test (args : List String) : Run Unit := do
    let s ← get
    match Condition.test? s.dialect (factsOf s) args with
    | some holds => setStatus (if holds then 0 else 1)
    | none =>
      complain "test: bad argument"
      setStatus 2

/-- A program reads its input unless its operands are files. -/
def takesInput (name : String) (args : List String) : Bool :=
  match name with
  | "seq" | "basename" | "dirname" | "expr" | "sleep" | "yes" | "uname" => false
  | _ => !args.any (· == "/dev/zero")

/-- Runs a program on texts. The answer is no if it is not known. -/
def runUtility (name : String) (args : List String) : Run Bool := do
  match Utility.run? (← readingsOf (takesInput name args)) name args with
  | none => return false
  | some effect =>
    report effect.errors
    if ← write 1 effect.output then setStatus effect.status
    else
      complain (name ++ ": write error: No space left on device")
      setStatus 1
    return true

/-- Runs a program on files. The answer is no if it is not known. -/
def runOnFiles (name : String) (args : List String) : Run Bool := do
  let operands := args.filter fun arg => !arg.startsWith "-"
  let options := args.filter fun arg => arg.startsWith "-"
  let s ← get
  match name with
  | "tee" =>
    let text ← readAll 0
    let _ ← write 1 text
    setStatus 0
    for path in operands do
      if path = "/dev/stderr" then report text
      else if path = "/dev/stdout" then
        let _ ← write 1 text
      else
        match s.allFiles.target path with
        | .error error =>
          report ("tee: " ++ path ++ ": " ++ error.description ++ "\n")
          setStatus 1
        | .ok place =>
          if place = FileTree.nullDevice then pure ()
          else
            modify fun s =>
              let before := if options.contains "-a" then (s.content? place).getD "" else ""
              { s with files := put place (before ++ text) s.files }
  | "rm" =>
    setStatus 0
    for path in operands do
      let found := match s.allFiles.locate path with
        | .ok place => if (s.files.lookup place).isSome then some place else none
        | .error _ => none
      match found with
      | some place => modify fun s => { s with files := remove place s.files }
      | none =>
        if !options.any fun o => o.contains 'f' then
          report ("rm: cannot remove '" ++ path ++ "': No such file or directory\n")
          setStatus 1
  | "rmdir" =>
    setStatus 0
    for path in operands do
      let found := match s.allFiles.locate path with
        | .ok place => if s.tree.directories.contains place then some place else none
        | .error _ => none
      match found with
      | some place =>
        modify fun s =>
          { s with tree := { s.tree with
            directories := s.tree.directories.filter (· != place) } }
      | none =>
        report ("rmdir: failed to remove '" ++ path ++ "': No such file or directory\n")
        setStatus 1
  | "touch" =>
    setStatus 0
    for path in operands do
      match s.allFiles.target path with
      | .ok place =>
        modify fun s => { s with files := put place ((s.content? place).getD "") s.files }
      | .error error =>
        report ("touch: cannot touch '" ++ path ++ "': " ++ error.description ++ "\n")
        setStatus 1
  | "mkdir" =>
    setStatus 0
    for path in operands do
      match s.allFiles.target path with
      | .ok place =>
        modify fun s =>
          { s with tree := { s.tree with directories := place :: s.tree.directories } }
      | .error error =>
        if error ≠ .isADirectory ∨ !options.contains "-p" then
          let text := if error = .isADirectory then "File exists" else error.description
          report ("mkdir: cannot create directory '" ++ path ++ "': " ++ text ++ "\n")
          setStatus 1
  | "ls" =>
    match operands with
    | [path] =>
      match s.allFiles.locate path with
      | .ok place =>
        match s.allFiles.standing? place with
        | none => missing path .notFound
        | some .directory => return false
        | some _ => print "ls" (path ++ "\n")
      | .error error => missing path error
    | _ => return false
  | "id" => if args = ["-u"] ∨ args = ["-g"] then print "id" "0\n" else return false
  | "whoami" => print "whoami" "root\n"
  | _ => return false
  return true
where
  /-- Says that there is no file to list. -/
  missing (path : String) (error : SystemError) : Run Unit := do
    report ("ls: cannot access '" ++ path ++ "': " ++ error.description ++ "\n")
    setStatus 2

end NodeTrial.Script
