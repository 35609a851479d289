/-! Reading a command line. Options are named by a word or a letter and take one value each, after
an equals sign or as the next argument; what is no option is positional. Arguments are read
from left to right, and the first one that is wrong, or asks for something else than a run,
decides.
-/

namespace NodeTrial.CommandLine

/-- An option: its word, its letter, which values it takes, whether it may be given again, and the
environment variable that stands in for it.
-/
structure Flag where
  word : String
  letter : Option Char
  takes : String → Bool
  many : Bool
  standIn : Option String

/-- The options of a tool, and the least number of positional arguments in a row; none means that
there are no positional arguments.
-/
structure Grammar where
  flags : List Flag
  positional : Option Nat

/-- What a command line asks for instead of a run, or why it asks for nothing. -/
inductive Stop where
  | version
  | help
  | usage
  deriving DecidableEq, Repr

/-- What is read so far: the values of options by their words, the positional arguments, and how
many of those came in a row just now.
-/
structure Arguments where
  values : List (String × String)
  positional : List String
  row : Nat
  deriving DecidableEq, Repr

namespace Arguments

/-- Nothing read yet. -/
def none : Arguments :=
  ⟨[], [], 0⟩

/-- The values of an option, in the order given. -/
def all (a : Arguments) (word : String) : List String :=
  (a.values.filter fun entry => entry.1 = word).map (·.2)

/-- The value of an option, if it was given. -/
def first? (a : Arguments) (word : String) : Option String :=
  a.values.lookup word

/-- The value of an option, or else the default. -/
def firstOr (a : Arguments) (word default : String) : String :=
  (a.first? word).getD default

end Arguments

/-- Ends a row of positional arguments, which must be long enough. -/
def endRow (g : Grammar) (a : Arguments) : Except Stop Arguments :=
  if a.row = 0 ∨ g.positional.any (· ≤ a.row) then .ok { a with row := 0 } else .error .usage

/-- Takes in the value of an option. -/
def addValue (flag : Flag) (value : String) (a : Arguments) : Except Stop Arguments :=
  if flag.takes value ∧ (flag.many ∨ (a.first? flag.word).isNone) then
    .ok { a with values := a.values ++ [(flag.word, value)] }
  else .error .usage

def addPositional (g : Grammar) (value : String) (a : Arguments) : Except Stop Arguments :=
  if g.positional.isSome then
    .ok { a with positional := a.positional ++ [value], row := a.row + 1 }
  else .error .usage

/-- An argument that is no value: it starts with a dash and is more than that. -/
def isOption (arg : String) : Bool :=
  match arg.toList with
  | '-' :: _ :: _ => true
  | _ => false

/-- The form of an argument: an option's word or letter, with its value if that is attached. -/
inductive Form where
  | long (word : String) (value : Option String)
  | short (letter : Char) (value : Option String)
  | endOfOptions
  | value
  deriving DecidableEq, Repr

def formOf (arg : String) : Form :=
  match arg.toList with
  | ['-', '-'] => .endOfOptions
  | '-' :: '-' :: rest =>
    let word := rest.takeWhile (· != '=')
    .long (String.ofList word)
      (if word.length < rest.length then some (String.ofList (rest.drop (word.length + 1)))
       else none)
  | ['-'] => .value
  | ['-', letter] => .short letter none
  | '-' :: letter :: '=' :: rest => .short letter (some (String.ofList rest))
  | '-' :: letter :: rest => .short letter (some (String.ofList rest))
  | _ => .value

/-- What an argument leaves to be read: more arguments, the value of an option first, or
positional arguments alone.
-/
inductive Next where
  | any (a : Arguments)
  | value (flag : Flag) (a : Arguments)
  | positional (a : Arguments)

/-- Takes in an option, with its value if that is attached. -/
def readOption (flag? : Option Flag) (value : Option String) (a : Arguments)
    : Except Stop Next :=
  match flag?, value with
  | none, _ => .error .usage
  | some flag, some value => (addValue flag value a).map .any
  | some flag, none => .ok (.value flag a)

/-- Takes in one argument that is not the value of an option before it. -/
def readArgument (g : Grammar) (arg : String) (a : Arguments) : Except Stop Next :=
  match formOf arg with
  | .long "version" none | .short 'V' _ => do
    let _ ← endRow g a
    throw .version
  | .long "help" none | .short 'h' _ => do
    let _ ← endRow g a
    throw .help
  | .long word value => do
    readOption (g.flags.find? fun flag => flag.word = word) value (← endRow g a)
  | .short letter value => do
    readOption (g.flags.find? fun flag => flag.letter = some letter) value (← endRow g a)
  | .endOfOptions => .ok (.positional a)
  | .value => (addPositional g arg a).map .any

/-- Reads the arguments from left to right. -/
def readArguments (g : Grammar) : Next → List String → Except Stop Arguments
  | .any a, [] => endRow g a
  | .any a, arg :: rest => do readArguments g (← readArgument g arg a) rest
  | .value _ _, [] => .error .usage
  | .value flag a, arg :: rest =>
    if isOption arg then .error .usage
    else do readArguments g (.any (← addValue flag arg a)) rest
  | .positional a, [] => endRow g a
  | .positional a, arg :: rest => do readArguments g (.positional (← addPositional g arg a)) rest

/-- Takes the values of options that were not given from the environment's variables. -/
def addVariables (shellVariables : List (String × String)) (flags : List Flag) (a : Arguments)
    : Except Stop Arguments :=
  flags.foldlM (fun a flag =>
    match flag.standIn.bind fun name => shellVariables.lookup name with
    | some value => if (a.first? flag.word).isSome then .ok a else addValue flag value a
    | none => .ok a) a

/-- Reads a whole command line: the arguments, then the variables of the environment. -/
def read (g : Grammar) (shellVariables : List (String × String)) (args : List String)
    : Except Stop Arguments := do
  addVariables shellVariables g.flags (← readArguments g (.any .none) args)

end NodeTrial.CommandLine
