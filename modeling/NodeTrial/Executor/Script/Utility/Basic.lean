import NodeTrial.Executor.Script.Format
import NodeTrial.IoError

/-! What programs on texts have in common: their options and operands, the lines of the texts, and
what they say of files that they cannot read.
-/

namespace NodeTrial.Script

/-- What a program writes, and its status. -/
structure Effect where
  output : String
  errors : String
  status : Nat
  deriving DecidableEq, Repr

/-- What a program can read: its input, and files. -/
structure Readings where
  input : String
  file : String → Except SystemError String

namespace Utility

/-- A program that succeeds. -/
def written (output : String) : Effect :=
  ⟨output, "", 0⟩

/-- A program that is used in the wrong way. -/
def misused (name problem : String) : Effect :=
  ⟨"", name ++ ": " ++ problem ++ "\nTry '" ++ name ++ " --help' for more information.\n", 1⟩

/-- Takes the letters of one argument with options: those with their values, and one whose value
is the next argument.
-/
def takeLetters (plain valued : List Char) : List Char
    → Option (List (Char × String) × Option Char)
  | [] => some ([], none)
  | c :: rest =>
    if plain.contains c then
      (takeLetters plain valued rest).map fun (letters, last) => ((c, "") :: letters, last)
    else if valued.contains c then
      some (if rest.isEmpty then ([], some c) else ([(c, String.ofList rest)], none))
    else none

/-- Takes options of one letter and the operands among them; the value of an option may be still
to come.
-/
def takeOptionsAfter (plain valued : List Char) : (waiting : Option Char) → List String
    → Option (List (Char × String) × List String)
  | none, [] => some ([], [])
  | some _, [] => none
  | some c, value :: rest => do
    let (options, operands) ← takeOptionsAfter plain valued none rest
    return ((c, value) :: options, operands)
  | none, arg :: rest =>
    match arg.toList with
    | ['-', '-'] => some ([], rest)
    | '-' :: c :: cs => do
      let (letters, waiting) ← takeLetters plain valued (c :: cs)
      let (options, operands) ← takeOptionsAfter plain valued waiting rest
      return (letters ++ options, operands)
    | _ => do
      let (options, operands) ← takeOptionsAfter plain valued none rest
      return (options, arg :: operands)

/-- Takes options of one letter, some of which have a value, and the operands among them. -/
def takeOptions (plain valued : List Char) (args : List String)
    : Option (List (Char × String) × List String) :=
  takeOptionsAfter plain valued none args

def linesIn (text : String) : List String :=
  let rec lines (line : List Char) : List Char → List String
    | [] => if line.isEmpty then [] else [String.ofList line.reverse]
    | c :: rest =>
      if c = '\n' then String.ofList (c :: line).reverse :: lines [] rest
      else lines (c :: line) rest
  lines [] text.toList

/-- A line without its end. -/
def bare (line : String) : String :=
  if line.endsWith "\n" then String.ofList line.toList.dropLast else line

def ended (line : String) : String :=
  bare line ++ "\n"

/-- Characters that a name is shown in quotes for, anywhere in it or at its front. -/
def marks : List Char :=
  [' ', '!', '"', '$', '&', '\'', '(', ')', '*', ':', ';', '<', '=', '>', '?', '[', '\\', '^',
   '\x60', '|', '\t', '\n']
def frontMarks : List Char :=
  ['~', '#']

/-- A name between quotes, double ones if it holds a single one. -/
def inQuotes (name : String) : String :=
  if name.contains '\'' ∧ ¬['"', '$', '\\', '\x60', '!'].any name.toList.contains then
    "\"" ++ name ++ "\""
  else "'" ++ "'\\''".intercalate (name.splitOn "'") ++ "'"

/-- A name as messages show it: in quotes if it holds marks. -/
def shown (name : String) : String :=
  if name.isEmpty ∨ marks.any name.toList.contains ∨ name.toList.head?.any frontMarks.contains then
    inQuotes name
  else name

/-- What a program says of a file that cannot be read, and its status then. -/
def readError (program name : String) (error : SystemError) : String × Nat :=
  let text := error.description ++ "\n"
  match program with
  | "head" | "tail" =>
    (program ++ ": cannot open " ++ inQuotes name ++ " for reading: " ++ text, 1)
  | "tac" => ("tac: failed to open " ++ inQuotes name ++ " for reading: " ++ text, 1)
  | "rev" => ("rev: cannot open " ++ name ++ ": " ++ text, 1)
  | "sort" => ("sort: cannot read: " ++ shown name ++ ": " ++ text, 2)
  | "sed" => ("sed: can't read " ++ name ++ ": " ++ text, 2)
  | "grep" => ("grep: " ++ name ++ ": " ++ text, 2)
  | _ => (program ++ ": " ++ shown name ++ ": " ++ text, 1)

/-- The texts that operands name, with the errors of those that cannot be read and the status; no
operand stands for the input.
-/
def texts (program : String) (r : Readings) (operands : List String)
    : List String × String × Nat :=
  let operands := if operands.isEmpty then ["-"] else operands
  operands.foldl (fun (texts, errors, status) operand =>
    if operand = "-" then (texts ++ [r.input], errors, status)
    else
      match r.file operand with
      | .ok text => (texts ++ [text], errors, status)
      | .error error =>
        let (text, failed) := readError program operand error
        (texts, errors ++ text, failed)) ([], "", 0)

/-- A program that makes one text of those that its operands name. -/
def filter (name : String) (r : Readings) (operands : List String) (change : String → String)
    : Effect :=
  let (found, errors, status) := texts name r operands
  ⟨change (String.join found), errors, status⟩

/-- A program that changes each of the texts that its operands name by itself. -/
def filterEach (name : String) (r : Readings) (operands : List String)
    (change : String → String) : Effect :=
  let (found, errors, status) := texts name r operands
  ⟨String.join (found.map change), errors, status⟩

def last? (letter : Char) (options : List (Char × String)) : Option String :=
  ((options.filter fun (c, _) => c == letter).getLast?).map (·.2)

/-- An option was given. -/
def has (letter : Char) (options : List (Char × String)) : Bool :=
  options.any fun (c, _) => c == letter

/-- A number right-aligned in a width. -/
def column (width n : Nat) : String :=
  String.ofList (padded width false false [] (Nat.toDigits 10 n))

/-- A count that may come with a multiplier. -/
def count? (text : String) : Option Nat :=
  match text.toList.reverse with
  | 'k' :: digits | 'K' :: digits => (Text.digits? digits.reverse).map (· * 1024)
  | 'M' :: digits => (Text.digits? digits.reverse).map (· * 1048576)
  | digits => Text.digits? digits.reverse

/-- The arguments with an old form of a number of lines in the usual form. -/
def withCount (args : List String) : List String :=
  match args with
  | first :: rest =>
    match first.toList with
    | '-' :: c :: cs =>
      if (c :: cs).all Text.isDigit then "-n" :: String.ofList (c :: cs) :: rest else args
    | _ => args
  | [] => []

end Utility

end NodeTrial.Script
