import NodeTrial.Executor.Program
import NodeTrial.Executor.Script.Utility.Lines
import NodeTrial.Executor.Script.Utility.Numbers
import NodeTrial.Executor.Script.Utility.Paths
import NodeTrial.Executor.Script.Utility.Search

/-! Programs that scripts use on texts. Each takes its arguments, what it can read and the contents
of files, and gives what it writes and its status.
-/

namespace NodeTrial.Script

namespace Utility

/-- The number of lines that a program without an end writes before its reader is gone. -/
def enough : Nat := 100000

/-- A text is a time: a number, perhaps with a fraction and the letter of a unit. -/
def isDuration (text : String) : Bool :=
  if text = "infinity" then true
  else
    let digits := match text.toList.reverse with
      | c :: rest => if ['s', 'm', 'h', 'd'].contains c then rest else c :: rest
      | [] => []
    match Text.sections (· == '.') digits with
    | [whole] => !whole.isEmpty && whole.all Text.isDigit
    | [places, whole] =>
      !(places.isEmpty && whole.isEmpty) && (places ++ whole).all Text.isDigit
    | _ => false

/-- The names of the long options of the programs here. -/
def longOptions : List String :=
  ["--help", "--version", "--lines", "--bytes", "--chars", "--words", "--quiet", "--silent",
   "--verbose", "--number", "--show-all", "--reverse", "--unique", "--numeric-sort",
   "--ignore-case", "--delimiter", "--fields", "--characters", "--only-delimited",
   "--output-delimiter", "--delete", "--squeeze-repeats", "--complement", "--count", "--repeated",
   "--separator", "--equal-width", "--format", "--suffix", "--multiple", "--zero", "--regexp",
   "--extended-regexp", "--fixed-strings", "--invert-match", "--only-matching", "--line-number",
   "--max-count", "--no-messages", "--word-regexp", "--line-regexp", "--expression", "--kernel-name",
   "--null-data", "--key", "--stable", "--follow", "--retry", "--sleep-interval"]

/-- A long option that no program knows, under any shorter form of its name. -/
def isUnknownOption (arg : String) : Bool :=
  let name := String.ofList (arg.toList.takeWhile (· != '='))
  arg.startsWith "--" && arg != "--" && !longOptions.any fun option => option.startsWith name

/-- What a program does with its arguments if one of them is an option that it does not know. -/
def refusal? (name : String) (args : List String) : Option Effect := do
  let args := args.takeWhile (· != "--")
  let option ← args.find? isUnknownOption
  match ← Program.named? name with
  | .refusesOption status =>
    let (_, errors) := Program.refusal name ["", option] (.refusesOption status)
    return ⟨"", errors, status⟩
  | .refusesOperand _ =>
    let (status, errors) := Program.refusal name ["", option] (.refusesOption 1)
    return ⟨"", errors, status⟩
  | .complains status complaint =>
    if name = "grep" then return ⟨"", name ++ ": " ++ complaint option, status⟩ else none
  | _ => none

/-- What a program does on texts; none if it is not known. -/
def perform? (r : Readings) (name : String) (args : List String) : Option Effect :=
  match name with
  | "cat" => do
    let (options, operands) ← takeOptions ['u', 'n'] [] args
    return filter "cat" r operands fun text =>
      if has 'n' options then
        String.join ((linesIn text).zipIdx.map fun (line, index) =>
          column 6 (index + 1) ++ "\t" ++ line)
      else text
  | "head" => head r args
  | "tail" => tail r args
  | "wc" => wc r args
  | "tr" => tr r args
  | "sort" => sort r args
  | "uniq" => uniq r args
  | "cut" => cut r args
  | "seq" => seq args
  | "basename" => basename args
  | "dirname" => dirname args
  | "grep" | "egrep" | "fgrep" =>
    grep r (if name = "egrep" then "-E" :: args else if name = "fgrep" then "-F" :: args else args)
  | "sed" => sed r args
  | "expr" => some (expr args)
  | "rev" =>
    some (filter "rev" r args fun text =>
      String.join ((linesIn text).map fun line =>
        String.ofList (bare line).toList.reverse ++ (if line.endsWith "\n" then "\n" else "")))
  | "tac" => some (filter "tac" r args fun text => String.join (linesIn text).reverse)
  | "sleep" =>
    match args.find? fun arg => !isDuration arg with
    | some arg => some (misused "sleep" ("invalid time interval '" ++ arg ++ "'"))
    | none => some (if args.isEmpty then misused "sleep" "missing operand" else written "")
  | "yes" =>
    let line := (if args.isEmpty then "y" else " ".intercalate args) ++ "\n"
    some (written (String.join (List.replicate enough line)))
  | "uname" => if args.isEmpty ∨ args = ["-s"] then some (written "Linux\n") else none
  | _ => none

/-- What a program does on texts, or how it refuses its options; none if it is not known. -/
def run? (r : Readings) (name : String) (args : List String) : Option Effect :=
  match refusal? name args with
  | some effect => some effect
  | none => perform? r name args

end Utility

end NodeTrial.Script
