import NodeTrial.Ledger
import NodeTrial.Text.Blank
import NodeTrial.Text.Division

/-! Accounts given as arguments `key=balance`. The first equals sign divides the two halves and
blanks around either half do not count. A list of arguments makes a ledger when each is well
formed and no key comes twice.
-/

namespace NodeTrial

/-- What makes a text unfit for a private key. -/
inductive KeyProblem where
  | empty
  | blank
  deriving DecidableEq, Repr

namespace KeyProblem

def message : KeyProblem → String
  | .empty => "Key cannot be empty."
  | .blank => "Key cannot contain whitespace."

/-- The problem with a key, if it has one: blanks would divide the executor's command line. -/
def of? (key : String) : Option KeyProblem :=
  if Text.isBlankText key then some .empty
  else if key.toList.any Text.isBlank then some .blank
  else none

end KeyProblem

/-- Why arguments describe no ledger. -/
inductive ArgumentError where
  | missingSeparator (arg : String)
  | invalidKey (arg : String) (problem : KeyProblem)
  | badBalance (text : String)
  | duplicateKey (key : String)
  deriving DecidableEq, Repr

namespace ArgumentError

def message : ArgumentError → String
  | .missingSeparator arg => "expected `key=balance`, got \"" ++ arg ++ "\""
  | .invalidKey arg problem => "invalid private key in \"" ++ arg ++ "\": " ++ problem.message
  | .badBalance text =>
    "only non-negative integer balances are allowed; got \"" ++ text ++ "\""
  | .duplicateKey key => "the private key \"" ++ key ++ "\" was given more than once"

/-- The short form of an argument error: its name and its arguments. -/
def diagnostic : ArgumentError → String
  | .missingSeparator arg => "MissingSeparator(" ++ Text.quoted arg ++ ")"
  | .invalidKey arg problem =>
    "InvalidKey(" ++ Text.quoted arg ++ ", " ++ Text.quoted problem.message ++ ")"
  | .badBalance text => "BadBalance(" ++ Text.quoted text ++ ")"
  | .duplicateKey key => "DuplicateKey(" ++ Text.quoted key ++ ")"

end ArgumentError

namespace Ledger

/-- The key and the balance that one argument gives. -/
def readArgument (arg : String) : Except ArgumentError (String × UInt64) :=
  match Text.splitFirst? (· == '=') arg.toList with
  | none => .error (.missingSeparator arg)
  | some (before, after) =>
    let key := String.ofList (Text.trimChars before)
    match KeyProblem.of? key with
    | some problem => .error (.invalidKey arg problem)
    | none =>
      let amount := String.ofList (Text.trimChars after)
      match Text.word? amount with
      | some held => .ok (key, held)
      | none => .error (.badBalance amount)

/-- Adds the accounts of a list of arguments to a ledger, up to the first one that is wrong. -/
def addArguments : Ledger → List String → Except ArgumentError Ledger
  | l, [] => .ok l
  | l, arg :: rest => do
    let (key, held) ← readArgument arg
    if (l.balance? key).isSome then .error (.duplicateKey key)
    else addArguments (l.set key held) rest

def ofArguments (args : List String) : Except ArgumentError Ledger :=
  addArguments empty args

end Ledger

end NodeTrial
