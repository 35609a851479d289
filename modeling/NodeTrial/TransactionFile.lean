import NodeTrial.IoError
import NodeTrial.Text.Blank
import NodeTrial.Transaction

/-! The file that hands transactions over: one transaction a line. Lines of blanks are passed over,
and one line that is no transaction makes the whole file unreadable.
-/

namespace NodeTrial

/-- The lines of a text: each ends with a line feed, the last one perhaps not, and a carriage
return before a line feed is no part of the line.
-/
def linesOf : (line : List Char) → List Char → List String
  | [], [] => []
  | line, [] => [String.ofList line.reverse]
  | line, '\n' :: rest =>
    let kept := match line with
      | '\r' :: before => before
      | all => all
    String.ofList kept.reverse :: linesOf [] rest
  | line, c :: rest => linesOf (c :: line) rest

/-- Why the transactions of a file cannot be read. -/
inductive FileError where
  | io (error : IoError)
  | notUtf8
  | badLine (error : ReadError)
  deriving DecidableEq, Repr

namespace FileError

def message : FileError → String
  | .io error => error.message
  | .notUtf8 => "stream did not contain valid UTF-8"
  | .badLine error => error.message

/-- The name of a file error: a line that ends where more was needed has one of its own. -/
def name : FileError → String
  | .io error => error.name
  | .notUtf8 => "InvalidData"
  | .badLine error => if error.isEnd then "UnexpectedEof" else "InvalidData"

end FileError

/-- The transactions in a file, a line each; blank lines are passed over, and the first line
that is no transaction stops the reading.
-/
def readTransactions (bytes : List UInt8) : Except FileError (List Transaction) :=
  match Text.decode? bytes with
  | none => .error .notUtf8
  | some text =>
    ((linesOf [] text.toList).filter fun line => !Text.isBlankText line).mapM fun line =>
      (Transaction.parse (Text.symbols line)).mapError .badLine

/-- The transaction file: its bytes, if it exists. -/
structure TransactionFile where
  contents : Option (List UInt8)
  deriving DecidableEq, Repr

namespace TransactionFile

def absent : TransactionFile :=
  ⟨none⟩

/-- The file with other contents, whatever it held before. -/
def put (_ : TransactionFile) (bytes : List UInt8) : TransactionFile :=
  ⟨some bytes⟩

/-- The file after a transaction is written to it: it holds that transaction alone. -/
def write (f : TransactionFile) (t : Transaction) : TransactionFile :=
  f.put (Text.bytesOf t.fileText)

def read (f : TransactionFile) : Except FileError (List Transaction) :=
  match f.contents with
  | none => .error (.io .notFound)
  | some bytes => readTransactions bytes

end TransactionFile

end NodeTrial
