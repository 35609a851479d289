import NodeTrial.Envelope
import NodeTrial.Tester.Error
import NodeTrial.Transaction
import NodeTrial.Url.Base

/-! What surrounds a transfer run: the transaction file, the executor and the server. A run acts on
them one action at a time, and each answer may depend on all the actions before. So an
environment is three functions of the history, and any behaviour of files, programs and servers
is one.
-/

namespace NodeTrial

/-- An action of a run: it writes the transaction file, starts the executor with a private key, or
asks the server for a ref.
-/
inductive Action where
  | write (text : String)
  | execute (key : String)
  | fetch (ref : String)
  deriving DecidableEq, Repr

/-- A response of the server. -/
structure Response where
  status : Status
  body : List UInt8
  deriving DecidableEq, Repr

/-- The surroundings of a run: how they answer an action after a history of actions. -/
structure Environment where
  write : List Action → String → Except IoError Unit
  execute : List Action → String → Except IoError ToolOutput
  fetch : List Action → String → Except TransportError Response

/-- The executor runs of a history, each with its key and what the transaction file held. -/
def journalFrom (file : String) : List Action → List (String × String)
  | [] => []
  | .write text :: rest => journalFrom text rest
  | .execute key :: rest => (key, file) :: journalFrom file rest
  | .fetch _ :: rest => journalFrom file rest

/-- The executor runs of a history that starts with an empty file. -/
def journal (history : List Action) : List (String × String) :=
  journalFrom "" history

/-- The form in which a ref stands in a query: letters, digits and four marks for themselves, a
plus sign for a space, all else percent-encoded.
-/
def formText (ref : String) : String :=
  String.ofList (ref.toList.flatMap fun c =>
    if c.isAlphanum || ['*', '-', '.', '_'].contains c then [c]
    else if c = ' ' then ['+']
    else (String.utf8EncodeChar c).flatMap Percent.encodedByte)

def readEndpoint : String := "get_value"

def readUrl (server : Url) (ref : String) : Except UrlError Url := do
  let url ← server.join readEndpoint
  return { url with query := some ("ref=" ++ formText ref) }

namespace Response

/-- The result that a response holds, if its status is no refusal and its body wraps one. -/
def result (r : Response) : Except HttpError Value :=
  if r.status.isRefusal then .error (.status r.status)
  else
    match Envelope.parse (Text.symbolsOfBytes r.body) with
    | .ok envelope => .ok envelope.result
    | .error _ => .error .notAnEnvelope

end Response

/-- The addresses in a map of accounts, none if there is no such map yet. -/
def addressesOf (result : Value) : Except TesterError (List String) :=
  match result.json with
  | .object accounts => .ok (accounts.map (·.1))
  | .null => .ok []
  | _ => .error (.missingResult accountsRef)

def reportedBalance (address : String) (result : Value) : Except TesterError UInt64 :=
  match balanceOf? result.json with
  | some balance => .ok balance
  | none => .error (.missingResult (balanceRef address))

end NodeTrial
