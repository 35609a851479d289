import NodeTrial.Executor
import NodeTrial.KeyBook
import NodeTrial.Ledger.Argument
import NodeTrial.Selection
import NodeTrial.Status

/-! What can stop a transfer run.
-/

namespace NodeTrial

/-- Why a request got no response: no connection to the server, or a request that cannot be made
at all.
-/
inductive TransportError where
  | noConnection
  | other
  deriving DecidableEq, Repr

/-- Why a read of the server failed. -/
inductive HttpError where
  | transport (error : TransportError)
  | status (found : Status)
  | notAnEnvelope
  deriving DecidableEq, Repr

/-- The wording of a failed read. -/
def HttpError.message : HttpError → String
  | .transport .noConnection => "connect"
  | .transport .other => "other"
  | .status found => "status " ++ Text.natText found.code
  | .notAnEnvelope => "decode"

/-- A balance that stayed wrong in every attempt. -/
structure WrongBalance where
  address : String
  expected : UInt64
  actual : UInt64
  attempts : Nat
  deriving DecidableEq, Repr

/-- What can stop a transfer run. -/
inductive TesterError where
  | http (error : HttpError)
  | io (error : IoError)
  | url (error : UrlError)
  | account (error : AccountError)
  | selection (error : SelectionError)
  | key (error : KeyError)
  | missingResult (ref : String)
  | wrongBalance (found : WrongBalance)
  deriving DecidableEq, Repr

namespace TesterError

def message : TesterError → String
  | .http error => "HTTP request failed: " ++ error.message
  | .io error => "I/O error: " ++ error.message
  | .url error => "URL error: " ++ error.message
  | .account error => error.message
  | .selection error => error.message
  | .key error => error.message
  | .missingResult ref => "the server returned no usable result for \"" ++ ref ++ "\""
  | .wrongBalance found =>
    "balance of " ++ found.address ++ " is " ++ Text.natText found.actual.toNat ++ ", expected "
      ++ Text.natText found.expected.toNat ++ " (after " ++ Text.natText found.attempts
      ++ " attempts)"

/-- The short form of an error: its name and its arguments. -/
def diagnostic : TesterError → String
  | .http _ => "Http"
  | .io error => "Io(" ++ error.diagnostic ++ ")"
  | .url error => "Url(" ++ error.diagnostic ++ ")"
  | .account error => "Accounting(" ++ error.diagnostic ++ ")"
  | .selection error => error.diagnostic
  | .key error => error.diagnostic
  | .missingResult ref => "MissingResult(" ++ Text.quoted ref ++ ")"
  | .wrongBalance found =>
    "BalanceMismatch \x7b address: " ++ Text.quoted found.address ++ ", expected: "
      ++ Text.natText found.expected.toNat ++ ", actual: " ++ Text.natText found.actual.toNat
      ++ ", attempts: " ++ Text.natText found.attempts ++ " \x7d"

end TesterError

end NodeTrial
