import NodeTrial.Defaults
import NodeTrial.Executor

/-! What a transfer run has to know before it starts.
-/

namespace NodeTrial

/-- The settings of a transfer run; pauses are in milliseconds. Without a number of iterations a
run goes on until a check fails.
-/
structure TesterConfig where
  server : Url
  tool : String
  interpreter : Option String
  amount : UInt64
  transactionFile : String
  preExecDelay : UInt64
  settleDelay : UInt64
  attempts : UInt32
  retryDelay : UInt64
  iterations : Option UInt64
  deriving DecidableEq, Repr

namespace TesterConfig

/-- The usual settings for a server and an executor. -/
def usual (server : Url) (tool : String) : TesterConfig where
  server
  tool
  interpreter := some Defaults.interpreter
  amount := Defaults.amount
  transactionFile := Defaults.transactionFile
  preExecDelay := Defaults.preExecDelay
  settleDelay := Defaults.settleDelay
  attempts := Defaults.attempts
  retryDelay := 0
  iterations := none

/-- How the executor is invoked. -/
def command (c : TesterConfig) : ToolCommand :=
  .of c.interpreter c.tool c.server

end TesterConfig

end NodeTrial
