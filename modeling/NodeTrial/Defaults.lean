/-! What the tools use where nothing else is given.
-/

namespace NodeTrial.Defaults

/-- The servers of a load run. -/
def loadUrls : List String :=
  ["http://127.0.0.1:8080", "http://127.0.0.1:8081", "http://127.0.0.1:8082"]

/-- How often the servers of a load run are gone through. -/
def rounds : Nat := 300

/-- The server of a transfer run. -/
def server : String := "http://localhost:8080/"

/-- The program that runs the executor. -/
def interpreter : String := "node"

def amount : UInt64 := 5

/-- The file that hands transactions to the executor. -/
def transactionFile : String := "transaction.txt"

/-- The pause before the executor is started, in milliseconds. -/
def preExecDelay : UInt64 := 1000

/-- The pause between a transfer and its balance checks, in milliseconds. -/
def settleDelay : UInt64 := 2000

/-- The number of times a balance is asked for before it counts as wrong. -/
def attempts : UInt32 := 3

/-- The port of the write server. -/
def port : UInt16 := 8080

/-- The address of the write server. -/
def host : String := "127.0.0.1"

/-- Which log records are shown. -/
def logFilter : String := "blockdb=info"

end NodeTrial.Defaults
