import NodeTrial.Load.Plan
import NodeTrial.Load.Report
import NodeTrial.WriteServer

/-! A load run: all requests of a plan are sent at once, and their outcomes are reported in the
order of the plan, whatever the order in which they come back.
-/

namespace NodeTrial.Load

/-- How the servers answer the requests of a plan, each named by its index: with a status, or not
at all.
-/
def Network := Nat → PlannedRequest → Option Status

/-- The name that the tool gives itself in its requests. -/
def userAgent : String := "blockdb_load_tester"

def PlannedRequest.posted (r : PlannedRequest) : WriteServer.Request :=
  let body := Text.bytesOf r.operation.render
  { method := "POST"
    target := r.url.path.text
    headers :=
      [("user-agent", userAgent), ("content-type", "application/json"),
       ("content-length", Text.natText body.length)]
    body }

/-- The network without any server: no request gets a response. -/
def Network.silent : Network :=
  fun _ _ => none

def Network.ofWriteServers : Network :=
  fun _ request => Status.ofNat? (WriteServer.respond request.posted).status

def outcomesFrom (network : Network) : (index : Nat) → List PlannedRequest → List Outcome
  | _, [] => []
  | index, request :: rest =>
    .of (network index request) :: outcomesFrom network (index + 1) rest

/-- A load run. Nothing is sent unless the whole plan can be made. -/
def run (network : Network) (elapsed : Elapsed) (servers : List Url) (rounds : Nat)
    (operations : List Operation) : Except SetupError Report := do
  let requests ← plan servers rounds operations
  return .ofOutcomes (outcomesFrom network 0 requests) elapsed

end NodeTrial.Load
