import NodeTrial.Load.Setup
import NodeTrial.Operation.Wire

/-! The plan of a load run: which operation is posted to which URL. The servers are gone through
`rounds` times, and the operations in a cycle of their own beside them.
-/

namespace NodeTrial.Load

/-- A request to be sent: an operation and where it is posted. -/
structure PlannedRequest where
  url : Url
  operation : Operation
  deriving DecidableEq

def request (base : Url) (operation : Operation) : Except SetupError PlannedRequest :=
  match base.join operation.path with
  | .ok url => .ok ⟨url, operation⟩
  | .error error => .error (.url error)

/-- A list that is gone through again and again: what is left of this round, and a whole round. -/
structure Cycle (α : Type) where
  left : List α
  round : List α
  deriving DecidableEq, Repr

namespace Cycle

variable {α β : Type}

/-- The cycle of a list, before its first round. -/
def of (items : List α) : Cycle α :=
  ⟨items, items⟩

/-- The next item and the cycle after it. At the end of a round another one starts, so a cycle has a
next item unless its rounds are empty.
-/
def next? (c : Cycle α) : Option (α × Cycle α) :=
  match c.left with
  | item :: left => some (item, ⟨left, c.round⟩)
  | [] =>
    match c.round with
    | item :: left => some (item, ⟨left, c.round⟩)
    | [] => none

/-- The pairs of the next items of two cycles, so many of them unless a cycle has no next item. -/
def pairs : (count : Nat) → Cycle α → Cycle β → List (α × β)
  | 0, _, _ => []
  | count + 1, firsts, seconds =>
    match firsts.next?, seconds.next? with
    | some (first, firsts), some (second, seconds) =>
      (first, second) :: pairs count firsts seconds
    | _, _ => []

end Cycle

/-- So many requests, each for the server and the operation that are next in their cycles; without
operations there is nothing to send.
-/
def requestsOf (servers : List Url) (operations : List Operation) (count : Nat)
    : Except SetupError (List PlannedRequest) :=
  (Cycle.pairs count (.of servers) (.of operations)).mapM fun pair => request pair.1 pair.2

/-- The plan of a load run. The number of requests must fit a word. -/
def plan (servers : List Url) (rounds : Nat) (operations : List Operation)
    : Except SetupError (List PlannedRequest) :=
  if UInt64.size ≤ servers.length * rounds then .error (.tooManyRequests servers.length rounds)
  else requestsOf servers operations (servers.length * rounds)

end NodeTrial.Load
