import NodeTrial.Load.Run

/-! A load run as it goes on. All requests of a plan are sent without waiting for one another, so
they settle in any order: each outcome is kept at the place of its request, and the run ends once
every request has one.
-/

namespace NodeTrial.Load

/-- Where a request of a plan stands: it is still to be sent, under way, or settled. -/
inductive Progress where
  | waiting
  | underway
  | settled (outcome : Outcome)
  deriving DecidableEq, Repr

def Progress.outcome? : Progress → Option Outcome
  | .settled outcome => some outcome
  | _ => none

/-- What happens to the request of an index: it is sent, or it settles with the status of its
response, if one came.
-/
inductive Event where
  | sent (index : Nat)
  | settled (index : Nat) (status : Option Status)
  deriving DecidableEq, Repr

/-- Where the requests stand after an event. Each is sent once, and settles once after that. -/
def Event.after? (places : List Progress) : Event → Option (List Progress)
  | .sent index =>
    if places[index]? = some .waiting then some (places.set index .underway) else none
  | .settled index status =>
    if places[index]? = some .underway then some (places.set index (.settled (.of status)))
    else none

/-- Where the requests stand after some events, if these can happen in this order. -/
def after? (places : List Progress) (events : List Event) : Option (List Progress) :=
  events.foldlM Event.after? places

/-- How a load run ends in which some events have happened; it has not ended while a request is
left without an outcome. Without a plan nothing happens at all.
-/
def conclude? (elapsed : Elapsed) (servers : List Url) (rounds : Nat)
    (operations : List Operation) (events : List Event) : Option (Except SetupError Report) :=
  match plan servers rounds operations with
  | .error error => if events.isEmpty then some (.error error) else none
  | .ok requests => do
    let places ← after? (requests.map fun _ => .waiting) events
    let outcomes ← places.mapM Progress.outcome?
    return .ok (.ofOutcomes outcomes elapsed)

end NodeTrial.Load
