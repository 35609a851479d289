import NodeTrial.Decimal.Double
import NodeTrial.Decimal.Fixed
import NodeTrial.Status

/-! The report of a load run: how many requests were sent, which of them came back with an error
and which did not come back at all.
-/

namespace NodeTrial

namespace Load

/-- What became of a request. -/
inductive Outcome where
  | success (status : Status)
  | error (status : Status)
  | noResponse
  deriving DecidableEq, Repr

/-- The outcome of a request that got a status, or no response. -/
def Outcome.of : Option Status → Outcome
  | none => .noResponse
  | some status => if status.isError then .error status else .success status

def Outcome.isError : Outcome → Bool
  | .error _ => true
  | _ => false

/-- An outcome is the lack of a response. -/
def Outcome.isMissing : Outcome → Bool
  | .noResponse => true
  | _ => false

/-- A stretch of time in seconds and billionths of a second. -/
structure Elapsed where
  seconds : UInt64
  nanos : UInt32
  deriving DecidableEq, Repr

/-- A stretch of time in seconds, as a floating-point number. -/
def Elapsed.inSeconds (e : Elapsed) : Double :=
  .ofFloat (e.seconds.toFloat + e.nanos.toFloat / 1000000000)

/-- A stretch of time, in seconds with three decimal places. -/
def Elapsed.text (e : Elapsed) : String :=
  let (numerator, denominator) := e.inSeconds.magnitude
  Decimal.fixedText 3 numerator denominator ++ "s"

/-- The summary of a load run; requests are named by their index in the plan. -/
structure Report where
  elapsed : Elapsed
  total : Nat
  errors : List Nat
  missing : List Nat
  deriving DecidableEq, Repr

namespace Report

/-- The indices from a number on at which a test holds. -/
def indicesFrom (test : Outcome → Bool) : (index : Nat) → List Outcome → List Nat
  | _, [] => []
  | index, outcome :: rest =>
    if test outcome then index :: indicesFrom test (index + 1) rest
    else indicesFrom test (index + 1) rest

def ofOutcomes (outcomes : List Outcome) (elapsed : Elapsed) : Report where
  elapsed
  total := outcomes.length
  errors := indicesFrom Outcome.isError 0 outcomes
  missing := indicesFrom Outcome.isMissing 0 outcomes

/-- The number of requests that came back without an error. -/
def successful (r : Report) : Nat :=
  r.total - r.errors.length - r.missing.length

/-- Indices between brackets. -/
def indicesText (indices : List Nat) : String :=
  "[" ++ ", ".intercalate (indices.map Text.natText) ++ "]"

def lines (r : Report) : List String :=
  ["Time taken : " ++ r.elapsed.text,
   "Total Sent " ++ Text.natText r.total,
   "Total Successful " ++ Text.natText r.successful,
   "Indices of errored requests " ++ indicesText r.errors,
   "Indices of requests not returned " ++ indicesText r.missing]

def text (r : Report) : String :=
  "\n".intercalate r.lines

end Report

end Load

end NodeTrial
