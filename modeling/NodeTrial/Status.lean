/-! The status of a response. -/

namespace NodeTrial

/-- The status of a response: a number of three digits. -/
structure Status where
  code : Nat
  inRange : 100 ≤ code ∧ code ≤ 999
  deriving DecidableEq, Repr

namespace Status

/-- The status of a number, if it has three digits. -/
def ofNat? (code : Nat) : Option Status :=
  if h : 100 ≤ code ∧ code ≤ 999 then some ⟨code, h⟩ else none

def ok : Status :=
  ⟨200, by decide⟩

/-- From 400 on a status is an error, also past the classes that have a meaning. -/
def isError (s : Status) : Bool :=
  400 ≤ s.code

/-- A status of one of the two classes of errors: those of a client and, below 600, of a server. -/
def isRefusal (s : Status) : Bool :=
  400 ≤ s.code && s.code < 600

end Status

end NodeTrial
