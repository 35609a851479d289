import NodeTrial.Json.Printer
import NodeTrial.Json.Tagged
import NodeTrial.Text.Blank

/-! Reads from the database service: the query that asks for a ref, the envelope around the
answer, and the balance that an answer reports.
-/

namespace NodeTrial

open Text (Symbol)

/-- The ref of the map that holds every account, keyed by address. -/
def accountsRef : String := "/account"

/-- The ref of one account's balance. -/
def balanceRef (address : String) : String :=
  accountsRef ++ "/" ++ address ++ "/balance"

/-- The query of a read: the ref that is asked for. -/
structure ValueQuery where
  ref : String
  deriving DecidableEq, Repr

namespace ValueQuery

def shape : Json.Shape :=
  .record "GetValueRequest" [.required "ref" .text]

def parse (input : List Symbol) : Except ReadError ValueQuery :=
  (shape.parse input).map fun j => ⟨(j.member "ref").asText⟩

def toJson (q : ValueQuery) : Json :=
  .object [("ref", .text q.ref)]

end ValueQuery

/-- What the service wraps around an answer. -/
structure Envelope where
  code : Option Int64
  result : Value
  deriving DecidableEq

namespace Envelope

/-- The shape of an envelope; both its fields may be left out. -/
def shape : Json.Shape :=
  .record "ValueResponse"
    [⟨"code", .optionalSigned, some .null⟩, ⟨"result", .any, some .null⟩]

/-- The code that a value stands for, none for `null`. -/
def codeOf : Json → Option Int64
  | .null => none
  | j => some (.ofInt j.asInt)

def codeJson : Option Int64 → Json
  | none => .null
  | some code => .number (.whole (.ofSigned code))

/-- The envelope that a value of the shape describes. -/
def ofJson (j : Json) : Envelope :=
  ⟨codeOf (j.member "code"), .ofJson (j.member "result")⟩

def parse (input : List Symbol) : Except ReadError Envelope :=
  (shape.parse input).map ofJson

def toJson (e : Envelope) : Json :=
  .object [("code", codeJson e.code), ("result", e.result.json)]

end Envelope

/-- The balance that a value reports: a whole number that is an unsigned word, or a text that
spells one, blanks around it aside.
-/
def balanceOf? : Json → Option UInt64
  | .number (.whole n) => n.word?
  | .text s => Text.word? (Text.trim s)
  | _ => none

end NodeTrial
