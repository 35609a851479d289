import NodeTrial.Json.Printer
import NodeTrial.Json.Tagged
import NodeTrial.Operation.Basic

/-! Operations as JSON. An operation is written as its body alone, since its kind shows in the
endpoint; an entry of a batch also names its kind. Read without an endpoint, a body is that of
the first kind it fits.
-/

namespace NodeTrial

open Text (Symbol)

/-- The whole numbers of a table as JSON members. -/
def deltaMembers (diff : Table Int64) : List (String × Json) :=
  diff.entries.map fun (key, delta) => (key, .number (.whole (.ofSigned delta)))

def valueMembers (data : Table Value) : List (String × Json) :=
  data.entries.map fun (key, value) => (key, value.json)

namespace SetBody

/-- The shape of a body that sets a ref. -/
def shape : Json.Shape :=
  .record "SetBody" [.required "ref" .text, .required "value" .any]

def fields (b : SetBody) : List (String × Json) :=
  [("ref", .text b.ref), ("value", b.value.json)]

/-- The body that a value of the shape describes. -/
def ofJson (j : Json) : SetBody :=
  ⟨(j.member "ref").asText, .ofJson (j.member "value")⟩

def parse (input : List Symbol) : Except ReadError SetBody :=
  (shape.parse input).map ofJson

end SetBody

namespace IncreaseBody

/-- The shape of a body that increases refs. -/
def shape : Json.Shape :=
  .record "IncreaseBody" [.required "diff" (.table .signed)]

def fields (b : IncreaseBody) : List (String × Json) :=
  [("diff", .object (deltaMembers b.diff))]

/-- The body that a value of the shape describes. -/
def ofJson (j : Json) : IncreaseBody :=
  ⟨.ofList ((j.member "diff").asMembers.map fun (key, n) => (key, .ofInt n.asInt))⟩

def parse (input : List Symbol) : Except ReadError IncreaseBody :=
  (shape.parse input).map ofJson

end IncreaseBody

namespace UpdateBody

/-- The shape of a body that updates refs. -/
def shape : Json.Shape :=
  .record "UpdateBody" [.required "data" (.table .any)]

def fields (b : UpdateBody) : List (String × Json) :=
  [("data", .object (valueMembers b.data))]

/-- The body that a value of the shape describes. -/
def ofJson (j : Json) : UpdateBody :=
  ⟨.ofList ((j.member "data").asMembers.map fun (key, v) => (key, .ofJson v))⟩

def parse (input : List Symbol) : Except ReadError UpdateBody :=
  (shape.parse input).map ofJson

end UpdateBody

namespace BatchEntry

/-- The shape of an entry: a body named by its `op`. -/
def shape : Json.Shape :=
  .tagged "internally tagged enum BatchEntry" "op"
    [⟨"set", SetBody.shape⟩, ⟨"increase", IncreaseBody.shape⟩, ⟨"update", UpdateBody.shape⟩]

/-- The name of an entry's kind. -/
def op : BatchEntry → String
  | .set _ => "set"
  | .increase _ => "increase"
  | .update _ => "update"

def bodyFields : BatchEntry → List (String × Json)
  | .set b => b.fields
  | .increase b => b.fields
  | .update b => b.fields

/-- An entry as JSON: its kind, then its body's fields. -/
def toJson (e : BatchEntry) : Json :=
  .object (("op", .text e.op) :: e.bodyFields)

/-- The entry that a value of the shape describes. -/
def ofJson (j : Json) : BatchEntry :=
  match (j.member "op").asText with
  | "increase" => .increase (.ofJson j)
  | "update" => .update (.ofJson j)
  | _ => .set (.ofJson j)

def parse (input : List Symbol) : Except ReadError BatchEntry :=
  (shape.parse input).map ofJson

def render (e : BatchEntry) : String :=
  e.toJson.render

end BatchEntry

namespace BatchBody

def shape : Json.Shape :=
  .record "BatchBody" [.required "batch_list" (.list BatchEntry.shape)]

def fields (b : BatchBody) : List (String × Json) :=
  [("batch_list", .list (b.entries.map BatchEntry.toJson))]

/-- The body that a value of the shape describes. -/
def ofJson (j : Json) : BatchBody :=
  ⟨(j.member "batch_list").asItems.map BatchEntry.ofJson⟩

def parse (input : List Symbol) : Except ReadError BatchBody :=
  (shape.parse input).map ofJson

end BatchBody

def OperationKind.shape : OperationKind → Json.Shape
  | .set => SetBody.shape
  | .increase => IncreaseBody.shape
  | .update => UpdateBody.shape
  | .batch => BatchBody.shape

/-- The operation of a kind that a value of the kind's shape describes. -/
def OperationKind.operation : OperationKind → Json → Operation
  | .set, j => .set (.ofJson j)
  | .increase, j => .increase (.ofJson j)
  | .update, j => .update (.ofJson j)
  | .batch, j => .batch (.ofJson j)

/-- The kinds in the order in which a body is tried against them. -/
def OperationKind.all : List OperationKind :=
  [.set, .increase, .update, .batch]

namespace Operation

/-- The fields of an operation's body. -/
def fields : Operation → List (String × Json)
  | .set b => b.fields
  | .increase b => b.fields
  | .update b => b.fields
  | .batch b => b.fields

def toJson (o : Operation) : Json :=
  .object o.fields

/-- The text of an operation: the body of its request. -/
def render (o : Operation) : String :=
  o.toJson.render

/-- The operation of a kind that a value stands for, if it fits the kind. -/
def ofKind? (j : Json) (k : OperationKind) : Option Operation :=
  match k.shape.take j with
  | .ok fit => some (k.operation fit)
  | .error _ => none

/-- The operation that a value stands for: that of the first kind it fits. -/
def ofJson? (j : Json) : Option Operation :=
  OperationKind.all.findSome? (ofKind? j)

/-- Reads an operation of any kind: a value of any form is read off the front, then fitted to a
kind, and after it nothing may follow.
-/
def parse (input : List Symbol) : Except ReadError Operation :=
  Json.readWhole (fun input => do
    let (j, rest) ← Json.readTree Json.maxDepth input
    match ofJson? j with
    | some o => .ok (o, rest)
    | none => .error (.unfit (.noVariant "Operation"))) input

/-- Reads a body that was posted to the endpoint of a kind. -/
def parseAs (k : OperationKind) (input : List Symbol) : Except ReadError Operation :=
  (k.shape.parse input).map k.operation

/-- Two operations are alike when they are of one kind with bodies alike. -/
def alike (a b : Operation) : Bool :=
  a.kind = b.kind && a.toJson.alike b.toJson

end Operation

end NodeTrial
