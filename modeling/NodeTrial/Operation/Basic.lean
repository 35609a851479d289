import NodeTrial.Json.Basic

/-! The write operations of the database service. Each kind has its own body and its own
endpoint; a batch holds entries of the other three kinds.
-/

namespace NodeTrial

/-- The kind of a write operation. -/
inductive OperationKind where
  | set
  | increase
  | update
  | batch
  deriving DecidableEq, Repr

/-- The endpoint of a kind, relative to a server's base URL. -/
def OperationKind.path : OperationKind → String
  | .set => "set"
  | .increase => "increase"
  | .update => "update"
  | .batch => "batch"

/-- Sets the value at a ref. -/
structure SetBody where
  ref : String
  value : Value
  deriving DecidableEq

/-- Adds a signed amount to the number at each ref. -/
structure IncreaseBody where
  diff : Table Int64
  deriving DecidableEq

/-- Sets the value at each ref. -/
structure UpdateBody where
  data : Table Value
  deriving DecidableEq

/-- One entry of a batch. -/
inductive BatchEntry where
  | set (body : SetBody)
  | increase (body : IncreaseBody)
  | update (body : UpdateBody)
  deriving DecidableEq

/-- Entries to be carried out together. -/
structure BatchBody where
  entries : List BatchEntry
  deriving DecidableEq

/-- A write operation. -/
inductive Operation where
  | set (body : SetBody)
  | increase (body : IncreaseBody)
  | update (body : UpdateBody)
  | batch (body : BatchBody)
  deriving DecidableEq

namespace Operation

def kind : Operation → OperationKind
  | .set _ => .set
  | .increase _ => .increase
  | .update _ => .update
  | .batch _ => .batch

/-- The endpoint an operation is posted to. -/
def path (o : Operation) : String :=
  o.kind.path

def ofSet (ref : String) (value : Value) : Operation :=
  .set ⟨ref, value⟩

/-- Increases refs; of pairs with one ref the last counts. -/
def ofIncrease (diff : List (String × Int64)) : Operation :=
  .increase ⟨.ofList diff⟩

/-- Updates refs; of pairs with one ref the last counts. -/
def ofUpdate (data : List (String × Value)) : Operation :=
  .update ⟨.ofList data⟩

def ofBatch (entries : List BatchEntry) : Operation :=
  .batch ⟨entries⟩

end Operation

end NodeTrial
