import NodeTrial.Json.Printer
import NodeTrial.Json.Tagged

/-! Transactions for the external executor. A transaction is handed over in a file of one line;
the executor puts the signer's own address where a ref has the placeholder.
-/

namespace NodeTrial

open Text (Symbol)

/-- A transaction: what is done to which ref, and the signer's number for it. -/
structure Transaction where
  type : String
  ref : String
  value : Value
  nonce : UInt64
  deriving DecidableEq

namespace Transaction

/-- Stands for the signer's address in a ref. -/
def placeholder : String := "\x7baddress\x7d"

/-- The one type of transaction that these tools make. -/
def setValue : String := "SET_VALUE"

/-- Sets the signer's own balance. -/
def balanceSet (balance nonce : UInt64) : Transaction where
  type := setValue
  ref := "/account/" ++ placeholder ++ "/balance"
  value := .word balance
  nonce

/-- The ref of a transfer; the nonce makes it a fresh one for every transfer of a signer. -/
def transferRef (receiver : String) (nonce : UInt64) : String :=
  "/transfer/" ++ placeholder ++ "/" ++ receiver ++ "/" ++ Text.natText nonce.toNat ++ "/value"

/-- Moves an amount from the signer to a receiver's address. -/
def balanceTransfer (receiver : String) (amount nonce : UInt64) : Transaction where
  type := setValue
  ref := transferRef receiver nonce
  value := .word amount
  nonce

/-- The shape of the operation inside a transaction. -/
def operationShape : Json.Shape :=
  .record "TxOperation" [.required "type" .text, .required "ref" .text, .required "value" .any]

def shape : Json.Shape :=
  .record "Tx" [.required "operation" operationShape, .required "nonce" .unsigned]

def toJson (t : Transaction) : Json :=
  .object
    [("operation",
      .object [("type", .text t.type), ("ref", .text t.ref), ("value", t.value.json)]),
     ("nonce", .number (.whole (.ofWord t.nonce)))]

/-- The transaction that a value of the shape describes. -/
def ofJson (j : Json) : Transaction :=
  let operation := j.member "operation"
  { type := (operation.member "type").asText
    ref := (operation.member "ref").asText
    value := .ofJson (operation.member "value")
    nonce := .ofNat (j.member "nonce").asInt.toNat }

def parse (input : List Symbol) : Except ReadError Transaction :=
  (shape.parse input).map ofJson

/-- The text of a transaction, without a line end. -/
def render (t : Transaction) : String :=
  t.toJson.render

/-- The contents of a file that hands over one transaction. -/
def fileText (t : Transaction) : String :=
  t.render ++ "\n"

end Transaction

end NodeTrial
