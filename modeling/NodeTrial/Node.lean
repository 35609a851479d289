import NodeTrial.Tester.Environment

/-! An honest node. It keeps no state but the journal of executed transactions, which it replays
for every read: a transaction at an account's balance sets it, one at a transfer's value moves
the value. Reads answer what the replay gives.
-/

namespace NodeTrial

/-- A node: the address of each private key, and whether a balance is written as a text. -/
structure Node where
  address : String → String
  asText : List Action → Bool

namespace Node

/-- An executed transaction: the private key it was signed with, and the transaction. -/
abbrev Entry := String × Transaction

/-- The balance at an address, zero if it has none. -/
def held (balances : Table Int) (address : String) : Int :=
  (balances.get? address).getD 0

/-- Moves a value between addresses; balances may become negative. -/
def move (balances : Table Int) (sender receiver : String) (value : Int) : Table Int :=
  let paid := balances.insert sender (held balances sender - value)
  paid.insert receiver (held paid receiver + value)

/-- The value of a transaction, zero if it is no unsigned word. -/
def valueOf (t : Transaction) : Int :=
  match t.value.json with
  | .number (.whole n) => (n.word?.map fun w => (w.toNat : Int)).getD 0
  | _ => 0

/-- A text with every placeholder replaced by an address, its first `skip` characters left out. -/
def resolveFrom (address : List Char) : (skip : Nat) → List Char → List Char
  | _, [] => []
  | skip + 1, _ :: rest => resolveFrom address skip rest
  | 0, c :: rest =>
    if Transaction.placeholder.toList.isPrefixOf (c :: rest) then
      address ++ resolveFrom address (Transaction.placeholder.length - 1) rest
    else c :: resolveFrom address 0 rest

/-- A text with every placeholder replaced by an address. -/
def resolve (address : String) (text : String) : List Char :=
  resolveFrom address.toList 0 text.toList

/-- The parts of a ref between slashes, with the signer's address in place. -/
def refParts (address ref : String) : List String :=
  (Text.sections (· == '/') (resolve address ref)).map String.ofList

/-- The balances after one more transaction; refs of other forms do nothing. -/
def apply (node : Node) (balances : Table Int) (entry : Entry) : Table Int :=
  let (key, t) := entry
  match refParts (node.address key) t.ref with
  | ["", "account", owner, "balance"] => balances.insert owner (valueOf t)
  | ["", "transfer", sender, receiver, _, "value"] => move balances sender receiver (valueOf t)
  | _ => balances

/-- The balances that a journal leads to. -/
def replay (node : Node) (entries : List Entry) : Table Int :=
  entries.foldl node.apply .empty

/-- The transactions that the executor was given in a history. -/
def entriesOf (history : List Action) : List Entry :=
  (journal history).filterMap fun (key, file) =>
    match Transaction.parse (Text.symbols file) with
    | .ok t => some (key, t)
    | .error _ => none

/-- An answer in its envelope. -/
def enveloped (result : Json) : Response :=
  let body := Json.object [("code", .number (.whole (.ofWord 0))), ("result", result)]
  ⟨.ok, Text.bytesOf body.render⟩

/-- A balance as JSON, in digits or in a text; one that no number can hold is left out. -/
def balanceJson (asText : Bool) (balance : Int) : Json :=
  if asText then .text (Text.intText balance)
  else
    match Whole.ofInt? balance with
    | some n => .number (.whole n)
    | none => .null

/-- The address whose balance a ref names. -/
def balanceAddress? (ref : String) : Option String :=
  match Text.sections (· == '/') ref.toList with
  | [[], account, address, balance] =>
    if String.ofList account = "account" ∧ String.ofList balance = "balance" then
      some (String.ofList address)
    else none
  | _ => none

/-- The answer to a read, from the balances of the replay. -/
def answer (balances : Table Int) (asText : Bool) (ref : String) : Response :=
  if ref = accountsRef then
    enveloped <| .object <| balances.entries.map fun (address, balance) =>
      (address, .object [("balance", .text (Text.intText balance))])
  else
    match (balanceAddress? ref).bind balances.get? with
    | some balance => enveloped (balanceJson asText balance)
    | none => enveloped .null

/-- What an executor that succeeds leaves behind. -/
def sent : ToolOutput :=
  ⟨some 0, "sent\n", ""⟩

/-- The surroundings with an honest node: files can be written, the executor can be run, and
reads are answered from the journal.
-/
def environment (node : Node) : Environment where
  write _ _ := .ok ()
  execute _ _ := .ok sent
  fetch history ref :=
    .ok (answer (node.replay (entriesOf history)) (node.asText history) ref)

end Node

end NodeTrial
