import NodeTrial.NonceBook
import NodeTrial.Tester.Config
import NodeTrial.Tester.Environment

/-! The transfer tester. It sets every account's balance through the executor and learns the
account's public key, then moves money between accounts at random, and after every transfer the
server must report the balances that the ledger expects. Each step takes the tester's state and
leaves one behind, also when it fails.
-/

namespace NodeTrial

/-- The state of a run: what is expected of the server, the stream of chance, and all actions so
far.
-/
structure Tester where
  ledger : Ledger
  nonces : NonceBook
  keys : KeyBook
  words : Words
  history : List Action
  deriving DecidableEq

/-- A step of a run: it answers or fails, and leaves a state behind either way. -/
def Step (α : Type) := Tester → Except TesterError α × Tester

namespace Step

variable {α β : Type}

/-- The step that answers without doing anything. -/
def done (value : α) : Step α :=
  fun t => (.ok value, t)

/-- The step that fails without doing anything. -/
def fail (error : TesterError) : Step α :=
  fun t => (.error error, t)

/-- One step, and another one after it unless it fails. -/
def andThen (first : Step α) (next : α → Step β) : Step β :=
  fun t =>
    match first t with
    | (.ok value, after) => next value after
    | (.error error, after) => (.error error, after)

instance : Monad Step where
  pure := done
  bind := andThen

/-- The step that answers or fails as given. -/
def ofExcept {ε : Type} (wrap : ε → TesterError) (result : Except ε α) : Step α :=
  fun t => (result.mapError wrap, t)

end Step

namespace Tester

/-- The state before a run. -/
def start (ledger : Ledger) (words : Words) : Tester :=
  ⟨ledger, .empty, .empty, words, []⟩

/-- Performs an action and answers what the environment answers, given the history before. -/
def perform {α ε : Type} (action : Action) (wrap : ε → TesterError)
    (answer : List Action → Except ε α) : Step α :=
  fun t => ((answer t.history).mapError wrap, { t with history := t.history ++ [action] })

variable (env : Environment) (config : TesterConfig)

def writeFile (t : Transaction) : Step Unit :=
  perform (.write t.fileText) .io fun past => env.write past t.fileText

def runExecutor (key : String) : Step ToolOutput :=
  perform (.execute key) .io fun past => env.execute past key

/-- Asks the server for the result at a ref. -/
def getValue (ref : String) : Step Value := do
  let _ ← Step.ofExcept .url (readUrl config.server ref)
  let response ← perform (.fetch ref) (.http <| .transport ·) fun past => env.fetch past ref
  Step.ofExcept .http response.result

/-- Asks the server for the addresses of all accounts, in rising order. -/
def accountAddresses : Step (List String) := do
  let result ← getValue env config accountsRef
  Step.ofExcept id (addressesOf result)

def serverBalance (address : String) : Step UInt64 := do
  let result ← getValue env config (balanceRef address)
  Step.ofExcept id (reportedBalance address result)

/-- Writes a line to the log. No step ever reads the log, so it is no part of a run's state. -/
def logLine (_ : String) : Step Unit :=
  Step.done ()

/-- Hands a transaction to the executor. An error that the executor reports is only logged. -/
def executeTransaction (key : String) (t : Transaction) : Step Unit := do
  writeFile env t
  let output ← runExecutor env key
  if output.hadError then logLine output.complaint
  else logLine "Command successful"

def nextNonce (key : String) : Step UInt64 :=
  fun t => (.ok (t.nonces.upcoming key), { t with nonces := (t.nonces.next key).2 })

/-- Claims a public key for a private key. -/
def claimKey (key : String) (known : List String) : Step String :=
  fun t => ((t.keys.claim key known).1.mapError .key,
    { t with keys := (t.keys.claim key known).2 })

def publicKey (key : String) : Step String :=
  fun t => ((t.keys.publicKey key).mapError .key, t)

/-- Learns the public key of a private key whose first transaction was just executed. -/
def discoverPublicKey (key : String) : Step Unit := do
  let known ← accountAddresses env config
  let _ ← claimKey key known

/-- Sets the balance of one account and learns its public key. -/
def seedAccount (key : String) (balance : UInt64) : Step Unit := do
  let nonce ← nextNonce key
  executeTransaction env key (.balanceSet balance nonce)
  discoverPublicKey env config key

/-- Seeds accounts one after the other. -/
def seedAccounts : List (String × UInt64) → Step Unit
  | [] => Step.done ()
  | (key, balance) :: rest => do
    seedAccount env config key balance
    seedAccounts rest

/-- Seeds every account of the ledger, in the order of their keys. -/
def setInitialBalances : Step Unit :=
  fun t => seedAccounts env config t.ledger.balances.entries t

/-- Chooses a sender and a receiver. -/
def chooseAccounts : Step (String × String) :=
  fun t => ((t.ledger.select config.amount t.words).1.mapError .selection,
    { t with words := (t.ledger.select config.amount t.words).2 })

def bookTransfer (sender receiver : String) : Step (UInt64 × UInt64) :=
  fun t => ((t.ledger.transfer sender receiver config.amount).1.mapError .account,
    { t with ledger := (t.ledger.transfer sender receiver config.amount).2 })

def expectedBalance (key : String) : Step UInt64 :=
  fun t => ((t.ledger.balanceOf key).mapError .account, t)

/-- The number of times a balance is asked for: at least once. -/
def attempts : Nat :=
  max 1 config.attempts.toNat

/-- Asks for a balance until it is the expected one, as often as is left; `actual` is the last
answer. A failing read is not repeated.
-/
def poll (address : String) (expected : UInt64) : (left : Nat) → (actual : UInt64) → Step Unit
  | 0, actual => Step.fail (.wrongBalance ⟨address, expected, actual, attempts config⟩)
  | left + 1, _ => do
    let actual ← serverBalance env config address
    if actual = expected then Step.done () else poll address expected left actual

/-- Checks that the server reports the balance that the ledger expects of a key. -/
def checkBalance (key : String) : Step Unit := do
  let address ← publicKey key
  let expected ← expectedBalance key
  poll env config address expected (attempts config) 0

/-- Makes one random transfer and checks the balances of both sides. -/
def transferOnce : Step (String × String) := do
  let (sender, receiver) ← chooseAccounts config
  let address ← publicKey receiver
  let nonce ← nextNonce sender
  executeTransaction env sender (.balanceTransfer address config.amount nonce)
  let _ ← bookTransfer config sender receiver
  checkBalance env config sender
  checkBalance env config receiver
  return (sender, receiver)

/-- Makes a number of transfers. -/
def transfers : Nat → Step Unit
  | 0 => Step.done ()
  | count + 1 => do
    let _ ← transferOnce env config
    transfers count

/-- Refuses a ledger with fewer than two accounts. -/
def requireTwo : Step Unit :=
  fun t =>
    if t.ledger.count < 2 then (.error (.selection (.tooFewAccounts t.ledger.count)), t)
    else (.ok (), t)

/-- Seeds the accounts and makes a number of transfers. -/
def runFor (count : Nat) : Step Unit := do
  requireTwo
  setInitialBalances env config
  transfers env config count

/-- How a run ends that does not fail: with its last iteration, or, without a number of
iterations, when nobody watches it any longer.
-/
inductive RunEnd where
  | finished
  | unwatched
  deriving DecidableEq, Repr

/-- A run of the configured number of iterations. Without one it is watched for `patience`
transfers.
-/
def run (patience : Nat) : Step RunEnd :=
  match config.iterations with
  | some count => do
    runFor env config count.toNat
    return .finished
  | none => do
    runFor env config patience
    return .unwatched

end Tester

end NodeTrial
