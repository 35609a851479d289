import NodeTrial.Table
import NodeTrial.Text.Quoted

/-! The key book: which public key stands for each private key. Public keys are found by
elimination. Right after the first transaction of an account, the one account on the server
that nobody has claimed must be that account's.
-/

namespace NodeTrial

/-- Why the key book has no public key to give. -/
inductive KeyError where
  | noneUnclaimed (key : String)
  | unknown (key : String)
  deriving DecidableEq, Repr

namespace KeyError

def message : KeyError → String
  | .noneUnclaimed key =>
    "no unclaimed public key on the server for private key \"" ++ key ++ "\""
  | .unknown key => "private key \"" ++ key ++ "\" has no known public key"

/-- The short form of a key error: its name and its argument. -/
def diagnostic : KeyError → String
  | .noneUnclaimed key => "PublicKeyNotFound(" ++ Text.quoted key ++ ")"
  | .unknown key => "UnknownPublicKey(" ++ Text.quoted key ++ ")"

end KeyError

/-- The smallest of a list of texts, if there is one. -/
def smallest? : List String → Option String
  | [] => none
  | first :: rest =>
    match smallest? rest with
    | none => some first
    | some other => some (if other < first then other else first)

/-- The public key of each private key that has claimed one. -/
structure KeyBook where
  publicKeys : Table String
  deriving DecidableEq

namespace KeyBook

/-- The book before any claim. -/
def empty : KeyBook :=
  ⟨.empty⟩

instance : Inhabited KeyBook := ⟨empty⟩

/-- The public key of a private key, if it has claimed one. -/
def publicKey? (b : KeyBook) (key : String) : Option String :=
  b.publicKeys.get? key

/-- The public key of a private key that must have one. -/
def publicKey (b : KeyBook) (key : String) : Except KeyError String :=
  match b.publicKey? key with
  | some found => .ok found
  | none => .error (.unknown key)

def isClaimed (b : KeyBook) (publicKey : String) : Bool :=
  b.publicKeys.values.contains publicKey

/-- The public keys of a list that nobody has claimed. -/
def unclaimed (b : KeyBook) (known : List String) : List String :=
  known.filter fun publicKey => !b.isClaimed publicKey

/-- Claims a public key for a private key: the one it has already, else the smallest known one
that nobody has claimed.
-/
def claim (b : KeyBook) (key : String) (known : List String)
    : Except KeyError String × KeyBook :=
  match b.publicKey? key with
  | some found => (.ok found, b)
  | none =>
    match smallest? (b.unclaimed known) with
    | some found => (.ok found, ⟨b.publicKeys.insert key found⟩)
    | none => (.error (.noneUnclaimed key), b)

end KeyBook

end NodeTrial
