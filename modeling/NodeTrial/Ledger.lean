import NodeTrial.Table
import NodeTrial.Text.Numeral
import NodeTrial.Text.Quoted

/-! The ledger of expected balances: what each test account should hold, by its private key. An
operation on it answers or fails and always says which ledger it leaves behind.
-/

namespace NodeTrial

/-- Why a ledger refuses an operation. -/
inductive AccountError where
  | notFound (key : String)
  | underFunded (key : String) (amount : UInt64)
  | overFunded (key : String) (amount : UInt64)
  deriving DecidableEq, Repr

namespace AccountError

/-- The wording of a refusal. -/
def message : AccountError → String
  | .notFound key => "account \"" ++ key ++ "\" doesn't exist"
  | .underFunded key amount =>
    "account \"" ++ key ++ "\" can't afford to withdraw " ++ Text.natText amount.toNat
  | .overFunded key amount =>
    "account \"" ++ key ++ "\" would overflow when receiving " ++ Text.natText amount.toNat

/-- The short form of a refusal: its name and its arguments. -/
def diagnostic : AccountError → String
  | .notFound key => "AccountNotFound(" ++ Text.quoted key ++ ")"
  | .underFunded key amount =>
    "AccountUnderFunded(" ++ Text.quoted key ++ ", " ++ Text.natText amount.toNat ++ ")"
  | .overFunded key amount =>
    "AccountOverFunded(" ++ Text.quoted key ++ ", " ++ Text.natText amount.toNat ++ ")"

end AccountError

/-- The balance that each account should have. -/
structure Ledger where
  balances : Table UInt64
  deriving DecidableEq

namespace Ledger

/-- What an operation answers, or why it fails, and the ledger after it. -/
abbrev Outcome (α : Type) := Except AccountError α × Ledger

/-- The ledger without accounts. -/
def empty : Ledger :=
  ⟨.empty⟩

instance : Inhabited Ledger := ⟨empty⟩

/-- The balance of an account, if there is one with this key. -/
def balance? (l : Ledger) (key : String) : Option UInt64 :=
  l.balances.get? key

/-- The number of accounts. -/
def count (l : Ledger) : Nat :=
  l.balances.size

/-- The keys of the accounts in rising order. -/
def keys (l : Ledger) : List String :=
  l.balances.keys

/-- The exact sum of all balances. -/
def total (l : Ledger) : Nat :=
  l.balances.values.foldr (fun held sum => held.toNat + sum) 0

/-- The balance of an account that must exist. -/
def balanceOf (l : Ledger) (key : String) : Except AccountError UInt64 :=
  match l.balance? key with
  | some held => .ok held
  | none => .error (.notFound key)

/-- The sum of two amounts, if a word can hold it. -/
def sum? (held amount : UInt64) : Option UInt64 :=
  if held.toNat + amount.toNat < UInt64.size then some (held + amount) else none

/-- The difference of two amounts, if it is not negative. -/
def difference? (held amount : UInt64) : Option UInt64 :=
  if amount ≤ held then some (held - amount) else none

/-- Sets the balance of an account. -/
def set (l : Ledger) (key : String) (held : UInt64) : Ledger :=
  ⟨l.balances.insert key held⟩

/-- Adds an amount to an account, or opens the account with it. -/
def deposit (l : Ledger) (key : String) (amount : UInt64) : Outcome UInt64 :=
  match l.balance? key with
  | none => (.ok amount, l.set key amount)
  | some held =>
    match sum? held amount with
    | some after => (.ok after, l.set key after)
    | none => (.error (.overFunded key amount), l)

/-- Takes an amount off an account. -/
def withdraw (l : Ledger) (key : String) (amount : UInt64) : Outcome UInt64 :=
  match l.balance? key with
  | none => (.error (.notFound key), l)
  | some held =>
    match difference? held amount with
    | some after => (.ok after, l.set key after)
    | none => (.error (.underFunded key amount), l)

/-- Moves an amount from one account to another and answers what a withdrawal and the deposit
after it answer. That the recipient can take the amount is checked before anything is moved.
-/
def transfer (l : Ledger) (sender recipient : String) (amount : UInt64)
    : Outcome (UInt64 × UInt64) :=
  match l.balanceOf recipient with
  | .error e => (.error e, l)
  | .ok held =>
    if (sum? held amount).isNone then (.error (.overFunded recipient amount), l)
    else
      match l.withdraw sender amount with
      | (.error e, debited) => (.error e, debited)
      | (.ok left, debited) =>
        match debited.deposit recipient amount with
        | (.error e, credited) => (.error e, credited)
        | (.ok received, credited) => (.ok (left, received), credited)

/-- The keys of the accounts that can pay an amount, in rising order. -/
def eligible (l : Ledger) (amount : UInt64) : List String :=
  (l.balances.entries.filter fun entry => amount ≤ entry.2).map (·.1)

end Ledger

end NodeTrial
