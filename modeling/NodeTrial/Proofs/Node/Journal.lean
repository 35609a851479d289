import NodeTrial.Node
import NodeTrial.Proofs.Node.Refs
import NodeTrial.Proofs.Table.Lookup
import NodeTrial.Proofs.Transaction

/-! The journal of a history and the balances that a node has after it: each executor run adds one
transaction to the journal, and that transaction changes the balances at the addresses it names.
-/

namespace NodeTrial

-----------------------------------------------------------------------------------------
-- The journal
-----------------------------------------------------------------------------------------

/-- What follows a write does not see the file that was there before, by induction on the actions
before it.
-/
theorem journalFrom_append_write (before after : List Action) (text : String)
    : ∀ (file : String),
        journalFrom file (before ++ .write text :: after)
          = journalFrom file before ++ journalFrom text after := by
  induction before with
  | nil => exact fun file => rfl
  | cons action before ih =>
      intro file
      cases action with
      | write other => exact ih other
      | execute key => exact congrArg ((key, file) :: ·) (ih file)
      | fetch ref => exact ih file

/-- Reads leave the journal as it is, by induction on the actions before them. -/
theorem journalFrom_append_fetch (before : List Action) (ref : String)
    : ∀ (file : String), journalFrom file (before ++ [.fetch ref]) = journalFrom file before := by
  induction before with
  | nil => exact fun file => rfl
  | cons action before ih =>
      intro file
      cases action with
      | write other => exact ih other
      | execute key => exact congrArg ((key, file) :: ·) (ih file)
      | fetch other => exact ih file

namespace Node

/-- An executor run adds the transaction in the file to the journal. -/
theorem entriesOf_execute {t : Transaction}
    (read : Transaction.parse (Text.symbols t.fileText) = .ok t)
    (past : List Action) (key : String)
    : entriesOf (past ++ [.write t.fileText, .execute key]) = entriesOf past ++ [(key, t)] := by
  rw [entriesOf, journal, journalFrom_append_write, List.filterMap_append]
  simp only [journalFrom, List.filterMap_cons, read, List.filterMap_nil]
  rfl

theorem entriesOf_fetch (past : List Action) (ref : String)
    : entriesOf (past ++ [.fetch ref]) = entriesOf past := by
  rw [entriesOf, journal, journalFrom_append_fetch]
  rfl

-----------------------------------------------------------------------------------------
-- Balances
-----------------------------------------------------------------------------------------

variable (node : Node)

/-- The balances that the node has after a history of actions. -/
def balancesAfter (past : List Action) : Table Int :=
  node.replay (entriesOf past)

theorem balancesAfter_fetch (past : List Action) (ref : String)
    : node.balancesAfter (past ++ [.fetch ref]) = node.balancesAfter past := by
  rw [balancesAfter, entriesOf_fetch]
  rfl

/-- An executed transaction changes the balances as the node applies it. -/
theorem balancesAfter_execute {t : Transaction}
    (read : Transaction.parse (Text.symbols t.fileText) = .ok t) (past : List Action)
    (key : String)
    : node.balancesAfter (past ++ [.write t.fileText, .execute key])
      = node.apply (node.balancesAfter past) (key, t) := by
  rw [balancesAfter, entriesOf_execute read, replay, List.foldl_append]
  rfl

theorem parse_fileText_word {t : Transaction} {w : UInt64} (h : t.value = .word w)
    : Transaction.parse (Text.symbols t.fileText) = .ok t :=
  have ⟨whole, fits⟩ := Transaction.whole_of_word h
  t.parse_fileText whole fits

/-- An executed seeding sets the balance of its signer's address and nothing else. -/
theorem get?_balancesAfter_balanceSet {key : String} (noSlash : NoSlash (node.address key))
    (past : List Action) (w nonce : UInt64) (address : String)
    : (node.balancesAfter
          (past ++ [.write (Transaction.balanceSet w nonce).fileText, .execute key])).get? address
      = if node.address key = address then some (w.toNat : Int)
        else (node.balancesAfter past).get? address := by
  have parts := refParts_balanceSet noSlash w nonce
  have value : valueOf (Transaction.balanceSet w nonce) = (w.toNat : Int) := valueOf_word _ rfl
  rw [balancesAfter_execute node (parse_fileText_word rfl), apply]
  simp only [parts, value]
  exact Table.get?_insert ..

/-- An executed transfer between two addresses takes the amount from one and gives it to the
other, and changes nothing else.
-/
theorem get?_balancesAfter_transfer {key receiver : String} (noSlash : NoSlash (node.address key))
    (receiverNoSlash : NoSlash receiver) (noPlaceholder : NoPlaceholder receiver)
    (past : List Action) (amount nonce : UInt64) (different : node.address key ≠ receiver)
    (address : String)
    : (node.balancesAfter
          (past ++ [.write (Transaction.balanceTransfer receiver amount nonce).fileText,
            .execute key])).get? address
      = if receiver = address then
          some (held (node.balancesAfter past) receiver + (amount.toNat : Int))
        else if node.address key = address then
          some (held (node.balancesAfter past) (node.address key) - (amount.toNat : Int))
        else (node.balancesAfter past).get? address := by
  have parts := refParts_transfer noSlash receiverNoSlash noPlaceholder nonce
  have value : valueOf (Transaction.balanceTransfer receiver amount nonce) = (amount.toNat : Int) :=
    valueOf_word _ rfl
  have ref : (Transaction.balanceTransfer receiver amount nonce).ref
      = Transaction.transferRef receiver nonce := rfl
  rw [balancesAfter_execute node (parse_fileText_word rfl), apply]
  simp only [ref, parts, value, move]
  rw [Table.get?_insert, Table.get?_insert]
  simp only [held]
  rw [Table.get?_insert_of_ne _ _ different]

end Node

end NodeTrial
