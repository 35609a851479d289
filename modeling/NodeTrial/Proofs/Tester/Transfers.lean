import NodeTrial.Proofs.Ledger.Selection
import NodeTrial.Proofs.Tester.Steps

/-! One transfer of a run. It comes to nothing before the executor has run, for one of three
reasons, or the executor has run and what remains is to book the transfer and to check both
balances. Every fact about a transfer is drawn from these four cases.
-/

namespace NodeTrial.Tester

variable {env : Environment} {config : TesterConfig} {t u : Tester}

/-- What remains of a transfer after its executor run: it is booked and both balances are checked.
-/
def settleTransfer (env : Environment) (config : TesterConfig) (sender receiver : String)
    : Step (String × String) := do
  let _ ← bookTransfer config sender receiver
  checkBalance env config sender
  checkBalance env config receiver
  return (sender, receiver)

/-- The words that are left when the accounts of a transfer have been chosen. -/
def chosen (config : TesterConfig) (t : Tester) : Tester :=
  { t with words := (t.ledger.select config.amount t.words).2 }

/-- The state in which a transfer is handed to the executor: the accounts have been chosen and the
sender has taken its nonce.
-/
def prepared (config : TesterConfig) (t : Tester) (sender : String) : Tester :=
  { t.chosen config with nonces := (t.nonces.next sender).2 }

@[simp]
theorem chosen_history : (t.chosen config).history = t.history :=
  rfl

@[simp]
theorem prepared_history {sender : String} : (t.prepared config sender).history = t.history :=
  rfl

/-- The transaction that moves the amount to an address with the sender's next nonce. -/
def transferTo (config : TesterConfig) (t : Tester) (sender address : String) : Transaction :=
  .balanceTransfer address config.amount (t.nonces.upcoming sender)

/-- The state after the executor run of a transfer. -/
def submitted (config : TesterConfig) (t : Tester) (sender address : String) : Tester :=
  (t.prepared config sender).acted
    [.write (t.transferTo config sender address).fileText, .execute sender]

-----------------------------------------------------------------------------------------
-- The four cases
-----------------------------------------------------------------------------------------

theorem chooseAccounts_of_select {sender receiver : String}
    (select : (t.ledger.select config.amount t.words).1 = .ok (sender, receiver))
    : chooseAccounts config t = (.ok (sender, receiver), t.chosen config) := by
  simp [chooseAccounts, select, chosen]

theorem transferOnce_of_unselected {e : SelectionError}
    (select : (t.ledger.select config.amount t.words).1 = .error e)
    : transferOnce env config t = (.error (.selection e), t.chosen config) := by
  have failed : chooseAccounts config t = (.error (.selection e), t.chosen config) := by
    simp [chooseAccounts, select, chosen]
  unfold transferOnce
  rw [Step.bind_of_error failed]

theorem transferOnce_of_unknown {sender receiver : String}
    (select : (t.ledger.select config.amount t.words).1 = .ok (sender, receiver))
    (unknown : t.keys.publicKey? receiver = none)
    : transferOnce env config t = (.error (.key (.unknown receiver)), t.chosen config) := by
  unfold transferOnce
  rw [Step.bind_of_ok (chooseAccounts_of_select select)]
  exact Step.bind_of_error (publicKey_of_unknown (t := t.chosen config) unknown)

/-- With both accounts and the receiver's address known, the transfer is handed over and the rest
follows if that succeeds.
-/
theorem transferOnce_of_known {sender receiver address : String}
    (select : (t.ledger.select config.amount t.words).1 = .ok (sender, receiver))
    (known : t.keys.publicKey? receiver = some address)
    : transferOnce env config t
      = (executeTransaction env sender (t.transferTo config sender address) >>= fun _ =>
          settleTransfer env config sender receiver) (t.prepared config sender) := by
  have numbered : nextNonce sender (t.chosen config)
      = (.ok (t.nonces.upcoming sender), t.prepared config sender) := rfl
  unfold transferOnce
  rw [Step.bind_of_ok (chooseAccounts_of_select select)]
  refine (Step.bind_of_ok (publicKey_of_known (t := t.chosen config) known)).trans ?_
  rw [Step.bind_of_ok numbered]
  rfl

theorem transferOnce_of_executes {sender receiver address : String}
    (select : (t.ledger.select config.amount t.words).1 = .ok (sender, receiver))
    (known : t.keys.publicKey? receiver = some address)
    (executes : Executes env t.history sender (t.transferTo config sender address).fileText)
    : transferOnce env config t
      = settleTransfer env config sender receiver (t.submitted config sender address) := by
  rw [transferOnce_of_known select known]
  exact Step.bind_of_ok (executeTransaction_of_executes (t := t.prepared config sender) executes)

theorem transferOnce_of_unwritten {sender receiver address : String} {failure : IoError}
    (select : (t.ledger.select config.amount t.words).1 = .ok (sender, receiver))
    (known : t.keys.publicKey? receiver = some address)
    (failed
      : env.write t.history (t.transferTo config sender address).fileText = .error failure)
    : transferOnce env config t
      = (.error (.io failure),
          (t.prepared config sender).acted [.write (t.transferTo config sender address).fileText]) := by
  rw [transferOnce_of_known select known]
  exact Step.bind_of_error
    (executeTransaction_of_unwritten (t := t.prepared config sender) failed)

theorem transferOnce_of_unstarted {sender receiver address : String} {failure : IoError}
    (select : (t.ledger.select config.amount t.words).1 = .ok (sender, receiver))
    (known : t.keys.publicKey? receiver = some address)
    (wrote : env.write t.history (t.transferTo config sender address).fileText = .ok ())
    (failed
      : env.execute (t.history ++ [.write (t.transferTo config sender address).fileText]) sender
        = .error failure)
    : transferOnce env config t = (.error (.io failure), t.submitted config sender address) := by
  rw [transferOnce_of_known select known]
  exact Step.bind_of_error
    (executeTransaction_of_unstarted (t := t.prepared config sender) wrote failed)

/-- The executor has not run: the file could not be written, or the executor not be started. -/
theorem transferOnce_of_unsent {sender receiver address : String}
    (select : (t.ledger.select config.amount t.words).1 = .ok (sender, receiver))
    (known : t.keys.publicKey? receiver = some address)
    (unsent
      : ¬ Executes env t.history sender (t.transferTo config sender address).fileText)
    : ∃ e actions,
        transferOnce env config t = (.error e, (t.prepared config sender).acted actions)
        ∧ (actions = [.write (t.transferTo config sender address).fileText]
          ∨ actions
            = [.write (t.transferTo config sender address).fileText, .execute sender]) := by
  cases wrote : env.write t.history (t.transferTo config sender address).fileText with
  | error failure => exact ⟨_, _, transferOnce_of_unwritten select known wrote, .inl rfl⟩
  | ok _ =>
      cases ran : env.execute
          (t.history ++ [.write (t.transferTo config sender address).fileText]) sender with
      | error failure =>
          exact ⟨_, _, transferOnce_of_unstarted select known wrote ran, .inr rfl⟩
      | ok output => exact absurd ⟨wrote, output, ran⟩ unsent

-----------------------------------------------------------------------------------------
-- After the executor run
-----------------------------------------------------------------------------------------

theorem bookTransfer_of_ok {sender receiver : String} {answer : UInt64 × UInt64} {after : Ledger}
    (booked : t.ledger.transfer sender receiver config.amount = (.ok answer, after))
    : bookTransfer config sender receiver t = (.ok answer, { t with ledger := after }) := by
  simp [bookTransfer, booked]

/-- A transfer that the ledger refuses after its executor run leaves the ledger as it was. -/
theorem settleTransfer_of_refused {sender receiver : String} {e : AccountError}
    (refused : t.ledger.transfer sender receiver config.amount = (.error e, t.ledger))
    : settleTransfer env config sender receiver t = (.error (.account e), t) := by
  have failed : bookTransfer config sender receiver t = (.error (.account e), t) := by
    simp [bookTransfer, refused]
  unfold settleTransfer
  exact Step.bind_of_error failed

/-- A transfer that the ledger takes stays booked, whatever comes of the checks after it. -/
theorem settleTransfer_of_booked {sender receiver : String} {answer : UInt64 × UInt64}
    {after : Ledger}
    (booked : t.ledger.transfer sender receiver config.amount = (.ok answer, after))
    : Reads { t with ledger := after } (settleTransfer env config sender receiver t).2 := by
  unfold settleTransfer
  rw [Step.bind_of_ok (bookTransfer_of_ok booked)]
  have checks : Step.Within Reads (do
      checkBalance env config sender
      checkBalance env config receiver
      return (sender, receiver)) := by
    refine .bind Reads.trans (checkBalance_reads env config sender) fun _ => ?_
    refine .bind Reads.trans (checkBalance_reads env config receiver) fun _ => ?_
    exact fun t => Reads.refl t
  exact checks _

theorem settleTransfer_of_checks {sender receiver : String} {answer : UInt64 × UInt64}
    {after : Ledger} {middle : Tester}
    (booked : t.ledger.transfer sender receiver config.amount = (.ok answer, after))
    (first : checkBalance env config sender { t with ledger := after } = (.ok (), middle))
    (second : checkBalance env config receiver middle = (.ok (), u))
    : settleTransfer env config sender receiver t = (.ok (sender, receiver), u) := by
  unfold settleTransfer
  rw [Step.bind_of_ok (bookTransfer_of_ok booked), Step.bind_of_ok first, Step.bind_of_ok second]
  rfl

theorem settleTransfer_of_senderUnchecked {sender receiver : String} {answer : UInt64 × UInt64}
    {after : Ledger} {e : TesterError}
    (booked : t.ledger.transfer sender receiver config.amount = (.ok answer, after))
    (failed : checkBalance env config sender { t with ledger := after } = (.error e, u))
    : settleTransfer env config sender receiver t = (.error e, u) := by
  unfold settleTransfer
  rw [Step.bind_of_ok (bookTransfer_of_ok booked)]
  exact Step.bind_of_error failed

theorem settleTransfer_of_receiverUnchecked {sender receiver : String} {answer : UInt64 × UInt64}
    {after : Ledger} {middle : Tester} {e : TesterError}
    (booked : t.ledger.transfer sender receiver config.amount = (.ok answer, after))
    (first : checkBalance env config sender { t with ledger := after } = (.ok (), middle))
    (failed : checkBalance env config receiver middle = (.error e, u))
    : settleTransfer env config sender receiver t = (.error e, u) := by
  unfold settleTransfer
  rw [Step.bind_of_ok (bookTransfer_of_ok booked), Step.bind_of_ok first]
  exact Step.bind_of_error failed

/-- A transfer that ends well was booked and passed both checks. -/
theorem settleTransfer_ok {sender receiver : String} {pair : String × String}
    (h : settleTransfer env config sender receiver t = (.ok pair, u))
    : pair = (sender, receiver)
      ∧ ∃ answer after middle,
          t.ledger.transfer sender receiver config.amount = (.ok answer, after)
          ∧ checkBalance env config sender { t with ledger := after } = (.ok (), middle)
          ∧ checkBalance env config receiver middle = (.ok (), u) := by
  obtain ⟨answer, s, booked, later⟩ := Step.bind_eq_ok h
  obtain ⟨_, middle, first, later⟩ := Step.bind_eq_ok later
  obtain ⟨_, last, second, ended⟩ := Step.bind_eq_ok later
  obtain ⟨answered, rfl⟩ := Prod.mk.inj booked
  obtain ⟨same, rfl⟩ := Prod.mk.inj ended
  refine ⟨(Except.ok.inj same).symm, answer, _, middle, ?_, first, second⟩
  exact Prod.ext (mapError_eq_ok.mp answered) rfl

/-- A transfer that ends well: the accounts were chosen, the executor has run and the rest went
well too.
-/
theorem transferOnce_ok {pair : String × String}
    (h : transferOnce env config t = (.ok pair, u))
    : ∃ sender receiver address,
        (t.ledger.select config.amount t.words).1 = .ok (sender, receiver)
        ∧ t.keys.publicKey? receiver = some address
        ∧ Executes env t.history sender (t.transferTo config sender address).fileText
        ∧ settleTransfer env config sender receiver (t.submitted config sender address)
          = (.ok pair, u) := by
  cases select : (t.ledger.select config.amount t.words).1 with
  | error e =>
      rw [transferOnce_of_unselected select] at h
      cases h
  | ok accounts =>
      obtain ⟨sender, receiver⟩ := accounts
      cases known : t.keys.publicKey? receiver with
      | none =>
          rw [transferOnce_of_unknown select known] at h
          cases h
      | some address =>
          by_cases executes
            : Executes env t.history sender (t.transferTo config sender address).fileText
          · rw [transferOnce_of_executes select known executes] at h
            exact ⟨sender, receiver, address, rfl, known, executes, h⟩
          · obtain ⟨e, _, failed, _⟩ := transferOnce_of_unsent select known executes
            rw [failed] at h
            cases h

end NodeTrial.Tester
