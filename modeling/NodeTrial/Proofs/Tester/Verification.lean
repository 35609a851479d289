import NodeTrial.Proofs.Node.Simulation

/-! Verification. Whatever the server answers, a run that ends well has made all its transfers,
and after each one the server has reported the exact balance of the sender and then that of the
receiver, before the executor ran again. The exact balances are those of a replay of the transfers
that the executor was given, in numbers without a bound.
-/

namespace NodeTrial.Tester

variable {env : Environment} {config : TesterConfig} {t u : Tester}

-----------------------------------------------------------------------------------------
-- Rounds: the actions of one transfer
-----------------------------------------------------------------------------------------

/-- A transfer as it shows in a history: the file that the executor was given, the accounts and
their addresses, and how often each balance was read before the read that ended the check.
-/
structure Round where
  sender : String
  receiver : String
  senderAddress : String
  receiverAddress : String
  text : String
  senderRetries : Nat
  receiverRetries : Nat
  deriving DecidableEq, Repr

namespace Round

def handover (r : Round) : List Action :=
  [.write r.text, .execute r.sender]

/-- The actions before the last read of the sender's balance. -/
def beforeSender (r : Round) : List Action :=
  r.handover ++ List.replicate r.senderRetries (.fetch (balanceRef r.senderAddress))

/-- The actions before the last read of the receiver's balance. -/
def beforeReceiver (r : Round) : List Action :=
  r.beforeSender ++ .fetch (balanceRef r.senderAddress)
    :: List.replicate r.receiverRetries (.fetch (balanceRef r.receiverAddress))

/-- All actions of a round. No executor run comes after the one of its handover. -/
def actions (r : Round) : List Action :=
  r.beforeReceiver ++ [.fetch (balanceRef r.receiverAddress)]

end Round

/-- The exact balances after the transfers of some rounds. -/
def replay (amount : UInt64) (balances : String → Option Int) (rounds : List Round)
    : String → Option Int :=
  rounds.foldl (fun held r => Ledger.exactTransfer r.sender r.receiver amount held) balances

/-- A round that was verified after a history of actions: the executor ran on the transfer of the
amount to the receiver's address, and then the server reported the given balances, each as the
answer to the last read of it.
-/
structure Verified (env : Environment) (config : TesterConfig) (keys : KeyBook)
    (balances : String → Option Int) (past : List Action) (r : Round)
    : Prop where
  executed : Executes env past r.sender r.text
  transfers
    : ∃ nonce,
        r.text = (Transaction.balanceTransfer r.receiverAddress config.amount nonce).fileText
  senderKnown : keys.publicKey? r.sender = some r.senderAddress
  receiverKnown : keys.publicKey? r.receiver = some r.receiverAddress
  attempts : r.senderRetries < attempts config ∧ r.receiverRetries < Tester.attempts config
  senderReported
    : ∃ balance,
        Reports env (past ++ r.beforeSender) r.senderAddress balance
        ∧ balances r.sender = some (balance.toNat : Int)
  receiverReported
    : ∃ balance,
        Reports env (past ++ r.beforeReceiver) r.receiverAddress balance
        ∧ balances r.receiver = some (balance.toNat : Int)

/-- Rounds that were verified one after the other: each with the balances that its own transfer
and those before it lead to.
-/
def VerifiedRounds (env : Environment) (config : TesterConfig) (keys : KeyBook)
    : (String → Option Int) → List Action → List Round → Prop
  | _, _, [] => True
  | balances, past, r :: rest =>
      Verified env config keys (replay config.amount balances [r]) past r
      ∧ VerifiedRounds env config keys (replay config.amount balances [r]) (past ++ r.actions) rest

/-- Any round among verified ones was verified, with the balances and the history that it met; by
induction on the rounds before it.
-/
theorem VerifiedRounds.of_split {keys : KeyBook} {balances : String → Option Int}
    {past : List Action} {before rest : List Round} {r : Round}
    (h : VerifiedRounds env config keys balances past (before ++ r :: rest))
    : Verified env config keys (replay config.amount balances (before ++ [r]))
        (past ++ before.flatMap Round.actions) r := by
  induction before generalizing balances past with
  | nil => simpa using h.1
  | cons first before ih =>
      have later := ih h.2
      simpa [replay, List.append_assoc] using later

-----------------------------------------------------------------------------------------
-- Transfers that end well are verified rounds
-----------------------------------------------------------------------------------------

/-- A transfer that ends well is a verified round: the ledger that both checks compare with is the
exact replay of this transfer on the ledger before.
-/
theorem transferOnce_verified {pair : String × String}
    (h : transferOnce env config t = (.ok pair, u))
    : ∃ r,
        Verified env config t.keys (replay config.amount t.ledger.exact [r]) t.history r
        ∧ u.history = t.history ++ r.actions
        ∧ u.keys = t.keys
        ∧ u.ledger.exact = replay config.amount t.ledger.exact [r] := by
  obtain ⟨sender, receiver, address, _, known, executes, settled⟩ := transferOnce_ok h
  obtain ⟨_, answer, after, middle, booked, first, second⟩ := settleTransfer_ok settled
  obtain ⟨senderAddress, sent, retries, senderKnown, senderHeld, few, rfl, senderReported⟩ :=
    checkBalance_ok first
  obtain ⟨_, received, others, receiverKnown, receiverHeld, fewer, rfl, receiverReported⟩ :=
    checkBalance_ok second
  obtain rfl := Option.some.inj (known.symm.trans receiverKnown)
  have moved : after.exact
      = Ledger.exactTransfer sender receiver config.amount t.ledger.exact :=
    Ledger.transfer_exact booked
  let r : Round := {
    sender
    receiver
    senderAddress
    receiverAddress := address
    text := (t.transferTo config sender address).fileText
    senderRetries := retries
    receiverRetries := others
  }
  refine ⟨r, ?_, ?_, rfl, moved⟩
  · exact {
      executed := executes
      transfers := ⟨_, rfl⟩
      senderKnown := senderKnown
      receiverKnown := receiverKnown
      attempts := ⟨few, fewer⟩
      senderReported := by
        refine ⟨sent, ?_, ?_⟩
        · simpa [r, Round.beforeSender, Round.handover, submitted] using senderReported
        · exact (congrFun moved sender).symm.trans (Ledger.exact_of_balance? senderHeld)
      receiverReported := by
        refine ⟨received, ?_, ?_⟩
        · simpa [r, Round.beforeReceiver, Round.beforeSender, Round.handover, submitted,
            List.replicate_succ'] using receiverReported
        · exact (congrFun moved receiver).symm.trans (Ledger.exact_of_balance? receiverHeld)
    }
  · simp [r, Round.actions, Round.beforeReceiver, Round.beforeSender, Round.handover, submitted,
      List.replicate_succ']

/-- Transfers that end well are verified rounds, by induction on their number. -/
theorem transfers_verified {count : Nat} (h : transfers env config count t = (.ok (), u))
    : ∃ rounds : List Round,
        rounds.length = count
        ∧ VerifiedRounds env config t.keys t.ledger.exact t.history rounds
        ∧ u.history = t.history ++ rounds.flatMap Round.actions
        ∧ u.keys = t.keys
        ∧ u.ledger.exact = replay config.amount t.ledger.exact rounds := by
  induction count generalizing t with
  | zero =>
      obtain rfl : t = u := congrArg Prod.snd h
      exact ⟨[], rfl, trivial, by simp, rfl, rfl⟩
  | succ count ih =>
      obtain ⟨pair, s, first, later⟩ := Step.bind_eq_ok h
      obtain ⟨r, verified, history, keys, exactly⟩ := transferOnce_verified first
      obtain ⟨rounds, length, others, lastHistory, lastKeys, lastExactly⟩ := ih later
      rw [exactly] at others lastExactly
      rw [history, keys] at others
      refine ⟨r :: rounds, by simp [length], ⟨verified, others⟩, ?_, lastKeys.trans keys, ?_⟩
      · rw [lastHistory, history, List.flatMap_cons, List.append_assoc]
      · rw [lastExactly]
        rfl

/-- A run that ends well was verified. It has seeded the accounts and then made exactly as many
rounds as it has iterations; each round was verified with the exact balances that the transfers up
to it lead to, and the last ledger is the exact replay of all of them.
-/
theorem run_verified {l : Ledger} {words : Words} {count : UInt64} {patience : Nat}
    {ending : RunEnd} (limit : config.iterations = some count)
    (h : run env config patience (.start l words) = (.ok ending, u))
    : ∃ rounds : List Round,
        rounds.length = count.toNat
        ∧ u.history = seedingOf l ++ rounds.flatMap Round.actions
        ∧ (∀ before r rest,
            rounds = before ++ r :: rest
            → Verified env config u.keys (replay config.amount l.exact (before ++ [r]))
                (seedingOf l ++ before.flatMap Round.actions) r)
        ∧ u.ledger.exact = replay config.amount l.exact rounds := by
  obtain ⟨_, s, seeding, moving⟩ := runFor_ok (run_ok limit h).2
  obtain ⟨ledger, history⟩ := setInitialBalances_ok seeding
  obtain ⟨rounds, length, verified, lastHistory, keys, exactly⟩ := transfers_verified moving
  rw [ledger, history] at verified
  rw [history] at lastHistory
  rw [ledger] at exactly
  refine ⟨rounds, length, lastHistory, ?_, exactly⟩
  rintro before r rest rfl
  rw [keys]
  exact verified.of_split

/-- Two transfers that end well at an honest node were verified. -/
theorem run_verified_twoTransfers
    : ∃ u, run Node.prefixed.environment Node.twoTransfers 0 (.start Node.twoAccounts ⟨[], 0⟩)
          = (.ok .finished, u)
        ∧ ∃ rounds : List Round,
            rounds.length = 2
            ∧ u.history = seedingOf Node.twoAccounts ++ rounds.flatMap Round.actions
            ∧ u.ledger.exact = replay 3 Node.twoAccounts.exact rounds := by
  obtain ⟨u, run, _⟩ := Node.run_of_canPay Node.prefixed.environment_honest
    Node.twoAccounts_wellAddressed (by decide) (by decide) (by decide)
    (rfl : Node.twoTransfers.iterations = some 2) (.inr ⟨"alice", 5, by decide, by decide⟩)
    ⟨[], 0⟩ 0
  obtain ⟨rounds, length, history, _, exactly⟩ := run_verified rfl run
  exact ⟨u, run, rounds, length, history, exactly⟩

end NodeTrial.Tester
