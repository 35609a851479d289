import NodeTrial.Proofs.Tester.Claims
import NodeTrial.Proofs.Tester.Numbering

/-! Why a run can fail. After seeding every account has a public key, and once some account can pay
the amount the receiver of the last transfer always can. So what stops a run comes from outside or
from a receiver that is full, unless the ledger that it starts with allows no transfer at all.
-/

namespace NodeTrial

/-- An error that does not accuse the tester's own books: the server, the executor or the file has
failed, or a receiver cannot take any more.
-/
inductive TesterError.Outward : TesterError → Prop where
  | http (error : HttpError) : Outward (.http error)
  | io (error : IoError) : Outward (.io error)
  | url (error : UrlError) : Outward (.url error)
  | missingResult (ref : String) : Outward (.missingResult ref)
  | wrongBalance (found : WrongBalance) : Outward (.wrongBalance found)
  | noneUnclaimed (key : String) : Outward (.key (.noneUnclaimed key))
  | overFunded (key : String) (amount : UInt64) : Outward (.account (.overFunded key amount))

/-- An error of a read of the server, or of a balance that reads have reported. -/
inductive TesterError.FromServer : TesterError → Prop where
  | http (error : HttpError) : FromServer (.http error)
  | url (error : UrlError) : FromServer (.url error)
  | missingResult (ref : String) : FromServer (.missingResult ref)
  | wrongBalance (found : WrongBalance) : FromServer (.wrongBalance found)

theorem TesterError.FromServer.outward {e : TesterError} (h : e.FromServer) : e.Outward := by
  cases h with
  | http error => exact .http error
  | url error => exact .url error
  | missingResult ref => exact .missingResult ref
  | wrongBalance found => exact .wrongBalance found

-----------------------------------------------------------------------------------------
-- Steps that fail with errors of one kind
-----------------------------------------------------------------------------------------

/-- From a state a step can fail with errors of one kind only. -/
def Step.FailsWith {α : Type} (kind : TesterError → Prop) (step : Step α) (t : Tester) : Prop :=
  ∀ e u, step t = (.error e, u) → kind e

/-- From a state a step can fail with outward errors only. -/
def Step.FailsOutward {α : Type} (step : Step α) (t : Tester) : Prop :=
  ∀ e u, step t = (.error e, u) → e.Outward

namespace Step

variable {α β ε : Type} {kind wider : TesterError → Prop} {t : Tester}

theorem FailsWith.of_ok {step : Step α} {value : α} {u : Tester} (h : step t = (.ok value, u))
    : step.FailsWith kind t := by
  intro e s failed
  rw [h] at failed
  cases failed

/-- A step whose errors are wrapped fails with errors of a kind if they are of it when wrapped. -/
theorem FailsWith.of_answer {step : Step α} {result : Except ε α} {wrap : ε → TesterError}
    (answer : (step t).1 = result.mapError wrap)
    (fits : ∀ e, result = .error e → kind (wrap e))
    : step.FailsWith kind t := by
  intro e u failed
  rw [failed] at answer
  cases result with
  | error found =>
      obtain rfl : e = wrap found := Except.error.inj answer
      exact fits found rfl
  | ok value => cases answer

/-- Steps in a row fail with errors of a kind if the first one does and the next one does wherever
the first one leads.
-/
theorem FailsWith.bind {first : Step α} {next : α → Step β} (head : first.FailsWith kind t)
    (tail : ∀ value s, first t = (.ok value, s) → (next value).FailsWith kind s)
    : (first >>= next).FailsWith kind t := by
  intro e u failed
  rcases first.fails_or_answers t with ⟨found, s, stopped⟩ | ⟨value, s, done⟩
  · rw [Step.bind_of_error stopped] at failed
    obtain rfl : found = e := Except.error.inj (Prod.mk.inj failed).1
    exact head found s stopped
  · rw [Step.bind_of_ok done] at failed
    exact tail value s done e u failed

theorem FailsWith.mono {step : Step α} (h : step.FailsWith kind t) (wide : ∀ e, kind e → wider e)
    : step.FailsWith wider t :=
  fun e u failed => wide e (h e u failed)

namespace FailsOutward

theorem of_ok {step : Step α} {value : α} {u : Tester} (h : step t = (.ok value, u))
    : step.FailsOutward t :=
  FailsWith.of_ok h

theorem of_answer {step : Step α} {result : Except ε α} {wrap : ε → TesterError}
    (answer : (step t).1 = result.mapError wrap)
    (outward : ∀ e, result = .error e → (wrap e).Outward)
    : step.FailsOutward t :=
  FailsWith.of_answer answer outward

theorem bind {first : Step α} {next : α → Step β} (head : first.FailsOutward t)
    (tail : ∀ value s, first t = (.ok value, s) → (next value).FailsOutward s)
    : (first >>= next).FailsOutward t :=
  FailsWith.bind head tail

theorem of_fromServer {step : Step α} (h : step.FailsWith TesterError.FromServer t)
    : step.FailsOutward t :=
  h.mono fun _ => TesterError.FromServer.outward

end FailsOutward

end Step

namespace Tester

open Step (FailsOutward FailsWith)
open Node (CanPay)

variable {env : Environment} {config : TesterConfig} {t u : Tester}

-----------------------------------------------------------------------------------------
-- Reads
-----------------------------------------------------------------------------------------

theorem getValue_failsWith (ref : String)
    : (getValue env config ref).FailsWith TesterError.FromServer t := by
  refine .bind (.of_answer rfl fun e _ => .url e) fun _ _ _ => ?_
  exact .bind (.of_answer rfl fun e _ => .http _) fun _ _ _ => .of_answer rfl fun e _ => .http e

theorem serverBalance_failsWith (address : String)
    : (serverBalance env config address).FailsWith TesterError.FromServer t := by
  refine .bind (getValue_failsWith _) fun result _ _ => .of_answer rfl fun e failed => ?_
  unfold reportedBalance at failed
  split at failed
  · cases failed
  · exact Except.error.inj failed ▸ .missingResult _

theorem accountAddresses_failsWith
    : (accountAddresses env config).FailsWith TesterError.FromServer t := by
  refine .bind (getValue_failsWith _) fun result _ _ => .of_answer rfl fun e failed => ?_
  unfold addressesOf at failed
  split at failed
  · cases failed
  · cases failed
  · exact Except.error.inj failed ▸ .missingResult _

/-- Polling fails with errors of the server, by induction on the reads left. -/
theorem poll_failsWith (address : String) (expected : UInt64) (left : Nat)
    : ∀ (actual : UInt64) (t : Tester),
        (poll env config address expected left actual).FailsWith TesterError.FromServer t := by
  induction left with
  | zero => exact fun actual t e u failed => by cases failed; exact .wrongBalance _
  | succ left ih =>
      intro actual t
      refine .bind (serverBalance_failsWith address) fun found s _ => ?_
      split
      · exact .of_ok rfl
      · exact ih found s

/-- A check of an account that the books know fails with errors of the server. -/
theorem checkBalance_failsWith {key address : String} {balance : UInt64}
    (known : t.keys.publicKey? key = some address) (held : t.ledger.balance? key = some balance)
    : (checkBalance env config key).FailsWith TesterError.FromServer t := by
  unfold FailsWith
  rw [checkBalance_eq_poll known held]
  exact poll_failsWith address balance _ 0 t

theorem executeTransaction_failsOutward (key : String) (tx : Transaction)
    : (executeTransaction env key tx).FailsOutward t := by
  rw [executeTransaction_eq]
  refine .bind (.of_answer rfl fun e _ => .io e) fun _ _ _ => ?_
  exact .bind (.of_answer rfl fun e _ => .io e) fun _ _ _ => .of_ok rfl

-----------------------------------------------------------------------------------------
-- Seeding
-----------------------------------------------------------------------------------------

theorem seedAccount_failsOutward (key : String) (balance : UInt64)
    : (seedAccount env config key balance).FailsOutward t := by
  refine .bind (.of_ok rfl) fun nonce _ _ => ?_
  refine .bind (executeTransaction_failsOutward key _) fun _ _ _ => ?_
  refine .bind (.of_fromServer accountAddresses_failsWith) fun known s _ => ?_
  refine .bind (.of_answer rfl fun e failed => ?_) fun _ _ _ => .of_ok rfl
  rw [KeyBook.claim_of_error failed] at failed
  exact Except.error.inj failed ▸ .noneUnclaimed key

/-- Seeding fails outward, by induction on the accounts. -/
theorem seedAccounts_failsOutward (entries : List (String × UInt64))
    : ∀ (t : Tester), (seedAccounts env config entries).FailsOutward t := by
  induction entries with
  | nil => exact fun t => .of_ok rfl
  | cons entry entries ih =>
      exact fun t => .bind (seedAccount_failsOutward entry.1 entry.2) fun _ s _ => ih s

-----------------------------------------------------------------------------------------
-- Transfers
-----------------------------------------------------------------------------------------

/-- A tester that is ready for transfers: it has two accounts or more and knows the public key of
each.
-/
structure Ready (t : Tester) : Prop where
  two : 2 ≤ t.ledger.count
  known : ∀ key ∈ t.ledger.keys, ∃ address, t.keys.publicKey? key = some address

theorem ready_kept : Kept config fun t u => Ready t → Ready u where
  refl _ := id
  trans first second := second ∘ first
  acts _ _ ready := ⟨ready.two, ready.known⟩
  numbers _ _ ready := ⟨ready.two, ready.known⟩
  draws _ _ ready := ⟨ready.two, ready.known⟩
  books t sender receiver ready := by
    rcases Ledger.transfer_cases t.ledger sender receiver config.amount with
      ⟨e, refused⟩ | ⟨left, received, booked, -⟩
    · rw [refused]
      exact ⟨ready.two, ready.known⟩
    · rw [booked]
      refine ⟨Ledger.transfer_count booked ▸ ready.two, fun key member => ?_⟩
      exact ready.known key ((Ledger.transfer_keys booked).mp member)

/-- Some account that can pay the amount is left by every step: the receiver of a transfer that is
booked can pay it again, and nothing else changes a balance.
-/
theorem canPay_kept
    : Kept config fun t u => CanPay t.ledger config.amount → CanPay u.ledger config.amount where
  refl _ := id
  trans first second := second ∘ first
  acts _ _ := id
  numbers _ _ := id
  draws _ _ := id
  books t sender receiver pays := by
    rcases Ledger.transfer_cases t.ledger sender receiver config.amount with
      ⟨e, refused⟩ | ⟨left, received, booked, -⟩
    · rw [refused]
      exact pays
    · rw [booked]
      exact ⟨receiver, received, Ledger.transfer_receives booked⟩

theorem canPay_keptByClaims
    : KeptByClaims fun t u => CanPay t.ledger config.amount → CanPay u.ledger config.amount :=
  fun _ _ _ => id

/-- A chosen transfer whose executor has run fails outward. The ledger refuses it for a full
receiver only, and both checks are of accounts that the books know.
-/
theorem settleTransfer_failsOutward {sender receiver : String} {words : Words} (ready : Ready t)
    (select : (t.ledger.select config.amount words).1 = .ok (sender, receiver))
    : (settleTransfer env config sender receiver).FailsOutward t := by
  obtain ⟨_, ⟨paid, pays, _⟩, ⟨held, receives⟩, different⟩ := Ledger.select_ok select
  obtain ⟨senderAddress, senderKnown⟩ := ready.known sender (Ledger.mem_keys_iff.mpr ⟨paid, pays⟩)
  obtain ⟨address, receiverKnown⟩ := ready.known receiver (Ledger.mem_keys_iff.mpr ⟨held, receives⟩)
  rcases Ledger.transfer_of_select select with ⟨_, answer, after, booked⟩ | ⟨_, refused⟩
  · obtain ⟨leftHeld, receivedHeld, _⟩ := Ledger.transfer_balances different booked
    unfold settleTransfer FailsOutward
    rw [Step.bind_of_ok (bookTransfer_of_ok booked)]
    have senderFails : (checkBalance env config sender).FailsOutward { t with ledger := after } :=
      .of_fromServer (checkBalance_failsWith senderKnown leftHeld)
    refine FailsOutward.bind senderFails fun _ s first => ?_
    obtain ⟨_, _, _, _, _, _, rfl, _⟩ := checkBalance_ok first
    refine .bind ?_ fun _ _ _ => .of_ok rfl
    exact .of_fromServer (checkBalance_failsWith receiverKnown receivedHeld)
  · intro e u failed
    rw [settleTransfer_of_refused refused] at failed
    exact Except.error.inj (Prod.mk.inj failed).1 ▸ .overFunded _ _

/-- A transfer of a ready tester fails outward when some account can pay it. -/
theorem transferOnce_failsOutward (ready : Ready t) (pays : CanPay t.ledger config.amount)
    : (transferOnce env config).FailsOutward t := by
  obtain ⟨payer, paid, found, enough⟩ := pays
  have chosen : ∃ sender receiver,
      (t.ledger.select config.amount t.words).1 = .ok (sender, receiver) :=
    Ledger.select_of_eligible ready.two found enough
  obtain ⟨sender, receiver, select⟩ := chosen
  obtain ⟨_, _, ⟨held, receives⟩, _⟩ := Ledger.select_ok select
  obtain ⟨address, known⟩ := ready.known receiver (Ledger.mem_keys_iff.mpr ⟨held, receives⟩)
  unfold FailsOutward
  rw [transferOnce_of_known select known]
  refine FailsOutward.bind (executeTransaction_failsOutward sender _) fun _ s executed => ?_
  obtain ⟨rfl, _⟩ := executeTransaction_ok executed
  exact settleTransfer_failsOutward ⟨ready.two, ready.known⟩ select

/-- A transfer that no account can pay is refused before anything is done. -/
theorem transferOnce_of_cannotPay (ready : Ready t) (cannotPay : ¬ CanPay t.ledger config.amount)
    : transferOnce env config t
      = (.error (.selection (.noEligibleSender config.amount)), t) := by
  have select : t.ledger.select config.amount t.words
      = (.error (.noEligibleSender config.amount), t.words) :=
    Ledger.select_of_none ready.two fun key held found enough =>
      cannotPay ⟨key, held, found, enough⟩
  rw [transferOnce_of_unselected (congrArg Prod.fst select), chosen, select]

/-- Transfers of a ready tester fail outward when some account can pay the first one, by induction
on their number.
-/
theorem transfers_failsOutward (count : Nat)
    : ∀ {t : Tester}, Ready t → CanPay t.ledger config.amount →
        (transfers env config count).FailsOutward t := by
  induction count with
  | zero => exact fun _ _ => .of_ok rfl
  | succ count ih =>
      intro t ready pays
      refine .bind (transferOnce_failsOutward ready pays) fun pair s first => ?_
      have stillReady : Ready (transferOnce env config t).2 := ready_kept.transferOnce t ready
      have stillPays : CanPay (transferOnce env config t).2.ledger config.amount :=
        canPay_kept.transferOnce t pays
      rw [first] at stillReady stillPays
      exact ih stillReady stillPays

-----------------------------------------------------------------------------------------
-- Runs
-----------------------------------------------------------------------------------------

/-- A run is one of the planned number of transfers. -/
theorem run_eq_runFor (env : Environment) (config : TesterConfig) (patience : Nat)
    : ∃ ending,
        run env config patience
          = (runFor env config (planned config patience) >>= fun _ => pure ending) := by
  unfold run planned
  cases config.iterations with
  | some count => exact ⟨_, rfl⟩
  | none => exact ⟨_, rfl⟩

theorem requireTwo_of_two (two : 2 ≤ t.ledger.count) : requireTwo t = (.ok (), t) :=
  if_neg (Nat.not_lt.mpr two)

/-- A run of too few accounts does nothing. -/
theorem run_of_few (few : t.ledger.count < 2) (patience : Nat)
    : run env config patience t
      = (.error (.selection (.tooFewAccounts t.ledger.count)), t) := by
  obtain ⟨ending, same⟩ := run_eq_runFor env config patience
  have refused : requireTwo t = (.error (.selection (.tooFewAccounts t.ledger.count)), t) :=
    if_pos few
  rw [same]
  exact Step.bind_of_error (Step.bind_of_error refused)

/-- Seeding that ends well leaves a tester of two accounts or more ready, with the ledger that it
had.
-/
theorem setInitialBalances_ready (two : 2 ≤ t.ledger.count)
    (h : setInitialBalances env config t = (.ok (), u))
    : u.ledger = t.ledger ∧ Ready u := by
  have ledger : u.ledger = t.ledger := (seedAccounts_known h).1
  exact ⟨ledger, ledger ▸ two, fun _ => setInitialBalances_known h⟩

/-- A run of accounts of which none can pay ends after seeding if a transfer is planned. -/
theorem run_of_cannotPay (two : 2 ≤ t.ledger.count) (cannotPay : ¬ CanPay t.ledger config.amount)
    {patience : Nat} (positive : 0 < planned config patience)
    (seeding : setInitialBalances env config t = (.ok (), u))
    : run env config patience t
      = (.error (.selection (.noEligibleSender config.amount)), u) := by
  obtain ⟨ending, same⟩ := run_eq_runFor env config patience
  obtain ⟨ledger, ready⟩ := setInitialBalances_ready two seeding
  obtain ⟨more, count⟩ := Nat.exists_eq_succ_of_ne_zero (Nat.pos_iff_ne_zero.mp positive)
  have stops : transfers env config (planned config patience) u
      = (.error (.selection (.noEligibleSender config.amount)), u) := by
    rw [count]
    exact Step.bind_of_error (transferOnce_of_cannotPay ready (ledger ▸ cannotPay))
  have stopsRun : runFor env config (planned config patience) t
      = (.error (.selection (.noEligibleSender config.amount)), u) := by
    unfold runFor
    rw [Step.bind_of_ok (requireTwo_of_two two), Step.bind_of_ok seeding, stops]
  rw [same, Step.bind_of_error stopsRun]

/-- A run fails outward from two accounts or more, unless a transfer is planned that none can pay.
-/
theorem run_failsOutward (two : 2 ≤ t.ledger.count) {patience : Nat}
    (possible : CanPay t.ledger config.amount ∨ planned config patience = 0)
    : (run env config patience).FailsOutward t := by
  obtain ⟨ending, same⟩ := run_eq_runFor env config patience
  rw [same]
  refine .bind ?_ fun _ _ _ => .of_ok rfl
  refine .bind (.of_ok (requireTwo_of_two two)) fun _ r checked => ?_
  obtain rfl : t = r :=
    congrArg Prod.snd ((requireTwo_of_two two).symm.trans checked)
  refine .bind (seedAccounts_failsOutward _ _) fun _ s seeding => ?_
  obtain ⟨ledger, ready⟩ := setInitialBalances_ready two seeding
  rcases possible with pays | none
  · exact transfers_failsOutward _ ready (ledger ▸ pays)
  · rw [none]
    exact .of_ok rfl

/-- The ways in which a run fails. -/
theorem run_error {patience : Nat} {e : TesterError} (h : run env config patience t = (.error e, u))
    : e.Outward
      ∨ t.ledger.count < 2 ∧ e = .selection (.tooFewAccounts t.ledger.count) ∧ u = t
      ∨ (2 ≤ t.ledger.count ∧ ¬ CanPay t.ledger config.amount ∧ 0 < planned config patience)
        ∧ e = .selection (.noEligibleSender config.amount)
        ∧ setInitialBalances env config t = (.ok (), u) := by
  by_cases few : t.ledger.count < 2
  · rw [run_of_few few] at h
    obtain ⟨same, rfl⟩ := Prod.mk.inj h
    exact .inr (.inl ⟨few, (Except.error.inj same).symm, rfl⟩)
  have two := Nat.not_lt.mp few
  by_cases possible : CanPay t.ledger config.amount ∨ planned config patience = 0
  · exact .inl (run_failsOutward two possible e u h)
  obtain ⟨cannotPay, nonzero⟩ := not_or.mp possible
  have positive := Nat.pos_of_ne_zero nonzero
  rcases (setInitialBalances env config).fails_or_answers t with
    ⟨found, s, seeding⟩ | ⟨_, s, seeding⟩
  · obtain ⟨ending, same⟩ := run_eq_runFor env config patience
    have stopsRun : runFor env config (planned config patience) t = (.error found, s) := by
      unfold runFor
      rw [Step.bind_of_ok (requireTwo_of_two two), Step.bind_of_error seeding]
    rw [same, Step.bind_of_error stopsRun] at h
    obtain ⟨same, rfl⟩ := Prod.mk.inj h
    exact .inl (Except.error.inj same ▸ seedAccounts_failsOutward _ _ _ _ seeding)
  · rw [run_of_cannotPay two cannotPay positive seeding] at h
    obtain ⟨same, rfl⟩ := Prod.mk.inj h
    exact .inr (.inr ⟨⟨two, cannotPay, positive⟩, (Except.error.inj same).symm, seeding⟩)

/-- A run never gets stuck, whatever the server, the executor and the file do. The books are never
at fault: no account is missing, none is short of what it was chosen to pay and none is without a
public key. A run finds too few accounts exactly if it starts with fewer than two, and then nothing
was done; it finds no sender exactly if it starts with more, none of which can pay the first
transfer, and then nothing was done but the seeding. For an account that can pay the amount is left
by every call that finds one, however it ends.
-/
theorem run_unstuck (env : Environment) (config : TesterConfig) (patience : Nat) (t : Tester)
    : (∀ key, (run env config patience t).1 ≠ .error (.account (.notFound key)))
      ∧ (∀ key amount,
          (run env config patience t).1 ≠ .error (.account (.underFunded key amount)))
      ∧ (∀ key, (run env config patience t).1 ≠ .error (.key (.unknown key)))
      ∧ (∀ count u,
          run env config patience t = (.error (.selection (.tooFewAccounts count)), u)
          ↔ t.ledger.count < 2 ∧ count = t.ledger.count ∧ u = t)
      ∧ (∀ amount u,
          run env config patience t = (.error (.selection (.noEligibleSender amount)), u)
          ↔ (2 ≤ t.ledger.count ∧ ¬ CanPay t.ledger config.amount ∧ 0 < planned config patience)
            ∧ amount = config.amount
            ∧ setInitialBalances env config t = (.ok (), u))
      ∧ ∀ calls, CanPay t.ledger config.amount →
          CanPay (afterCalls env config calls t).ledger config.amount := by
  have outward {e : TesterError} (failed : (run env config patience t).1 = .error e)
      : e.Outward ∨ ∃ refused, e = .selection refused := by
    rcases run_error (Prod.ext failed rfl) with outward | ⟨_, rfl, _⟩ | ⟨_, rfl, _⟩
    · exact .inl outward
    · exact .inr ⟨_, rfl⟩
    · exact .inr ⟨_, rfl⟩
  refine ⟨fun key failed => ?_, fun key amount failed => ?_, fun key failed => ?_,
    fun count u => ⟨fun failed => ?_, ?_⟩, fun amount u => ⟨fun failed => ?_, ?_⟩,
    fun calls => afterCalls_kept canPay_kept canPay_keptByClaims calls t⟩
  · obtain impossible | ⟨_, ⟨⟩⟩ := outward failed
    cases impossible
  · obtain impossible | ⟨_, ⟨⟩⟩ := outward failed
    cases impossible
  · obtain impossible | ⟨_, ⟨⟩⟩ := outward failed
    cases impossible
  · rcases run_error failed with impossible | ⟨few, same, rfl⟩ | ⟨_, impossible, _⟩
    · cases impossible
    · exact ⟨few, SelectionError.tooFewAccounts.inj (TesterError.selection.inj same), rfl⟩
    · cases impossible
  · rintro ⟨few, rfl, rfl⟩
    exact run_of_few few patience
  · rcases run_error failed with impossible | ⟨_, impossible, _⟩ | ⟨unpaid, same, seeding⟩
    · cases impossible
    · cases impossible
    · exact ⟨unpaid, SelectionError.noEligibleSender.inj (TesterError.selection.inj same), seeding⟩
  · rintro ⟨⟨two, cannotPay, positive⟩, rfl, seeding⟩
    exact run_of_cannotPay two cannotPay positive seeding

/-- Transfers of more than any of two accounts has. -/
def tooMuch : TesterConfig :=
  { Node.twoTransfers with amount := 6 }

/-- At an honest node two accounts are seeded and then none can pay too much, while a payable amount
stays payable.
-/
theorem run_unstuck_tooMuch
    : (∃ u, run Node.prefixed.environment tooMuch 0 (.start Node.twoAccounts ⟨[], 0⟩)
          = (.error (.selection (.noEligibleSender 6)), u)
        ∧ u.history = seedingOf Node.twoAccounts)
      ∧ CanPay (.start Node.twoAccounts ⟨[], 0⟩ : Tester).ledger 3
      ∧ CanPay
          (afterCalls Node.prefixed.environment Node.twoTransfers [.seed, .transfer]
            (.start Node.twoAccounts ⟨[], 0⟩)).ledger
          3 := by
  obtain ⟨u, seeding, -⟩ := Node.setInitialBalances_mirrors Node.prefixed.environment_honest
    Node.twoAccounts_wellAddressed (by decide : tooMuch.server.isBase) ⟨[], 0⟩
  have cannotPay : ¬ CanPay Node.twoAccounts 6 := by
    rintro ⟨key, held, found, enough⟩
    have eligible : key ∈ Node.twoAccounts.eligible 6 :=
      Ledger.mem_eligible_iff.mpr ⟨held, found, enough⟩
    have none : Node.twoAccounts.eligible 6 = [] := by decide +kernel
    rw [none] at eligible
    cases eligible
  have pays : CanPay Node.twoAccounts 3 := ⟨"alice", 5, by decide, by decide⟩
  obtain ⟨-, -, -, -, noSender, -⟩ := run_unstuck Node.prefixed.environment tooMuch 0
    (.start Node.twoAccounts ⟨[], 0⟩)
  obtain ⟨-, -, -, -, -, stays⟩ := run_unstuck Node.prefixed.environment Node.twoTransfers 0
    (.start Node.twoAccounts ⟨[], 0⟩)
  refine ⟨⟨u, ?_, (setInitialBalances_ok seeding).2⟩, pays, stays _ pays⟩
  exact (noSender 6 u).mpr ⟨⟨by decide, cannotPay, by decide⟩, rfl, seeding⟩

end Tester

end NodeTrial
