import NodeTrial.Proofs.NonceBook
import NodeTrial.Proofs.Tester.Failures

/-! Transfers that fail. A transfer can stop at five places: no accounts are chosen, the receiver has
no address, the executor is not run, the ledger refuses, or a balance check fails. The place decides
what is left behind: which actions were taken, whether the sender's nonce is spent and whether the
ledger has the transfer. Whoever calls again goes on from there.
-/

namespace NodeTrial.Tester

open Step (FailsWith)
open TesterError (FromServer)

variable {env : Environment} {config : TesterConfig} {t u : Tester} {e : TesterError}
variable {sender receiver address : String}

/-- The chosen accounts of a transfer and the receiver's address. -/
structure Addressed (config : TesterConfig) (t : Tester) (sender receiver address : String)
    : Prop where
  select : (t.ledger.select config.amount t.words).1 = .ok (sender, receiver)
  known : t.keys.publicKey? receiver = some address

/-- A transfer whose executor has run. -/
structure HandedOver (env : Environment) (config : TesterConfig) (t : Tester)
    (sender receiver address : String)
    : Prop extends Addressed config t sender receiver address where
  executes : Executes env t.history sender (t.transferTo config sender address).fileText

/-- A transfer whose executor has run and that the ledger has taken. -/
structure Booked (env : Environment) (config : TesterConfig) (t : Tester)
    (sender receiver address : String) (after : Ledger)
    : Prop extends HandedOver env config t sender receiver address where
  booked
    : ∃ answer, t.ledger.transfer sender receiver config.amount = (.ok answer, after)

/-- The places where a transfer stops. From the second one on its accounts have been chosen. -/
inductive Stop where
  | selection
  | address (sender receiver : String)
  | handover (sender receiver : String)
  | booking (sender receiver : String)
  | check (sender receiver : String)
  deriving DecidableEq, Repr

/-- A transfer stops somewhere with an error. -/
inductive StopsAt (env : Environment) (config : TesterConfig) (t : Tester)
    : Stop → TesterError → Prop where
  | selection {e : SelectionError}
    (failed : (t.ledger.select config.amount t.words).1 = .error e)
    : StopsAt env config t .selection (.selection e)
  | address {sender receiver : String}
    (select : (t.ledger.select config.amount t.words).1 = .ok (sender, receiver))
    (unknown : t.keys.publicKey? receiver = none)
    : StopsAt env config t (.address sender receiver) (.key (.unknown receiver))
  | unwritten {sender receiver address : String} {e : IoError}
    (addressed : Addressed config t sender receiver address)
    (failed : env.write t.history (t.transferTo config sender address).fileText = .error e)
    : StopsAt env config t (.handover sender receiver) (.io e)
  | unstarted {sender receiver address : String} {e : IoError}
    (addressed : Addressed config t sender receiver address)
    (wrote : env.write t.history (t.transferTo config sender address).fileText = .ok ())
    (failed
      : env.execute (t.history ++ [.write (t.transferTo config sender address).fileText]) sender
        = .error e)
    : StopsAt env config t (.handover sender receiver) (.io e)
  | booking {sender receiver address : String} {e : AccountError}
    (handed : HandedOver env config t sender receiver address)
    (failed : (t.ledger.transfer sender receiver config.amount).1 = .error e)
    : StopsAt env config t (.booking sender receiver) (.account e)
  | senderCheck {sender receiver address : String} {after : Ledger} {e : TesterError} {u : Tester}
    (booked : Booked env config t sender receiver address after)
    (failed
      : checkBalance env config sender
          { t.submitted config sender address with ledger := after }
        = (.error e, u))
    : StopsAt env config t (.check sender receiver) e
  | receiverCheck {sender receiver address : String} {after : Ledger} {e : TesterError}
    {s u : Tester} (booked : Booked env config t sender receiver address after)
    (first
      : checkBalance env config sender
          { t.submitted config sender address with ledger := after }
        = (.ok (), s))
    (failed : checkBalance env config receiver s = (.error e, u))
    : StopsAt env config t (.check sender receiver) e

-----------------------------------------------------------------------------------------
-- Where a transfer stops
-----------------------------------------------------------------------------------------

theorem HandedOver.transferOnce (handed : HandedOver env config t sender receiver address)
    : transferOnce env config t
      = settleTransfer env config sender receiver (t.submitted config sender address) :=
  transferOnce_of_executes handed.select handed.known handed.executes

/-- A transfer that the ledger refuses ends there, in the state that was handed over. -/
theorem HandedOver.transferOnce_of_refused {e : AccountError}
    (handed : HandedOver env config t sender receiver address)
    (failed : (t.ledger.transfer sender receiver config.amount).1 = .error e)
    : Tester.transferOnce env config t
      = (.error (.account e), t.submitted config sender address) := by
  have refused : t.ledger.transfer sender receiver config.amount = (.error e, t.ledger) :=
    Prod.ext failed (Ledger.transfer_error (Prod.ext failed rfl))
  rw [handed.transferOnce]
  exact settleTransfer_of_refused (t := t.submitted config sender address) refused

theorem transferOnce_of_stopsAt {stop : Stop} (stops : StopsAt env config t stop e)
    : ∃ u, transferOnce env config t = (.error e, u) := by
  cases stops with
  | selection failed => exact ⟨_, transferOnce_of_unselected failed⟩
  | address select unknown => exact ⟨_, transferOnce_of_unknown select unknown⟩
  | unwritten addressed failed =>
      exact ⟨_, transferOnce_of_unwritten addressed.select addressed.known failed⟩
  | unstarted addressed wrote failed =>
      exact ⟨_, transferOnce_of_unstarted addressed.select addressed.known wrote failed⟩
  | booking handed failed => exact ⟨_, handed.transferOnce_of_refused failed⟩
  | senderCheck booked failed =>
      obtain ⟨answer, done⟩ := booked.booked
      have settles := settleTransfer_of_senderUnchecked (t := t.submitted config _ _) done failed
      exact ⟨_, booked.transferOnce.trans settles⟩
  | receiverCheck booked first failed =>
      obtain ⟨answer, done⟩ := booked.booked
      have settles :=
        settleTransfer_of_receiverUnchecked (t := t.submitted config _ _) done first failed
      exact ⟨_, booked.transferOnce.trans settles⟩

theorem HandedOver.stops_or_ends (handed : HandedOver env config t sender receiver address)
    : (∃ stop e, StopsAt env config t stop e)
      ∨ ∃ pair u, Tester.transferOnce env config t = (.ok pair, u) := by
  rcases Ledger.transfer_cases t.ledger sender receiver config.amount with
    ⟨refused, done⟩ | ⟨left, received, done, -⟩
  · exact .inl ⟨_, _, .booking handed (congrArg Prod.fst done)⟩
  have booked : Booked env config t sender receiver address
      ((t.ledger.set sender left).set receiver received) := ⟨handed, _, done⟩
  rcases (checkBalance env config sender).fails_or_answers
      { t.submitted config sender address with
        ledger := (t.ledger.set sender left).set receiver received } with
    ⟨e, s, failed⟩ | ⟨_, s, first⟩
  · exact .inl ⟨_, _, .senderCheck booked failed⟩
  rcases (checkBalance env config receiver).fails_or_answers s with
    ⟨e, u, failed⟩ | ⟨_, u, second⟩
  · exact .inl ⟨_, _, .receiverCheck booked first failed⟩
  refine .inr ⟨(sender, receiver), u, handed.transferOnce.trans ?_⟩
  exact settleTransfer_of_checks (t := t.submitted config sender address) done first second

/-- A transfer stops somewhere or ends well, by what its steps come to in turn. -/
theorem stops_or_ends (env : Environment) (config : TesterConfig) (t : Tester)
    : (∃ stop e, StopsAt env config t stop e)
      ∨ ∃ pair u, transferOnce env config t = (.ok pair, u) := by
  cases select : (t.ledger.select config.amount t.words).1 with
  | error e => exact .inl ⟨_, _, .selection select⟩
  | ok accounts =>
      obtain ⟨sender, receiver⟩ := accounts
      cases known : t.keys.publicKey? receiver with
      | none => exact .inl ⟨_, _, .address select known⟩
      | some address =>
          have addressed : Addressed config t sender receiver address := ⟨select, known⟩
          cases wrote : env.write t.history (t.transferTo config sender address).fileText with
          | error e => exact .inl ⟨_, _, .unwritten addressed wrote⟩
          | ok _ =>
              cases ran : env.execute
                  (t.history ++ [.write (t.transferTo config sender address).fileText])
                  sender with
              | error e => exact .inl ⟨_, _, .unstarted addressed wrote ran⟩
              | ok output =>
                  have executes : Executes env t.history sender
                      (t.transferTo config sender address).fileText := ⟨wrote, output, ran⟩
                  exact HandedOver.stops_or_ends ⟨addressed, executes⟩

/-- A transfer fails with an error exactly if it stops somewhere with it. -/
theorem transferOnce_error_iff_stopsAt
    : (transferOnce env config t).1 = .error e ↔ ∃ stop, StopsAt env config t stop e := by
  constructor
  · intro failed
    rcases stops_or_ends env config t with ⟨stop, other, stops⟩ | ⟨pair, u, ended⟩
    · obtain ⟨u, stopped⟩ := transferOnce_of_stopsAt stops
      rw [stopped] at failed
      obtain rfl := Except.error.inj failed
      exact ⟨stop, stops⟩
    · rw [ended] at failed
      cases failed
  · rintro ⟨stop, stops⟩
    obtain ⟨u, stopped⟩ := transferOnce_of_stopsAt stops
    rw [stopped]

-----------------------------------------------------------------------------------------
-- What the error tells
-----------------------------------------------------------------------------------------

/-- The errors with which a transfer stops at a place. As its accounts are two, the error tells the
place.
-/
def Stop.Shows : Stop → TesterError → Prop
  | .selection, e => ∃ found, e = .selection found
  | .address _ receiver, e => e = .key (.unknown receiver)
  | .handover _ _, e => ∃ found, e = .io found
  | .booking _ _, e => ∃ found, e = .account found
  | .check sender _, e => e.FromServer ∨ e = .key (.unknown sender)

/-- A check of an account with a balance fails with an error of the server, or for want of an
address.
-/
theorem checkBalance_failsWith_of_held {key : String} {balance : UInt64}
    (held : t.ledger.balance? key = some balance)
    : (checkBalance env config key).FailsWith
        (fun e => e.FromServer ∨ e = .key (.unknown key)) t := by
  cases known : t.keys.publicKey? key with
  | some address => exact (checkBalance_failsWith known held).mono fun _ => .inl
  | none =>
      intro e u failed
      unfold checkBalance at failed
      rw [Step.bind_of_error (publicKey_of_unknown known)] at failed
      exact .inr (Except.error.inj (Prod.mk.inj failed).1).symm

/-- Once a transfer is booked both of its accounts have a balance. -/
theorem Booked.balances {after : Ledger}
    (booked : Booked env config t sender receiver address after)
    : ∃ left received,
        after.balance? sender = some left ∧ after.balance? receiver = some received := by
  obtain ⟨⟨left, received⟩, done⟩ := booked.booked
  obtain ⟨-, -, -, different⟩ := Ledger.select_ok booked.select
  obtain ⟨leftHeld, receivedHeld, -⟩ := Ledger.transfer_balances different done
  exact ⟨left, received, leftHeld, receivedHeld⟩

theorem StopsAt.shows {stop : Stop} (stops : StopsAt env config t stop e) : stop.Shows e := by
  cases stops with
  | selection => exact ⟨_, rfl⟩
  | address => exact rfl
  | unwritten => exact ⟨_, rfl⟩
  | unstarted => exact ⟨_, rfl⟩
  | booking => exact ⟨_, rfl⟩
  | senderCheck booked failed =>
      -- what the books lack of a sender can only be its address: the booking needed its balance
      obtain ⟨left, received, held, -⟩ := booked.balances
      exact checkBalance_failsWith_of_held (t := { t.submitted config _ _ with ledger := _ }) held _ _
        failed
  | @receiverCheck sender receiver address after e s u booked first failed =>
      obtain ⟨left, received, -, held⟩ := booked.balances
      obtain ⟨_, _, _, _, _, _, reads, _⟩ := checkBalance_ok first
      have stillKnown : s.keys.publicKey? receiver = some address := by
        rw [reads]
        exact booked.known
      have stillHeld : s.ledger.balance? receiver = some received := by
        rw [reads]
        exact held
      exact .inl (checkBalance_failsWith stillKnown stillHeld e u failed)

-----------------------------------------------------------------------------------------
-- What is left behind
-----------------------------------------------------------------------------------------

/-- From one state to another a key has taken one nonce and no other key has. -/
structure TakesNonce (key : String) (t u : Tester) : Prop where
  taken : u.nonces.upcoming key = t.nonces.upcoming key + 1
  others : ∀ other, other ≠ key → u.nonces.upcoming other = t.nonces.upcoming other

theorem takesNonce_of_next {key : String} (same : u.nonces = (t.nonces.next key).2)
    : TakesNonce key t u where
  taken := by rw [same, NonceBook.upcoming_next]
  others other different := by rw [same, NonceBook.upcoming_next_of_ne (Ne.symm different)]

/-- However it ends, a transfer takes one nonce of its sender once it has an address. -/
theorem Addressed.takesNonce (env : Environment)
    (addressed : Addressed config t sender receiver address)
    : TakesNonce sender t (Tester.transferOnce env config t).2 := by
  have trans {a b c : Tester} (first : b.nonces = a.nonces) (second : c.nonces = b.nonces)
      : c.nonces = a.nonces := second.trans first
  have kept : Step.Within (fun t u => u.nonces = t.nonces)
      (executeTransaction env sender (t.transferTo config sender address) >>= fun _ =>
        settleTransfer env config sender receiver) := by
    refine .bind trans ?_ fun _ s => (settleTransfer_quiet sender receiver s).1
    rw [executeTransaction_eq]
    exact .bind trans (fun _ => rfl) fun _ => .bind trans (fun _ => rfl) fun _ _ => rfl
  rw [transferOnce_of_known addressed.select addressed.known]
  exact takesNonce_of_next (kept (t.prepared config sender))

/-- The file is written with the transfer. -/
def writes (config : TesterConfig) (t : Tester) (sender address : String) : Action :=
  .write (t.transferTo config sender address).fileText

/-- What a transfer that stops at a place leaves behind. -/
def Leaves (config : TesterConfig) (t u : Tester) : Stop → Prop
  | .selection | .address _ _ =>
      u.ledger = t.ledger ∧ u.nonces = t.nonces ∧ u.history = t.history
  | .handover sender receiver =>
      u.ledger = t.ledger ∧ TakesNonce sender t u
      ∧ ∃ address, t.keys.publicKey? receiver = some address
        ∧ (u.history = t.history ++ [t.writes config sender address]
          ∨ u.history = t.history ++ [t.writes config sender address, .execute sender])
  | .booking sender receiver =>
      u.ledger = t.ledger ∧ TakesNonce sender t u
      ∧ ∃ address, t.keys.publicKey? receiver = some address
        ∧ u.history = t.history ++ [t.writes config sender address, .execute sender]
  | .check sender receiver =>
      u.ledger.exact = Ledger.exactTransfer sender receiver config.amount t.ledger.exact
      ∧ TakesNonce sender t u
      ∧ ∃ (address : String) (refs : List String), t.keys.publicKey? receiver = some address
        ∧ u.history = t.history ++ [t.writes config sender address, .execute sender]
          ++ refs.map .fetch

theorem Booked.leaves {after : Ledger}
    (booked : Booked env config t sender receiver address after)
    : Leaves config t (Tester.transferOnce env config t).2 (.check sender receiver) := by
  obtain ⟨answer, done⟩ := booked.booked
  obtain ⟨refs, reads⟩ : Reads { t.submitted config sender address with ledger := after }
      (settleTransfer env config sender receiver (t.submitted config sender address)).2 :=
    settleTransfer_of_booked (t := t.submitted config sender address) done
  rw [booked.transferOnce, reads]
  exact ⟨Ledger.transfer_exact done, takesNonce_of_next rfl, address, refs, booked.known, rfl⟩

theorem StopsAt.leaves {stop : Stop} (stops : StopsAt env config t stop e)
    : Leaves config t (transferOnce env config t).2 stop := by
  cases stops with
  | selection failed =>
      rw [transferOnce_of_unselected failed]
      exact ⟨rfl, rfl, rfl⟩
  | address select unknown =>
      rw [transferOnce_of_unknown select unknown]
      exact ⟨rfl, rfl, rfl⟩
  | unwritten addressed failed =>
      rw [transferOnce_of_unwritten addressed.select addressed.known failed]
      exact ⟨rfl, takesNonce_of_next rfl, _, addressed.known, .inl rfl⟩
  | unstarted addressed wrote failed =>
      rw [transferOnce_of_unstarted addressed.select addressed.known wrote failed]
      exact ⟨rfl, takesNonce_of_next rfl, _, addressed.known, .inr rfl⟩
  | booking handed failed =>
      rw [handed.transferOnce_of_refused failed]
      exact ⟨rfl, takesNonce_of_next rfl, _, handed.known, rfl⟩
  | senderCheck booked => exact booked.leaves
  | receiverCheck booked => exact booked.leaves

/-- What a transfer that fails leaves behind. It fails exactly where it stops, and the error tells
the place. The place decides which actions were taken, whether the sender's nonce is spent and
whether the ledger has the transfer; so an error of the ledger leaves it unchanged. No transfer
changes the key book or takes a nonce of another key than its sender.
-/
theorem transferOnce_setback (env : Environment) (config : TesterConfig) (t : Tester)
    : (∀ e, (transferOnce env config t).1 = .error e ↔ ∃ stop, StopsAt env config t stop e)
      ∧ (∀ stop e,
          StopsAt env config t stop e
          → stop.Shows e ∧ Leaves config t (transferOnce env config t).2 stop)
      ∧ (∀ refused,
          (transferOnce env config t).1 = .error (.account refused)
          → (transferOnce env config t).2.ledger = t.ledger)
      ∧ (transferOnce env config t).2.keys = t.keys
      ∧ ∀ sender receiver,
          (t.ledger.select config.amount t.words).1 = .ok (sender, receiver)
          → ∀ key, key ≠ sender →
              (transferOnce env config t).2.nonces.upcoming key = t.nonces.upcoming key := by
  refine ⟨fun e => transferOnce_error_iff_stopsAt, fun stop e stops => ⟨stops.shows, stops.leaves⟩,
    fun refused failed => ?_, keys_kept.transferOnce t, fun sender receiver select key other => ?_⟩
  · obtain ⟨stop, stops⟩ := transferOnce_error_iff_stopsAt.mp failed
    have shows := stops.shows
    have leaves := stops.leaves
    cases stop with
    | selection => exact leaves.1
    | address => exact leaves.1
    | handover => exact leaves.1
    | booking => exact leaves.1
    | check =>
        -- the ledger has the transfer then, but no check fails with an error of the ledger
        rcases shows with impossible | impossible
        · cases impossible
        · cases impossible
  · cases known : t.keys.publicKey? receiver with
    | none =>
        have stops : StopsAt env config t (.address sender receiver) (.key (.unknown receiver)) :=
          .address select known
        rw [stops.leaves.2.1]
    | some address => exact (Addressed.takesNonce env ⟨select, known⟩).others key other

/-- Surroundings in which transactions can be executed and there is no server. -/
def serverless : Environment where
  write _ _ := .ok ()
  execute _ _ := .ok Node.sent
  fetch _ _ := .error .noConnection

/-- Two accounts with public keys, of which only the first can pay. -/
def oneCanPay : Tester where
  ledger := (Ledger.empty.set "a" 5).set "b" 0
  nonces := .empty
  keys := ⟨(Table.empty.insert "a" "0xa").insert "b" "0xb"⟩
  words := ⟨[], 0⟩
  history := []

/-- Without a server the first check of a transfer fails, and the ledger has the transfer then. -/
theorem transferOnce_setback_serverless
    : (transferOnce serverless Node.twoTransfers oneCanPay).1
        = .error (.http (.transport .noConnection))
      ∧ (transferOnce serverless Node.twoTransfers oneCanPay).2.ledger.exact
        = Ledger.exactTransfer "a" "b" 3 oneCanPay.ledger.exact
      ∧ TakesNonce "a" oneCanPay (transferOnce serverless Node.twoTransfers oneCanPay).2 := by
  obtain ⟨errors, places, -⟩ := transferOnce_setback serverless Node.twoTransfers oneCanPay
  have select : (oneCanPay.ledger.select 3 oneCanPay.words).1 = .ok ("a", "b") := rfl
  have known : oneCanPay.keys.publicKey? "b" = some "0xb" := rfl
  have executes : Executes serverless [] "a"
      (oneCanPay.transferTo Node.twoTransfers "a" "0xb").fileText := ⟨rfl, _, rfl⟩
  have stops : StopsAt serverless Node.twoTransfers oneCanPay (.check "a" "b")
      (.http (.transport .noConnection)) :=
    .senderCheck ⟨⟨⟨select, known⟩, executes⟩, _, rfl⟩ rfl
  have leaves := (places _ _ stops).2
  exact ⟨(errors _).mpr ⟨_, stops⟩, leaves.1, leaves.2.1⟩

end NodeTrial.Tester
