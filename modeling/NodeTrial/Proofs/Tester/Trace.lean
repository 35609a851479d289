import NodeTrial.Proofs.Tester.Failures
import NodeTrial.Proofs.Tester.Protocol
import NodeTrial.Proofs.Tester.Verification
import NodeTrial.Proofs.TransactionFile

/-! The protocol of a run. First every account is seeded: its balance is written to the file, the
executor runs for it, and the server is asked for all accounts. Then come transfers: the file, an
executor run for the sender, reads of the sender's balance and reads of the receiver's. Whatever the
surroundings do, the actions of a run follow this protocol and end at the first failure.
-/

namespace NodeTrial.Tester

open Step (Tracks)

variable {env : Environment} {config : TesterConfig} {t u : Tester}

-----------------------------------------------------------------------------------------
-- Executor runs and reads
-----------------------------------------------------------------------------------------

/-- The file is written and the executor runs with a key. -/
def handoverStages (env : Environment) (key text : String) : List Stage :=
  [.act (.write text) fun past => ∃ written, env.write past text = .ok written,
    .act (.execute key) fun past => ∃ output, env.execute past key = .ok output]

theorem executeTransaction_tracks (key : String) (tx : Transaction)
    : (executeTransaction env key tx).Tracks (handoverStages env key tx.fileText) t := by
  rw [executeTransaction_eq]
  exact .bind (.perform _ _ _) fun _ _ _ => .bind (.perform _ _ _) fun _ _ _ => .silent rfl

/-- A server gives one answer to a read after a history. -/
theorem Answers.unique {past : List Action} {ref : String} {result other : Value}
    (h : Answers env past ref result) (k : Answers env past ref other)
    : result = other := by
  obtain ⟨response, fetched, held⟩ := h
  obtain ⟨again, refetched, heldAgain⟩ := k
  obtain rfl := Except.ok.inj (fetched.symm.trans refetched)
  exact Except.ok.inj (held.symm.trans heldAgain)

theorem Reports.unique {past : List Action} {address : String} {balance other : UInt64}
    (h : Reports env past address balance) (k : Reports env past address other)
    : balance = other := by
  obtain ⟨result, answered, reported⟩ := h
  obtain ⟨again, answeredAgain, reportedAgain⟩ := k
  obtain rfl := answered.unique answeredAgain
  exact Except.ok.inj (reported.symm.trans reportedAgain)

/-- The three ways in which a read goes: its URL cannot be formed, and nothing is asked; there is no
answer; or there is one.
-/
theorem getValue_cases (env : Environment) (config : TesterConfig) (ref : String) (t : Tester)
    : (∃ e, getValue env config ref t = (.error e, t))
      ∨ (∃ e, getValue env config ref t = (.error e, t.acted [.fetch ref])
          ∧ ¬ ∃ result, Answers env t.history ref result)
      ∨ ∃ result, getValue env config ref t = (.ok result, t.acted [.fetch ref])
          ∧ Answers env t.history ref result := by
  unfold getValue
  cases formed : readUrl config.server ref with
  | error e =>
      rw [Step.bind_of_error (ofExcept_of_error rfl)]
      exact .inl ⟨_, rfl⟩
  | ok url =>
      rw [Step.bind_of_ok (ofExcept_of_ok rfl)]
      cases fetched : env.fetch t.history ref with
      | error e =>
          rw [Step.bind_of_error (perform_of_error fetched)]
          exact .inr (.inl ⟨_, rfl, fun ⟨_, _, ok, _⟩ => nomatch fetched.symm.trans ok⟩)
      | ok response =>
          rw [Step.bind_of_ok (perform_of_ok fetched)]
          cases held : response.result with
          | error e =>
              refine .inr (.inl ⟨_, ofExcept_of_error rfl, ?_⟩)
              rintro ⟨result, other, refetched, ok⟩
              obtain rfl := Except.ok.inj (fetched.symm.trans refetched)
              cases held.symm.trans ok
          | ok result => exact .inr (.inr ⟨result, ofExcept_of_ok rfl, response, fetched, held⟩)

/-- A read that looks for something in the answer goes in the same three ways. -/
theorem read_cases {α : Type} {step : Step α} (ref : String) (find : Value → Except TesterError α)
    (reads : step = (getValue env config ref >>= fun result => Step.ofExcept id (find result)))
    (t : Tester)
    : (∃ e, step t = (.error e, t))
      ∨ (∃ e, step t = (.error e, t.acted [.fetch ref])
          ∧ ¬ ∃ found result, Answers env t.history ref result ∧ find result = .ok found)
      ∨ ∃ found, step t = (.ok found, t.acted [.fetch ref])
          ∧ ∃ result, Answers env t.history ref result ∧ find result = .ok found := by
  subst reads
  rcases getValue_cases env config ref t with
    ⟨e, failed⟩ | ⟨e, failed, none⟩ | ⟨result, asked, answered⟩
  · exact .inl ⟨e, Step.bind_of_error failed⟩
  · refine .inr (.inl ⟨e, Step.bind_of_error failed, ?_⟩)
    exact fun ⟨_, result, answered, _⟩ => none ⟨result, answered⟩
  · rw [Step.bind_of_ok asked]
    cases holds : find result with
    | error e =>
        refine .inr (.inl ⟨e, rfl, ?_⟩)
        rintro ⟨found, other, answeredToo, finds⟩
        obtain rfl := answered.unique answeredToo
        cases holds.symm.trans finds
    | ok found => exact .inr (.inr ⟨found, rfl, result, answered, holds⟩)

theorem accountAddresses_tracks
    : (accountAddresses env config).Tracks
        [.act (.fetch accountsRef) fun past => ∃ addresses, Lists env past addresses] t := by
  rcases read_cases accountsRef addressesOf (rfl : accountAddresses env config = _) t with
    ⟨e, failed⟩ | ⟨e, failed, fails⟩ | ⟨addresses, listed, lists⟩
  · exact .refused failed rfl _
  · exact ⟨[.fetch accountsRef], by rw [failed]; rfl, by rw [failed]; exact .failed fails⟩
  · refine ⟨[.fetch accountsRef], by rw [listed]; rfl, ?_⟩
    rw [listed]
    exact .passed ⟨addresses, lists⟩ .done

/-- A balance is read until it is the expected one: some reads report another one, the last read the
expected one.
-/
def checkStages (env : Environment) (address : String) (expected : Option UInt64) (retries : Nat)
    : List Stage :=
  List.replicate retries
      (.act (.fetch (balanceRef address)) fun past =>
        ∃ other, Reports env past address other ∧ expected ≠ some other)
    ++ [.act (.fetch (balanceRef address)) fun past =>
        ∃ balance, Reports env past address balance ∧ expected = some balance]

theorem actionsOf_checkStages (address : String) (expected : Option UInt64) (retries : Nat)
    : actionsOf (checkStages env address expected retries)
      = List.replicate retries (.fetch (balanceRef address)) ++ [.fetch (balanceRef address)] := by
  induction retries with
  | zero => rfl
  | succ retries ih => exact congrArg (Action.fetch (balanceRef address) :: ·) ih

/-- Polling asks for the balance at least once and at most as often as it may, by induction on the
reads left.
-/
theorem poll_tracks (address : String) (expected : UInt64) (left : Nat)
    : 0 < left → ∀ (actual : UInt64) (t : Tester),
        ∃ retries < left,
          (poll env config address expected left actual).Tracks
            (checkStages env address (some expected) retries) t := by
  induction left with
  | zero => exact fun none => absurd none (Nat.lt_irrefl 0)
  | succ left ih =>
      intro _ actual t
      have fails (e : TesterError) (none : ¬ ∃ found, Reports env t.history address found
            ∧ some expected = some found)
          (failed : poll env config address expected (left + 1) actual t
            = (.error e, t.acted [.fetch (balanceRef address)]))
          : (poll env config address expected (left + 1) actual).Tracks
              (checkStages env address (some expected) 0) t :=
        ⟨[.fetch (balanceRef address)], by rw [failed]; rfl, by rw [failed]; exact .failed none⟩
      rcases read_cases (balanceRef address) (reportedBalance address)
        (rfl : serverBalance env config address = _) t with
        ⟨e, failed⟩ | ⟨e, failed, none⟩ | ⟨found, read, reports⟩
      · exact ⟨0, Nat.succ_pos left, .refused (Step.bind_of_error failed) rfl _⟩
      · refine ⟨0, Nat.succ_pos left, fails e ?_ (Step.bind_of_error failed)⟩
        exact fun ⟨found, reports, _⟩ => none ⟨found, reports⟩
      · by_cases same : found = expected
        · have ended : poll env config address expected (left + 1) actual t
              = (.ok (), t.acted [.fetch (balanceRef address)]) := by
            rw [poll, Step.bind_of_ok read, if_pos same]
            rfl
          refine ⟨0, Nat.succ_pos left, [.fetch (balanceRef address)], by rw [ended]; rfl, ?_⟩
          rw [ended]
          exact .passed ⟨found, reports, congrArg some same.symm⟩ .done
        · have other : some expected ≠ some found := fun h => same (Option.some.inj h).symm
          have later : poll env config address expected (left + 1) actual t
              = poll env config address expected left found
                  (t.acted [.fetch (balanceRef address)]) := by
            rw [poll, Step.bind_of_ok read, if_neg same]
          rcases Nat.eq_zero_or_pos left with rfl | more
          · refine ⟨0, Nat.succ_pos 0, fails _ ?_ (later.trans rfl)⟩
            rintro ⟨again, reportsAgain, expects⟩
            exact other (Reports.unique reports reportsAgain ▸ expects)
          · obtain ⟨retries, few, tracks⟩ := ih more found (t.acted [.fetch (balanceRef address)])
            obtain ⟨actions, history, follows⟩ := tracks
            refine ⟨retries + 1, Nat.succ_lt_succ few,
              .fetch (balanceRef address) :: actions, ?_, ?_⟩
            · rw [later, history, acted_history, List.append_assoc, List.singleton_append]
            · rw [later]
              exact .passed ⟨found, reports, other⟩ follows

/-- A check of an account that the books know reads its balance once or more, and no more often than
there are attempts.
-/
theorem checkBalance_tracks {key address : String} {balance : UInt64}
    (known : t.keys.publicKey? key = some address) (held : t.ledger.balance? key = some balance)
    : ∃ retries < attempts config,
        (checkBalance env config key).Tracks (checkStages env address (some balance) retries)
          t := by
  obtain ⟨retries, few, tracks⟩ := poll_tracks address balance _ (attempts_pos config) 0 t
  refine ⟨retries, few, ?_⟩
  unfold Tracks
  rw [checkBalance_eq_poll known held]
  exact tracks

-----------------------------------------------------------------------------------------
-- Seeding
-----------------------------------------------------------------------------------------

/-- An account is seeded: its balance is handed over with the first nonce, all accounts are asked
for, and a public key is claimed.
-/
def seedStages (env : Environment) (keys : KeyBook) (entry : String × UInt64) : List Stage :=
  handoverStages env entry.1 (Transaction.balanceSet entry.2 0).fileText
    ++ [.act (.fetch accountsRef) fun past => ∃ addresses, Lists env past addresses,
      .check (∃ address, keys.publicKey? entry.1 = some address)]

theorem seedAccount_tracks {key : String} {balance : UInt64} {keys : KeyBook}
    (unused : t.nonces.upcoming key = 0)
    (later : (seedAccount env config key balance t).2.keys.Extends keys)
    : (seedAccount env config key balance).Tracks (seedStages env keys (key, balance)) t := by
  have discovers (s : Tester)
      : (discoverPublicKey env config key).Tracks
          [.act (.fetch accountsRef) fun past => ∃ addresses, Lists env past addresses] s :=
    Tracks.bind accountAddresses_tracks fun _ _ _ =>
      Tracks.bind (.silent rfl) fun _ _ _ => .silent rfl
  have acts : (seedAccount env config key balance).Tracks
      ([] ++ (handoverStages env key (Transaction.balanceSet balance 0).fileText
        ++ [.act (.fetch accountsRef) fun past => ∃ addresses, Lists env past addresses])) t := by
    refine Tracks.bind (.silent rfl) fun nonce s numbered => ?_
    obtain rfl : t.nonces.upcoming key = nonce := Except.ok.inj (Prod.mk.inj numbered).1
    rw [unused]
    exact Tracks.bind (executeTransaction_tracks _ _) fun _ s _ => discovers s
  have claims : ∀ value u, seedAccount env config key balance t = (.ok value, u) →
      ∃ address, keys.publicKey? key = some address := by
    intro _ u seeded
    obtain ⟨addresses, address, rfl, -, -, claimed⟩ := seedAccount_ok seeded
    rw [seeded] at later
    exact ⟨address, later _ _ (KeyBook.publicKey?_claim claimed)⟩
  have whole := acts.checked claims
  rwa [List.nil_append, List.append_assoc] at whole

/-- Accounts that are seeded one after the other, by induction on them. None comes twice, so each is
handed over with its first nonce.
-/
theorem seedAccounts_tracks {keys : KeyBook} {entries : List (String × UInt64)}
    : (entries.map (·.1)).Nodup →
      ∀ {t : Tester}, (∀ entry ∈ entries, t.nonces.upcoming entry.1 = 0) →
        (seedAccounts env config entries t).2.keys.Extends keys →
        (seedAccounts env config entries).Tracks (entries.flatMap (seedStages env keys)) t := by
  induction entries with
  | nil => exact fun _ _ _ _ => .silent rfl
  | cons entry entries ih =>
      obtain ⟨key, balance⟩ := entry
      intro distinct t fresh later
      obtain ⟨apart, distinct⟩ := List.nodup_cons.mp distinct
      obtain ⟨unused, fresh⟩ := List.forall_mem_cons.mp fresh
      rw [List.flatMap_cons]
      have whole : seedAccounts env config ((key, balance) :: entries) t
          = (seedAccount env config key balance >>= fun _ => seedAccounts env config entries) t :=
        rfl
      rcases (seedAccount env config key balance).fails_or_answers t with
        ⟨e, s, first⟩ | ⟨_, s, first⟩
      · rw [whole, Step.bind_of_error first] at later
        exact (seedAccount_tracks unused (first ▸ later)).bind_error first _
      · rw [whole, Step.bind_of_ok first] at later
        obtain ⟨claims, kept⟩ : Claims s (seedAccounts env config entries s).2 :=
          claims_kept.seedAccounts (claims_kept.keptByDiscovery claims_keptByClaims) entries s
        have early : (seedAccount env config key balance t).2.keys.Extends keys := by
          rw [first]
          intro other p has
          exact later other p (kept ▸ KeyBook.after_extends claims s.keys other p has)
        refine (seedAccount_tracks unused early).bind_ok first (ih distinct ?_ later)
        obtain ⟨addresses, _, rfl, -⟩ := seedAccount_ok first
        exact fresh_seeded apart fresh balance addresses

/-- Seeding hands one nonce to each account in turn and draws no words, by induction on the
accounts.
-/
theorem seedAccounts_leaves {entries : List (String × UInt64)}
    : ∀ {t : Tester}, seedAccounts env config entries t = (.ok (), u) →
        u.nonces = t.nonces.after (entries.map (·.1)) ∧ u.words = t.words := by
  induction entries with
  | nil =>
      intro t h
      obtain rfl : t = u := congrArg Prod.snd h
      exact ⟨rfl, rfl⟩
  | cons entry entries ih =>
      intro t h
      obtain ⟨_, s, first, later⟩ := Step.bind_eq_ok h
      obtain ⟨addresses, _, rfl, -⟩ := seedAccount_ok first
      exact ih later

-----------------------------------------------------------------------------------------
-- Transfers
-----------------------------------------------------------------------------------------

/-- A round is the one that the books have due: the accounts are those that the words choose, the
addresses their public keys, and the file holds the transfer of the amount to the receiver with the
sender's next nonce.
-/
structure Due (config : TesterConfig) (keys : KeyBook) (l : Ledger) (nonces : NonceBook)
    (words : Words) (r : Round)
    : Prop where
  chosen : (l.select config.amount words).1 = .ok (r.sender, r.receiver)
  senderKnown : keys.publicKey? r.sender = some r.senderAddress
  receiverKnown : keys.publicKey? r.receiver = some r.receiverAddress
  text
    : r.text
      = (Transaction.balanceTransfer r.receiverAddress config.amount
          (nonces.upcoming r.sender)).fileText
  attempts : r.senderRetries < attempts config ∧ r.receiverRetries < Tester.attempts config

/-- Rounds that are due one after the other: each moves the amount, takes a nonce and draws words.
-/
def Scheduled (config : TesterConfig) (keys : KeyBook)
    : Ledger → NonceBook → Words → List Round → Prop
  | _, _, _, [] => True
  | l, nonces, words, r :: rest =>
      Due config keys l nonces words r
      ∧ Scheduled config keys (l.transfer r.sender r.receiver config.amount).2
          (nonces.next r.sender).2 (l.select config.amount words).2 rest

/-- The stages after the handover of a round: the booking, and a check of either side with the
balance that the ledger has then.
-/
def settleStages (env : Environment) (booked : Except AccountError (UInt64 × UInt64) × Ledger)
    (r : Round)
    : List Stage :=
  .check (∃ answer, booked.1 = .ok answer)
    :: (checkStages env r.senderAddress (booked.2.balance? r.sender) r.senderRetries
      ++ checkStages env r.receiverAddress (booked.2.balance? r.receiver) r.receiverRetries)

def Round.stages (env : Environment) (config : TesterConfig) (l : Ledger) (r : Round)
    : List Stage :=
  handoverStages env r.sender r.text
    ++ settleStages env (l.transfer r.sender r.receiver config.amount) r

def roundsStages (env : Environment) (config : TesterConfig) : Ledger → List Round → List Stage
  | _, [] => []
  | l, r :: rest =>
      r.stages env config l
        ++ roundsStages env config (l.transfer r.sender r.receiver config.amount).2 rest

theorem Round.actionsOf_stages (l : Ledger) (r : Round)
    : actionsOf (r.stages env config l) = r.actions := by
  unfold Round.stages settleStages
  rw [actionsOf_append, actionsOf, actionsOf_append, actionsOf_checkStages, actionsOf_checkStages]
  simp [actionsOf, handoverStages, Round.actions, Round.beforeReceiver, Round.beforeSender,
    Round.handover]

theorem actionsOf_roundsStages (rounds : List Round)
    : ∀ (l : Ledger),
        actionsOf (roundsStages env config l rounds) = rounds.flatMap Round.actions := by
  induction rounds with
  | nil => exact fun _ => rfl
  | cons r rounds ih =>
      intro l
      rw [roundsStages, actionsOf_append, Round.actionsOf_stages, ih, List.flatMap_cons]

/-- A chosen transfer whose executor has run is booked and checked on both sides, as far as it goes.
-/
theorem settleTransfer_tracks (env : Environment) {words : Words} (r : Round)
    (select : (t.ledger.select config.amount words).1 = .ok (r.sender, r.receiver))
    (senderKnown : t.keys.publicKey? r.sender = some r.senderAddress)
    (receiverKnown : t.keys.publicKey? r.receiver = some r.receiverAddress)
    : ∃ m < attempts config, ∃ n < attempts config,
        (settleTransfer env config r.sender r.receiver).Tracks
          (settleStages env (t.ledger.transfer r.sender r.receiver config.amount)
            { r with
              senderRetries := m
              receiverRetries := n })
          t := by
  obtain ⟨_, _, _, different⟩ := Ledger.select_ok select
  rcases Ledger.transfer_of_select select with ⟨_, answer, after, booked⟩ | ⟨_, refused⟩
  · obtain ⟨senderHeld, receiverHeld, _⟩ := Ledger.transfer_balances different booked
    have books : (bookTransfer config r.sender r.receiver).Tracks
        [.check (∃ found, (Except.ok answer : Except AccountError _) = .ok found)] t :=
      Tracks.checked (.silent rfl) fun _ _ _ => ⟨answer, rfl⟩
    have done := bookTransfer_of_ok booked
    obtain ⟨m, few, first⟩ : ∃ m < attempts config,
        (checkBalance env config r.sender).Tracks
          (checkStages env r.senderAddress (some answer.1) m) { t with ledger := after } :=
      checkBalance_tracks senderKnown senderHeld
    simp only [settleStages, booked]
    rw [senderHeld, receiverHeld]
    unfold settleTransfer
    cases checked : checkBalance env config r.sender { t with ledger := after } with
    | mk result middle =>
        cases result with
        | error e =>
            exact ⟨m, few, 0, attempts_pos config,
              books.bind_ok done (first.bind_error checked _)⟩
        | ok _ =>
            obtain ⟨_, _, _, _, _, _, same, _⟩ := checkBalance_ok checked
            obtain ⟨n, fewer, second⟩ : ∃ n < attempts config,
                (checkBalance env config r.receiver).Tracks
                  (checkStages env r.receiverAddress (some answer.2) n) middle :=
              checkBalance_tracks (same ▸ receiverKnown) (same ▸ receiverHeld)
            have rest : (checkBalance env config r.receiver >>= fun _ =>
                (pure (r.sender, r.receiver) : Step (String × String))).Tracks
                  (checkStages env r.receiverAddress (some answer.2) n ++ []) middle :=
              second.bind fun _ _ _ => .silent rfl
            rw [List.append_nil] at rest
            exact ⟨m, few, n, fewer, books.bind_ok done (first.bind_ok checked rest)⟩
  · exact ⟨0, attempts_pos config, 0, attempts_pos config,
      .refused (settleTransfer_of_refused refused) rfl _⟩

/-- A transfer of a ready tester comes to nothing, or is a round that is due, as far as it goes. -/
theorem transferOnce_tracks (ready : Ready t)
    : (∃ e, transferOnce env config t = (.error e, t.chosen config))
      ∨ ∃ r, Due config t.keys t.ledger t.nonces t.words r
          ∧ (transferOnce env config).Tracks (r.stages env config t.ledger) t := by
  cases select : (t.ledger.select config.amount t.words).1 with
  | error e => exact .inl ⟨_, transferOnce_of_unselected select⟩
  | ok pair =>
      obtain ⟨sender, receiver⟩ := pair
      obtain ⟨_, ⟨paid, pays, _⟩, ⟨held, receives⟩, _⟩ := Ledger.select_ok select
      obtain ⟨senderAddress, senderKnown⟩ :=
        ready.known sender (Ledger.mem_keys_iff.mpr ⟨paid, pays⟩)
      obtain ⟨address, receiverKnown⟩ :=
        ready.known receiver (Ledger.mem_keys_iff.mpr ⟨held, receives⟩)
      let tx := t.transferTo config sender address
      let sent := t.submitted config sender address
      obtain ⟨m, few, n, fewer, settles⟩ :=
        settleTransfer_tracks (t := sent) env
          ⟨sender, receiver, senderAddress, address, tx.fileText, 0, 0⟩ select senderKnown
          receiverKnown
      let r : Round := ⟨sender, receiver, senderAddress, address, tx.fileText, m, n⟩
      refine .inr ⟨r, ?_, ?_⟩
      · exact {
          chosen := select
          senderKnown := senderKnown
          receiverKnown := receiverKnown
          text := rfl
          attempts := ⟨few, fewer⟩
        }
      · have whole : (executeTransaction env sender tx >>= fun _ =>
            settleTransfer env config sender receiver).Tracks (r.stages env config t.ledger)
              (t.prepared config sender) := by
          refine (executeTransaction_tracks sender tx).bind fun _ s executed => ?_
          obtain ⟨rfl, _⟩ := executeTransaction_ok executed
          exact settles
        exact .congr (transferOnce_of_known select receiverKnown) rfl whole

/-- A transfer that ends well leaves the books as they are due: the amount moved, a nonce taken from
the sender, words drawn and no public key claimed.
-/
theorem transferOnce_leaves {pair : String × String}
    (h : transferOnce env config t = (.ok pair, u))
    : (t.ledger.select config.amount t.words).1 = .ok pair
      ∧ u.keys = t.keys
      ∧ u.ledger = (t.ledger.transfer pair.1 pair.2 config.amount).2
      ∧ u.nonces = (t.nonces.next pair.1).2
      ∧ u.words = (t.ledger.select config.amount t.words).2 := by
  obtain ⟨sender, receiver, address, select, _, _, settled⟩ := transferOnce_ok h
  obtain ⟨rfl, answer, after, middle, booked, first, second⟩ := settleTransfer_ok settled
  obtain ⟨_, _, _, _, _, _, rfl, _⟩ := checkBalance_ok first
  obtain ⟨_, _, _, _, _, _, rfl, _⟩ := checkBalance_ok second
  exact ⟨select, rfl, (congrArg Prod.snd booked).symm, rfl, rfl⟩

/-- Transfers of a ready tester are rounds that are due one after the other, as far as they go; if
all of them end well, there are as many rounds. By induction on the number of transfers.
-/
theorem transfers_tracks (count : Nat)
    : ∀ {t : Tester}, Ready t →
        ∃ rounds,
          Scheduled config t.keys t.ledger t.nonces t.words rounds
          ∧ rounds.length ≤ count
          ∧ ((transfers env config count t).1.isOk → rounds.length = count)
          ∧ (transfers env config count).Tracks (roundsStages env config t.ledger rounds) t := by
  induction count with
  | zero => exact fun _ => ⟨[], trivial, Nat.le_refl 0, fun _ => rfl, .silent rfl⟩
  | succ count ih =>
      intro t ready
      rcases transferOnce_tracks ready with ⟨e, failed⟩ | ⟨r, due, tracks⟩
      · have stops : transfers env config (count + 1) t = (.error e, t.chosen config) :=
          Step.bind_of_error failed
        refine ⟨[], trivial, Nat.zero_le _, fun ok => ?_, .refused stops rfl _⟩
        rw [stops] at ok
        cases ok
      rcases (transferOnce env config).fails_or_answers t with ⟨e, s, done⟩ | ⟨pair, s, done⟩
      · have stops : transfers env config (count + 1) t = (.error e, s) :=
          Step.bind_of_error done
        refine ⟨[r], ⟨due, trivial⟩, Nat.succ_pos count, fun ok => ?_,
          tracks.bind_error done []⟩
        rw [stops] at ok
        cases ok
      · have continues : transfers env config (count + 1) t = transfers env config count s :=
          Step.bind_of_ok done
        obtain ⟨chosen, keys, ledger, nonces, words⟩ := transferOnce_leaves done
        obtain rfl := Except.ok.inj (chosen.symm.trans due.chosen)
        have stillReady : Ready (transferOnce env config t).2 :=
          ready_kept.transferOnce t ready
        rw [done] at stillReady
        obtain ⟨rounds, scheduled, few, all, later⟩ := ih stillReady
        rw [keys, ledger, nonces, words] at scheduled
        rw [ledger] at later
        refine ⟨r :: rounds, ⟨due, scheduled⟩, Nat.succ_le_succ few, fun ok => ?_,
          tracks.bind_ok done later⟩
        rw [continues] at ok
        exact congrArg (· + 1) (all ok)

-----------------------------------------------------------------------------------------
-- Runs
-----------------------------------------------------------------------------------------

/-- The stages of a run: every account is seeded, in the order of the keys, and then come rounds. -/
def runStages (env : Environment) (config : TesterConfig) (keys : KeyBook) (l : Ledger)
    (rounds : List Round)
    : List Stage :=
  l.balances.entries.flatMap (seedStages env keys) ++ roundsStages env config l rounds

theorem actionsOf_runStages (keys : KeyBook) (l : Ledger) (rounds : List Round)
    : actionsOf (runStages env config keys l rounds)
      = seedingOf l ++ rounds.flatMap Round.actions := by
  have seeding (entries : List (String × UInt64))
      : actionsOf (entries.flatMap (seedStages env keys))
        = entries.flatMap fun entry => seedActions entry.1 entry.2 0 := by
    induction entries with
    | nil => rfl
    | cons entry entries ih =>
        rw [List.flatMap_cons, actionsOf_append, ih, List.flatMap_cons]
        rfl
  rw [runStages, actionsOf_append, seeding, actionsOf_roundsStages]
  rfl

theorem setInitialBalances_tracks (env : Environment) (config : TesterConfig) (l : Ledger)
    (words : Words)
    : (setInitialBalances env config).Tracks
        (l.balances.entries.flatMap
          (seedStages env (setInitialBalances env config (.start l words)).2.keys))
        (.start l words) :=
  have seeds : (seedAccounts env config l.balances.entries).Tracks _ (.start l words) :=
    seedAccounts_tracks l.balances.keys_nodup (fun _ _ => rfl) fun _ _ has => has
  .congr rfl rfl seeds

/-- A run of some transfers, however it ends: it follows the stages of the seeding and of rounds
that are due one after the other.
-/
theorem runFor_tracks (env : Environment) (config : TesterConfig) (count : Nat) (l : Ledger)
    (words : Words)
    : ∃ rounds,
        Scheduled config (runFor env config count (.start l words)).2.keys l
          (NonceBook.empty.after l.keys) words rounds
        ∧ rounds.length ≤ count
        ∧ ((runFor env config count (.start l words)).1.isOk → rounds.length = count)
        ∧ (runFor env config count).Tracks
            (runStages env config (runFor env config count (.start l words)).2.keys l rounds)
            (.start l words) := by
  by_cases few : l.count < 2
  · have stops : runFor env config count (.start l words)
        = (.error (.selection (.tooFewAccounts l.count)), .start l words) :=
      Step.bind_of_error (if_pos few)
    refine ⟨[], trivial, Nat.zero_le count, fun ok => ?_, .refused stops rfl _⟩
    rw [stops] at ok
    cases ok
  have two : 2 ≤ l.count := Nat.not_lt.mp few
  have begins : runFor env config count (.start l words)
      = (setInitialBalances env config >>= fun _ => transfers env config count) (.start l words) :=
    Step.bind_of_ok (requireTwo_of_two two)
  have tracks := setInitialBalances_tracks env config l words
  cases seeded : setInitialBalances env config (.start l words) with
  | mk answer s =>
      rw [seeded] at tracks
      cases answer with
      | error e =>
          have stops := begins.trans (Step.bind_of_error seeded)
          refine ⟨[], trivial, Nat.zero_le count, fun ok => ?_, ?_⟩
          · rw [stops] at ok
            cases ok
          · rw [stops]
            exact .congr begins rfl (tracks.bind_error seeded _)
      | ok _ =>
          have continues := begins.trans (Step.bind_of_ok seeded)
          have keys : (transfers env config count s).2.keys = s.keys := keys_kept.transfers count s
          obtain ⟨ledger, ready⟩ := setInitialBalances_ready two seeded
          obtain ⟨nonces, drawn⟩
              : s.nonces = NonceBook.empty.after l.keys ∧ s.words = words :=
            seedAccounts_leaves seeded
          obtain ⟨rounds, scheduled, few, all, later⟩ := transfers_tracks count ready
          rw [ledger, nonces, drawn] at scheduled
          rw [ledger] at later
          rw [continues, keys]
          exact ⟨rounds, scheduled, few, all, .congr begins rfl (tracks.bind_ok seeded later)⟩

-----------------------------------------------------------------------------------------
-- What the file holds
-----------------------------------------------------------------------------------------

theorem journalFrom_fetches (ref : String) (rest : List Action) (count : Nat) (file : String)
    : journalFrom file (List.replicate count (.fetch ref) ++ rest) = journalFrom file rest := by
  induction count with
  | zero => rfl
  | succ count ih => exact ih

/-- A round runs the executor once, on what it has written. -/
theorem journalFrom_actions (r : Round) (rest : List Action) (file : String)
    : journalFrom file (r.actions ++ rest) = (r.sender, r.text) :: journalFrom r.text rest := by
  simp [Round.actions, Round.beforeReceiver, Round.beforeSender, Round.handover, journalFrom,
    journalFrom_fetches]

/-- The executor runs of a seeding and of rounds, each with what the file held; by induction on the
rounds and the accounts.
-/
theorem journalFrom_seeding (rounds : List Round) (entries : List (String × UInt64))
    : ∀ (file : String),
        journalFrom file
            ((entries.flatMap fun (key, balance) => seedActions key balance 0)
              ++ rounds.flatMap Round.actions)
          = (entries.map fun (key, balance) => (key, (Transaction.balanceSet balance 0).fileText))
            ++ rounds.map fun r => (r.sender, r.text) := by
  induction entries with
  | nil =>
      induction rounds with
      | nil => exact fun _ => rfl
      | cons r rounds ih =>
          intro file
          exact (journalFrom_actions r _ file).trans (congrArg _ (ih r.text))
  | cons entry entries ih =>
      obtain ⟨key, balance⟩ := entry
      exact fun _ => congrArg _ (ih _)

/-- The executor runs of a first part of a history are the first ones, by induction on this part. -/
theorem journalFrom_isPrefix {actions more : List Action} (h : actions <+: more)
    : ∀ (file : String), journalFrom file actions <+: journalFrom file more := by
  obtain ⟨later, rfl⟩ := h
  induction actions with
  | nil => exact fun _ => List.nil_prefix
  | cons action actions ih =>
      intro file
      cases action with
      | write text => exact ih text
      | execute key => exact List.cons_prefix_cons.mpr ⟨rfl, ih file⟩
      | fetch ref => exact ih file

/-- Every round that is due hands over a transfer, by induction on the rounds. -/
theorem Scheduled.transfers {keys : KeyBook} {rounds : List Round}
    : ∀ {l : Ledger} {nonces : NonceBook} {words : Words},
        Scheduled config keys l nonces words rounds →
        ∀ r ∈ rounds, ∃ nonce,
          r.text
            = (Transaction.balanceTransfer r.receiverAddress config.amount nonce).fileText := by
  induction rounds with
  | nil => exact fun _ => List.forall_mem_nil _
  | cons r rounds ih =>
      exact fun ⟨due, later⟩ => List.forall_mem_cons.mpr ⟨⟨_, due.text⟩, ih later⟩

/-- What the actions of a run are, with rounds of transfers: rounds that are due one after the
other, no more than are planned. The actions follow the seeding and then the rounds, and end at the
first failure, so they come in order and none is skipped or repeated. Whenever the executor was
started, the file was one line that held one transaction: the setting of the account's balance with
its first nonce, or the transfer of the round. A run that ends well has made all its rounds.
-/
structure Traced (env : Environment) (config : TesterConfig) (l : Ledger) (words : Words)
    (count : Nat) (result : Except TesterError RunEnd) (u : Tester) (rounds : List Round)
    : Prop where
  scheduled : Scheduled config u.keys l (NonceBook.empty.after l.keys) words rounds
  few : rounds.length ≤ count
  follows : Follows result.isOk (runStages env config u.keys l rounds) [] u.history
  ordered : u.history <+: seedingOf l ++ rounds.flatMap Round.actions
  handedOver
    : journal u.history
      <+: (l.balances.entries.map fun (key, balance) =>
            (key, (Transaction.balanceSet balance 0).fileText))
          ++ rounds.map fun r => (r.sender, r.text)
  single
    : ∀ run ∈ journal u.history,
        ∃ tx, run.2 = tx.fileText ∧ ∀ f : TransactionFile, (f.write tx).HandsOver tx
  complete
    : result.isOk →
        rounds.length = count ∧ u.history = seedingOf l ++ rounds.flatMap Round.actions

/-- The executor runs of a seeding and of rounds that are due hand over single transactions. -/
theorem Scheduled.single {keys : KeyBook} {l : Ledger} {nonces : NonceBook} {words : Words}
    {rounds : List Round} (scheduled : Scheduled config keys l nonces words rounds)
    (entries : List (String × UInt64))
    : ∀ run ∈ (entries.map fun (key, balance) =>
          (key, (Transaction.balanceSet balance 0).fileText))
        ++ rounds.map fun r => (r.sender, r.text),
        ∃ tx, run.2 = tx.fileText ∧ ∀ f : TransactionFile, (f.write tx).HandsOver tx := by
  refine List.forall_mem_append.mpr ⟨?_, ?_⟩
  · intro run member
    obtain ⟨⟨key, balance⟩, -, rfl⟩ := List.mem_map.mp member
    exact ⟨_, rfl, TransactionFile.handsOver_write_word rfl⟩
  · intro run member
    obtain ⟨r, inside, rfl⟩ := List.mem_map.mp member
    obtain ⟨nonce, text⟩ := scheduled.transfers r inside
    exact ⟨_, text, TransactionFile.handsOver_write_word rfl⟩

/-- Whatever the surroundings do and however it ends, a run has a trace: the seeding of every
account in turn, and then rounds of transfers, up to its first failure.
-/
theorem run_traced {l : Ledger} {words : Words} {patience : Nat}
    {result : Except TesterError RunEnd}
    (h : run env config patience (.start l words) = (result, u))
    : ∃ rounds, Traced env config l words (planned config patience) result u rounds := by
  obtain ⟨ending, same⟩ := run_eq_runFor env config patience
  obtain ⟨rounds, scheduled, few, all, actions, history, follows⟩ :=
    runFor_tracks env config (planned config patience) l words
  have ends := Step.bind_pure (runFor env config (planned config patience)) ending (.start l words)
  rw [← same, h] at ends
  obtain ⟨rfl, rfl⟩ := Prod.mk.inj ends
  have ends_well (made : Except TesterError Unit)
      : (made.map fun _ => ending).isOk = made.isOk := by
    cases made with
    | error e => rfl
    | ok _ => rfl
  obtain rfl : _ = actions := history.trans (List.nil_append actions)
  have ordered := follows.isPrefix
  rw [actionsOf_runStages] at ordered
  have runs : journal _ <+: journal _ := journalFrom_isPrefix ordered ""
  rw [journal, journal, seedingOf, journalFrom_seeding] at runs
  refine ⟨rounds, {
    scheduled := scheduled
    few := few
    follows := by rwa [ends_well]
    ordered := ordered
    handedOver := runs
    single := fun run member => scheduled.single l.balances.entries run (runs.subset member)
    complete := ?_
  }⟩
  intro ok
  rw [ends_well] at ok
  rw [ok] at follows
  exact ⟨all ok, by rw [follows.eq_of_complete, actionsOf_runStages]⟩

/-- A run of two transfers at an honest node has a trace of two rounds. -/
theorem run_traced_twoTransfers
    : ∃ u, run Node.prefixed.environment Node.twoTransfers 0 (.start Node.twoAccounts ⟨[], 0⟩)
          = (.ok .finished, u)
        ∧ ∃ rounds,
            Traced Node.prefixed.environment Node.twoTransfers Node.twoAccounts ⟨[], 0⟩ 2
              (.ok .finished) u rounds
            ∧ rounds.length = 2 := by
  obtain ⟨u, run, _⟩ := Node.run_of_canPay Node.prefixed.environment_honest
    Node.twoAccounts_wellAddressed (by decide) (by decide) (by decide)
    (rfl : Node.twoTransfers.iterations = some 2) (.inr ⟨"alice", 5, by decide, by decide⟩)
    ⟨[], 0⟩ 0
  obtain ⟨rounds, traced⟩ := run_traced run
  exact ⟨u, run, rounds, traced, (traced.complete rfl).1⟩

end NodeTrial.Tester
