import NodeTrial.Proofs.Node.Simulation
import NodeTrial.Proofs.NonceBook
import NodeTrial.Proofs.Tester.Seeding
import NodeTrial.Proofs.Tester.Transfers
import NodeTrial.Proofs.Transaction

/-! The transactions of a run. Each one takes its signer's next nonce, is written to the file and
then handed to the executor; a run that fails leaves at most the last one unexecuted. So a signer's
transactions are numbered from zero without a gap, and all its transfers have refs of their own.
-/

namespace NodeTrial

theorem Step.bind_assoc {α β γ : Type} (first : Step α) (second : α → Step β) (third : β → Step γ)
    : (first >>= second) >>= third = first >>= fun value => second value >>= third := by
  funext t
  rcases first.fails_or_answers t with ⟨e, s, failed⟩ | ⟨value, s, done⟩
  · rw [bind_of_error failed, bind_of_error (bind_of_error failed)]
  · rw [bind_of_ok done, bind_congr (bind_of_ok done)]

-----------------------------------------------------------------------------------------
-- Histories that hand over transactions
-----------------------------------------------------------------------------------------

/-- A history hands over transactions: each is written to the file and then executed with its
signer's key, and otherwise the server is read. A history that is not complete may end with a
transaction that was written and not executed.
-/
inductive HandsOver : (complete : Bool) → List (String × Transaction) → List Action → Prop where
  | nothing {complete} : HandsOver complete [] []
  | read {complete signed actions} (ref : String)
      : HandsOver complete signed actions → HandsOver complete signed (.fetch ref :: actions)
  | sent {complete signed actions} (key : String) (tx : Transaction)
      : HandsOver complete signed actions →
        HandsOver complete ((key, tx) :: signed) (.write tx.fileText :: .execute key :: actions)
  | unsent (key : String) (tx : Transaction) : HandsOver false [(key, tx)] [.write tx.fileText]

/-- A history after a complete one hands over the transactions of both, by induction on the first.
-/
theorem HandsOver.append {complete : Bool} {signed more : List (String × Transaction)}
    {actions later : List Action} (first : HandsOver true signed actions)
    (second : HandsOver complete more later)
    : HandsOver complete (signed ++ more) (actions ++ later) := by
  generalize whole : true = before at first
  induction first with
  | nothing => exact second
  | read ref _ ih => exact .read ref (ih whole)
  | sent key tx _ ih => exact .sent key tx (ih whole)
  | unsent => cases whole

/-- Reads hand over nothing. -/
theorem handsOver_reads (complete : Bool) (refs : List String)
    : HandsOver complete [] (refs.map .fetch) := by
  induction refs with
  | nil => exact .nothing
  | cons ref refs ih => exact .read ref ih

namespace Tester

-----------------------------------------------------------------------------------------
-- States after signed transactions
-----------------------------------------------------------------------------------------

/-- A tester makes two kinds of transactions: those that set the signer's balance, and transfers of
the configured amount.
-/
def Makes (config : TesterConfig) (tx : Transaction) : Prop :=
  (∃ balance, tx = .balanceSet balance tx.nonce)
  ∨ ∃ address, tx = .balanceTransfer address config.amount tx.nonce

/-- From one state to a later one transactions were signed: each with its signer's next nonce, and
all of them were handed over.
-/
structure Signs (config : TesterConfig) (complete : Bool) (signed : List (String × Transaction))
    (t u : Tester) : Prop where
  handed : ∃ actions, u.history = t.history ++ actions ∧ HandsOver complete signed actions
  numbered : t.nonces.Numbered signed
  nonces : u.nonces = t.nonces.after (signed.map (·.1))
  made : ∀ s ∈ signed, Makes config s.2

variable {env : Environment} {config : TesterConfig} {t s u : Tester}

theorem Signs.trans {complete : Bool} {signed more : List (String × Transaction)}
    (first : Signs config true signed t s) (second : Signs config complete more s u)
    : Signs config complete (signed ++ more) t u := by
  obtain ⟨actions, history, handed⟩ := first.handed
  obtain ⟨later, ended, handedLater⟩ := second.handed
  refine {
    handed := ⟨actions ++ later, ?_, handed.append handedLater⟩
    numbered := first.numbered.append (first.nonces ▸ second.numbered)
    nonces := ?_
    made := List.forall_mem_append.mpr ⟨first.made, second.made⟩
  }
  · rw [ended, history, List.append_assoc]
  · rw [second.nonces, first.nonces, List.map_append, NonceBook.after_append]

/-- A step signs transactions with some property, and if it ends well all of them were executed. -/
def Signing (config : TesterConfig) (among : List (String × Transaction) → Prop) {α : Type}
    (step : Step α) : Prop :=
  ∀ t, ∃ signed, Signs config (step t).1.isOk signed t (step t).2 ∧ among signed

/-- Steps in a row sign the transactions of both, or only of the first one if it fails. -/
theorem Signing.bind {α β : Type} {first : Step α} {next : α → Step β}
    {early late among : List (String × Transaction) → Prop} (head : Signing config early first)
    (tail : ∀ value, Signing config late (next value))
    (both : ∀ signed more, early signed → late more → among (signed ++ more))
    (alone : ∀ signed, early signed → among signed)
    : Signing config among (first >>= next) := by
  intro t
  obtain ⟨signed, signs, good⟩ := head t
  rcases first.fails_or_answers t with ⟨e, s, failed⟩ | ⟨value, s, done⟩
  · rw [failed] at signs
    rw [Step.bind_of_error failed]
    exact ⟨signed, signs, alone signed good⟩
  · rw [done] at signs
    obtain ⟨more, signsMore, goodMore⟩ := tail value s
    rw [Step.bind_of_ok done]
    exact ⟨signed ++ more, signs.trans signsMore, both signed more good goodMore⟩

theorem Signing.imp {α : Type} {step : Step α} {among other : List (String × Transaction) → Prop}
    (h : Signing config among step) (imp : ∀ signed, among signed → other signed)
    : Signing config other step :=
  fun t => (h t).imp fun signed => And.imp_right (imp signed)

/-- A state is reached from another one without a nonce, an executor run or a write. -/
def Quiet (t u : Tester) : Prop :=
  u.nonces = t.nonces ∧ ∃ refs : List String, u.history = t.history ++ refs.map .fetch

theorem Quiet.of_same (nonces : u.nonces = t.nonces) (history : u.history = t.history)
    : Quiet t u :=
  ⟨nonces, [], by rw [history, List.map_nil, List.append_nil]⟩

theorem Quiet.of_reads (h : Reads t u) : Quiet t u := by
  obtain ⟨refs, rfl⟩ := h
  exact ⟨rfl, refs, rfl⟩

theorem Quiet.trans (h : Quiet t s) (k : Quiet s u) : Quiet t u := by
  obtain ⟨nonces, refs, history⟩ := h
  obtain ⟨later, more, ended⟩ := k
  refine ⟨later.trans nonces, refs ++ more, ?_⟩
  rw [ended, history, List.map_append, List.append_assoc]

theorem Signing.of_quiet {α : Type} {step : Step α} (quiet : Step.Within Quiet step)
    : Signing config (· = []) step := by
  intro t
  obtain ⟨nonces, refs, history⟩ := quiet t
  exact ⟨[], ⟨⟨_, history, handsOver_reads _ refs⟩, trivial, nonces, List.forall_mem_nil _⟩, rfl⟩

/-- A quiet step before signs nothing. -/
theorem Signing.after_quiet {α β : Type} {first : Step α} {next : α → Step β}
    {among : List (String × Transaction) → Prop} (none : among [])
    (quiet : Step.Within Quiet first) (later : ∀ value, Signing config among (next value))
    : Signing config among (first >>= next) := by
  refine (Signing.of_quiet quiet).bind later ?_ ?_
  · rintro _ more rfl good
    exact good
  · rintro _ rfl
    exact none

/-- A quiet step afterwards signs nothing. -/
theorem Signing.before_quiet {α β : Type} {first : Step α} {next : α → Step β}
    {among : List (String × Transaction) → Prop} (signs : Signing config among first)
    (quiet : ∀ value, Step.Within Quiet (next value))
    : Signing config among (first >>= next) := by
  refine signs.bind (fun value => .of_quiet (quiet value)) ?_ fun _ good => good
  rintro signed _ good rfl
  rw [List.append_nil]
  exact good

/-- A transaction that is made with its signer's next nonce and executed. -/
theorem executeNext_signing {key : String} {make : UInt64 → Transaction}
    (nonce : ∀ n, (make n).nonce = n) (makes : ∀ n, Makes config (make n))
    : Signing config (fun signed => signed.map (·.1) = [key])
        (nextNonce key >>= fun n => executeTransaction env key (make n)) := by
  intro t
  let tx := make (t.nonces.upcoming key)
  let numbered : Tester := { t with nonces := (t.nonces.next key).2 }
  have next : nextNonce key t = (.ok (t.nonces.upcoming key), numbered) := rfl
  rw [Step.bind_of_ok next]
  have signs {complete : Bool} {actions : List Action}
      (handed : HandsOver complete [(key, tx)] actions)
      : Signs config complete [(key, tx)] t (numbered.acted actions) :=
    { handed := ⟨actions, rfl, handed⟩
      numbered := ⟨nonce _, trivial⟩
      nonces := rfl
      made := List.forall_mem_singleton.mpr (makes _) }
  refine ⟨[(key, tx)], ?_, rfl⟩
  rcases (executeTransaction env key tx).fails_or_answers numbered with
    ⟨e, s, failed⟩ | ⟨_, s, sent⟩
  · rw [failed]
    rcases executeTransaction_error failed with rfl | ⟨rfl, -⟩
    · exact signs (.unsent key tx)
    · exact signs (.sent key tx .nothing)
  · rw [sent]
    obtain ⟨rfl, -⟩ := executeTransaction_ok sent
    exact signs (.sent key tx .nothing)

-----------------------------------------------------------------------------------------
-- Steps of a run
-----------------------------------------------------------------------------------------

theorem discoverPublicKey_quiet (key : String)
    : Step.Within Quiet (discoverPublicKey env config key) := by
  have listed : Step.Within Reads (accountAddresses env config) :=
    .bind Reads.trans (getValue_reads env config _) fun _ => .ofExcept Reads.refl _ _
  refine .bind Quiet.trans (fun t => .of_reads (listed t)) fun known => ?_
  exact .bind Quiet.trans (fun _ => .of_same rfl rfl) fun _ _ => .of_same rfl rfl

/-- An account that is seeded signs one transaction. -/
theorem seedAccount_signing (key : String) (balance : UInt64)
    : Signing config (fun signed => signed.map (·.1) = [key])
        (seedAccount env config key balance) := by
  have split : seedAccount env config key balance
      = (nextNonce key >>= fun n => executeTransaction env key (.balanceSet balance n))
          >>= fun _ => discoverPublicKey env config key :=
    (Step.bind_assoc _ _ _).symm
  have signs : Signing config (fun signed => signed.map (·.1) = [key])
      (nextNonce key >>= fun n => executeTransaction env key (.balanceSet balance n)) :=
    executeNext_signing (fun _ => rfl) fun _ => .inl ⟨balance, rfl⟩
  rw [split]
  exact signs.before_quiet fun _ => discoverPublicKey_quiet key

/-- The signers of a seeding are accounts, each at most once and in their order; by induction on the
accounts.
-/
theorem seedAccounts_signing (entries : List (String × UInt64))
    : Signing config (fun signed => (signed.map (·.1)).Sublist (entries.map (·.1)))
        (seedAccounts env config entries) := by
  induction entries with
  | nil =>
      have quiet : Step.Within Quiet (seedAccounts env config []) := fun _ => .of_same rfl rfl
      refine (Signing.of_quiet quiet).imp ?_
      rintro _ rfl
      exact .slnil
  | cons entry entries ih =>
      obtain ⟨key, balance⟩ := entry
      refine (seedAccount_signing key balance).bind (fun _ => ih) ?_ ?_
      · intro signed more first others
        rw [List.map_append, first]
        exact others.cons_cons key
      · intro signed first
        rw [first]
        exact .cons_cons key (List.nil_sublist _)

theorem settleTransfer_quiet (sender receiver : String)
    : Step.Within Quiet (settleTransfer env config sender receiver) := by
  refine .bind Quiet.trans (fun _ => .of_same rfl rfl) fun _ => ?_
  refine .bind Quiet.trans (fun t => .of_reads (checkBalance_reads env config _ t)) fun _ => ?_
  refine .bind Quiet.trans (fun t => .of_reads (checkBalance_reads env config _ t)) fun _ => ?_
  exact fun _ => .of_same rfl rfl

/-- A transfer signs at most one transaction. -/
theorem transferOnce_signing
    : Signing config (fun signed => signed.length ≤ 1) (transferOnce env config) := by
  have submits (sender receiver address : String)
      : Signing config (fun signed => signed.length ≤ 1)
          ((nextNonce sender >>= fun n =>
              executeTransaction env sender (.balanceTransfer address config.amount n))
            >>= fun _ => settleTransfer env config sender receiver) := by
    have signs : Signing config (fun signed => signed.map (·.1) = [sender])
        (nextNonce sender >>= fun n =>
          executeTransaction env sender (.balanceTransfer address config.amount n)) :=
      executeNext_signing (fun _ => rfl) fun _ => .inr ⟨address, rfl⟩
    refine (signs.imp fun signed same => ?_).before_quiet fun _ => settleTransfer_quiet _ _
    rw [← List.length_map (·.1), same]
    exact Nat.le_refl 1
  unfold transferOnce
  refine .after_quiet (Nat.zero_le 1) (fun _ => .of_same rfl rfl) fun (sender, receiver) => ?_
  refine .after_quiet (Nat.zero_le 1) (fun _ => .of_same rfl rfl) fun address => ?_
  have submit := submits sender receiver address
  rw [Step.bind_assoc] at submit
  exact submit

/-- Transfers sign at most one transaction each, by induction on their number. -/
theorem transfers_signing (count : Nat)
    : Signing config (fun signed => signed.length ≤ count) (transfers env config count) := by
  induction count with
  | zero =>
      have quiet : Step.Within Quiet (transfers env config 0) := fun _ => .of_same rfl rfl
      refine (Signing.of_quiet quiet).imp ?_
      rintro _ rfl
      exact Nat.le_refl 0
  | succ count ih =>
      refine transferOnce_signing.bind (fun _ => ih) ?_ fun _ few => by omega
      intro signed more one others
      rw [List.length_append]
      omega

theorem requireTwo_quiet : Step.Within Quiet requireTwo := by
  intro t
  unfold requireTwo
  split
  · exact .of_same rfl rfl
  · exact .of_same rfl rfl

/-- A run of some transfers is that of the accounts that it starts with. -/
theorem runFor_eq (count : Nat) (t : Tester)
    : runFor env config count t
      = (requireTwo >>= fun _ => seedAccounts env config t.ledger.balances.entries >>= fun _ =>
          transfers env config count) t := by
  by_cases few : t.ledger.count < 2
  · have refused : requireTwo t = (.error (.selection (.tooFewAccounts t.ledger.count)), t) :=
      if_pos few
    unfold runFor
    rw [Step.bind_of_error refused, Step.bind_of_error refused]
  · have checked : requireTwo t = (.ok (), t) := if_neg few
    unfold runFor
    rw [Step.bind_of_ok checked, Step.bind_of_ok checked]
    exact Step.bind_congr rfl _

/-- In a run every account signs at most one transaction to be seeded and one for each transfer. -/
theorem runFor_signing (count : Nat)
    : Signing config (fun signed => ∀ key, (signedBy key signed).length ≤ count + 1)
        (runFor env config count) := by
  intro t
  rw [runFor_eq]
  have distinct : (t.ledger.balances.entries.map (·.1)).Nodup := t.ledger.balances.keys_nodup
  have seeding : Signing config (fun signed => ∀ key, (signedBy key signed).length ≤ 1)
      (seedAccounts env config t.ledger.balances.entries) := by
    refine (seedAccounts_signing _).imp fun signed accounts key => ?_
    rw [length_signedBy]
    exact Nat.le_trans (accounts.count_le key) (List.nodup_iff_count.mp distinct key)
  have all : Signing config (fun signed => ∀ key, (signedBy key signed).length ≤ count + 1)
      (seedAccounts env config t.ledger.balances.entries >>= fun _ =>
        transfers env config count) := by
    refine seeding.bind (fun _ => transfers_signing count) ?_ ?_
    · intro signed more once few key
      have one := once key
      rw [length_signedBy] at one ⊢
      have others : (more.map (·.1)).count key ≤ (more.map (·.1)).length := List.count_le_length
      rw [List.length_map] at others
      rw [List.map_append, List.count_append]
      omega
    · exact fun signed once key => Nat.le_trans (once key) (Nat.le_add_left 1 count)
  exact Signing.after_quiet (fun _ => Nat.zero_le _) requireTwo_quiet (fun _ => all) t

/-- The number of transfers that a run makes if nothing fails. -/
def planned (config : TesterConfig) (patience : Nat) : Nat :=
  match config.iterations with
  | some count => count.toNat
  | none => patience

theorem planned_lt (config : TesterConfig) {patience : Nat} (patient : patience < UInt64.size)
    : planned config patience < UInt64.size := by
  unfold planned
  split
  · exact UInt64.toNat_lt_size _
  · exact patient

theorem run_signing (env : Environment) (config : TesterConfig) (patience : Nat)
    : Signing config
        (fun signed => ∀ key, (signedBy key signed).length ≤ planned config patience + 1)
        (run env config patience) := by
  unfold run planned
  cases config.iterations with
  | some count =>
      refine (runFor_signing count.toNat).before_quiet fun _ => ?_
      exact fun _ => .of_same rfl rfl
  | none =>
      refine (runFor_signing patience).before_quiet fun _ => ?_
      exact fun _ => .of_same rfl rfl

/-- A transfer of the configured amount. -/
def IsTransfer (config : TesterConfig) (tx : Transaction) : Prop :=
  ∃ address nonce, tx = .balanceTransfer address config.amount nonce

/-- Transfers with different nonces have different refs, whoever receives them. -/
theorem pairwise_ref_ne {txs : List Transaction} (distinct : (txs.map (·.nonce.toNat)).Nodup)
    : txs.Pairwise fun tx later =>
        IsTransfer config tx → IsTransfer config later → tx.ref ≠ later.ref := by
  refine (List.pairwise_map.mp distinct).imp ?_
  rintro _ _ different ⟨address, nonce, rfl⟩ ⟨other, next, rfl⟩ same
  exact different (congrArg UInt64.toNat (Transaction.transferRef_injective same).2)

/-- Nonces without gaps. A signer is handed the number of its earlier nonces, whoever else signs. A
run, however it ends, hands over transactions, of which each signer's carry the nonces from zero on,
one after the other, and any two transfers of one signer have different refs; for a transfer's ref
tells its receiver and its nonce. Without a number of iterations a run is watched for fewer
transfers than there are nonces.
-/
theorem nonces_gapless
    : (∀ (earlier : List String) (key : String), earlier.count key < UInt64.size →
        ((NonceBook.empty.after earlier).next key).1.toNat = earlier.count key)
      ∧ (∀ env config l words patience, patience < UInt64.size →
          ∃ signed,
            HandsOver (run env config patience (.start l words)).1.isOk signed
              (run env config patience (.start l words)).2.history
            ∧ (∀ s ∈ signed, Makes config s.2)
            ∧ ∀ key,
                (signedBy key signed).map (·.nonce.toNat)
                  = List.range (signedBy key signed).length
                ∧ (signedBy key signed).Pairwise fun tx later =>
                    IsTransfer config tx → IsTransfer config later → tx.ref ≠ later.ref)
      ∧ ∀ receiver other nonce next,
          Transaction.transferRef receiver nonce = Transaction.transferRef other next →
          receiver = other ∧ nonce = next := by
  refine ⟨fun _ _ fewer => NonceBook.next_after fewer, ?_,
    fun _ _ _ _ same => Transaction.transferRef_injective same⟩
  intro env config l words patience patient
  obtain ⟨signed, signs, few⟩ := run_signing env config patience (.start l words)
  obtain ⟨actions, history, handed⟩ := signs.handed
  rw [history]
  refine ⟨signed, handed, signs.made, fun key => ?_⟩
  have room : 0 + (signedBy key signed).length ≤ UInt64.size := by
    have bound := few key
    have plan := planned_lt config patient
    omega
  have nonces : (signedBy key signed).map (·.nonce.toNat)
      = List.range (signedBy key signed).length := by
    rw [List.range_eq_range']
    exact signs.numbered.nonces rfl room
  exact ⟨nonces, pairwise_ref_ne (nonces ▸ List.nodup_range)⟩

/-- Two transfers of an honest run; and a slash in an address does not make refs alike. -/
theorem nonces_gapless_twoTransfers
    : ((NonceBook.empty.after ["a", "b", "a"]).next "a").1.toNat = 2
      ∧ (∃ signed,
          HandsOver
            (run Node.prefixed.environment Node.twoTransfers 0
              (.start Node.twoAccounts ⟨[], 0⟩)).1.isOk
            signed
            (run Node.prefixed.environment Node.twoTransfers 0
              (.start Node.twoAccounts ⟨[], 0⟩)).2.history
          ∧ (signedBy "alice" signed).map (·.nonce.toNat)
            = List.range (signedBy "alice" signed).length)
      ∧ Transaction.transferRef "b/1" 2 ≠ Transaction.transferRef "b" 12 := by
  obtain ⟨signed, handed, -, numbered⟩ := nonces_gapless.2.1 Node.prefixed.environment
    Node.twoTransfers Node.twoAccounts ⟨[], 0⟩ 0 (by decide)
  refine ⟨nonces_gapless.1 ["a", "b", "a"] "a" (by decide), ⟨signed, handed, (numbered "alice").1⟩,
    fun same => ?_⟩
  exact absurd (nonces_gapless.2.2 "b/1" "b" 2 12 same).2 (by decide)

end Tester

end NodeTrial
