import NodeTrial.Proofs.Tester.Steps

/-! What every step keeps. A step changes a tester in few ways: it acts, hands out a nonce, draws
words, books a transfer or claims a public key. A relation between an earlier and a later state that
is kept by each of these changes is kept by all steps made of them, however they end.
-/

namespace NodeTrial.Tester

/-- A relation between an earlier and a later state that every change keeps but a claim. -/
structure Kept (config : TesterConfig) (related : Tester → Tester → Prop) : Prop where
  refl : ∀ t, related t t
  trans : ∀ {t s u}, related t s → related s u → related t u
  acts : ∀ t actions, related t (t.acted actions)
  numbers : ∀ (t : Tester) key, related t { t with nonces := (t.nonces.next key).2 }
  draws : ∀ (t : Tester) words, related t { t with words }
  books
    : ∀ (t : Tester) sender receiver,
        related t { t with ledger := (t.ledger.transfer sender receiver config.amount).2 }

/-- A relation that claims of public keys keep. -/
def KeptByClaims (related : Tester → Tester → Prop) : Prop :=
  ∀ (t : Tester) key known, related t { t with keys := (t.keys.claim key known).2 }

/-- A relation that the discovery of public keys keeps, at a given server. -/
def KeptByDiscovery (env : Environment) (config : TesterConfig)
    (related : Tester → Tester → Prop)
    : Prop :=
  ∀ key, Step.Within related (discoverPublicKey env config key)

namespace Kept

variable {env : Environment} {config : TesterConfig} {related : Tester → Tester → Prop}
variable (kept : Kept config related)

include kept

theorem of_reads {t u : Tester} (h : Reads t u) : related t u := by
  obtain ⟨refs, rfl⟩ := h
  exact kept.acts t _

theorem of_unchanged {α : Type} {step : Step α} (same : ∀ t, (step t).2 = t)
    : Step.Within related step := by
  intro t
  rw [same]
  exact kept.refl t

theorem executeTransaction (key : String) (tx : Transaction)
    : Step.Within related (executeTransaction env key tx) := by
  rw [executeTransaction_eq]
  refine .bind kept.trans (fun t => kept.acts t _) fun _ => ?_
  exact .bind kept.trans (fun t => kept.acts t _) fun _ => kept.of_unchanged fun _ => rfl

theorem checkBalance (key : String) : Step.Within related (checkBalance env config key) :=
  fun t => kept.of_reads (checkBalance_reads env config key t)

theorem transferOnce : Step.Within related (transferOnce env config) := by
  refine .bind kept.trans (fun t => kept.draws t _) fun (sender, receiver) => ?_
  refine .bind kept.trans (kept.of_unchanged fun _ => rfl) fun address => ?_
  refine .bind kept.trans (fun t => kept.numbers t sender) fun nonce => ?_
  refine .bind kept.trans (kept.executeTransaction sender _) fun _ => ?_
  refine .bind kept.trans (fun t => kept.books t sender receiver) fun _ => ?_
  refine .bind kept.trans (kept.checkBalance sender) fun _ => ?_
  refine .bind kept.trans (kept.checkBalance receiver) fun _ => ?_
  exact kept.of_unchanged fun _ => rfl

/-- Transfers keep what one of them keeps, by induction on their number. -/
theorem transfers (count : Nat) : Step.Within related (transfers env config count) := by
  induction count with
  | zero => exact kept.of_unchanged fun _ => rfl
  | succ count ih => exact .bind kept.trans kept.transferOnce fun _ => ih

theorem requireTwo : Step.Within related requireTwo := by
  refine kept.of_unchanged fun t => ?_
  unfold Tester.requireTwo
  split
  · rfl
  · rfl

/-- Discovery reads the server and then claims, so it keeps what claims keep. -/
theorem keptByDiscovery (claims : KeptByClaims related) : KeptByDiscovery env config related := by
  intro key
  have listed : Step.Within Reads (accountAddresses env config) :=
    .bind Reads.trans (getValue_reads env config _) fun _ => .ofExcept Reads.refl _ _
  refine .bind kept.trans (fun t => kept.of_reads (listed t)) fun known => ?_
  exact .bind kept.trans (fun t => claims t key known) fun _ => kept.of_unchanged fun _ => rfl

variable (discovers : KeptByDiscovery env config related)

include discovers

theorem seedAccount (key : String) (balance : UInt64)
    : Step.Within related (seedAccount env config key balance) := by
  refine .bind kept.trans (fun t => kept.numbers t key) fun nonce => ?_
  refine .bind kept.trans (kept.executeTransaction key _) fun _ => ?_
  exact discovers key

/-- Seeding keeps what seeding one account keeps, by induction on the accounts. -/
theorem seedAccounts (entries : List (String × UInt64))
    : Step.Within related (seedAccounts env config entries) := by
  induction entries with
  | nil => exact kept.of_unchanged fun _ => rfl
  | cons entry entries ih =>
      exact .bind kept.trans (kept.seedAccount discovers entry.1 entry.2) fun _ => ih

theorem setInitialBalances : Step.Within related (setInitialBalances env config) :=
  fun t => kept.seedAccounts discovers t.ledger.balances.entries t

theorem runFor (count : Nat) : Step.Within related (runFor env config count) := by
  refine .bind kept.trans kept.requireTwo fun _ => ?_
  exact .bind kept.trans (kept.setInitialBalances discovers) fun _ => kept.transfers count

theorem run (patience : Nat) : Step.Within related (run env config patience) := by
  unfold Tester.run
  split
  · exact .bind kept.trans (kept.runFor discovers _) fun _ => kept.of_unchanged fun _ => rfl
  · exact .bind kept.trans (kept.runFor discovers _) fun _ => kept.of_unchanged fun _ => rfl

end Kept

/-- Only a claim changes the key book. -/
theorem keys_kept {config : TesterConfig} : Kept config fun t u => u.keys = t.keys where
  refl _ := rfl
  trans first second := second.trans first
  acts _ _ := rfl
  numbers _ _ := rfl
  draws _ _ := rfl
  books _ _ _ := rfl

end NodeTrial.Tester
