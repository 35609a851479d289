import NodeTrial.Proofs.NonceBook
import NodeTrial.Proofs.Tester.Steps

/-! Seeding: one account at a time is given its balance through the executor, and then its public
key is looked for among the addresses that the server lists. Each account takes three actions, and
as no account comes twice every one of them is seeded with the nonce zero.
-/

namespace NodeTrial

namespace Tester

variable {env : Environment} {config : TesterConfig} {t u : Tester}

/-- The server lists addresses when it is asked for all accounts after a history of actions. -/
def Lists (env : Environment) (past : List Action) (addresses : List String) : Prop :=
  ∃ result, Answers env past accountsRef result ∧ addressesOf result = .ok addresses

theorem accountAddresses_ok {addresses : List String}
    (h : accountAddresses env config t = (.ok addresses, u))
    : u = t.acted [.fetch accountsRef] ∧ Lists env t.history addresses := by
  obtain ⟨result, s, read, later⟩ := Step.bind_eq_ok h
  obtain ⟨rfl, answered⟩ := getValue_ok read
  obtain ⟨listed, rfl⟩ := Prod.mk.inj later
  exact ⟨rfl, result, answered, mapError_eq_ok.mp listed⟩

theorem accountAddresses_of_lists {addresses : List String} (base : config.server.isBase)
    (h : Lists env t.history addresses)
    : accountAddresses env config t = (.ok addresses, t.acted [.fetch accountsRef]) := by
  obtain ⟨result, answered, listed⟩ := h
  unfold accountAddresses
  rw [Step.bind_of_ok (getValue_of_answers base answered)]
  exact ofExcept_of_ok listed

/-- The three actions that seed an account with a nonce. -/
def seedActions (key : String) (balance nonce : UInt64) : List Action :=
  [.write (Transaction.balanceSet balance nonce).fileText, .execute key, .fetch accountsRef]

/-- The state after an account was seeded and the server listed addresses. -/
def seeded (t : Tester) (key : String) (balance : UInt64) (addresses : List String) : Tester where
  ledger := t.ledger
  nonces := (t.nonces.next key).2
  keys := (t.keys.claim key addresses).2
  words := t.words
  history := t.history ++ seedActions key balance (t.nonces.upcoming key)

def seedPast (t : Tester) (key : String) (balance : UInt64) : List Action :=
  t.history
    ++ [.write (Transaction.balanceSet balance (t.nonces.upcoming key)).fileText, .execute key]

/-- An account that was seeded: the executor has run, the server has listed addresses and the
private key has claimed one of them.
-/
theorem seedAccount_ok {key : String} {balance : UInt64}
    (h : seedAccount env config key balance t = (.ok (), u))
    : ∃ addresses address,
        u = t.seeded key balance addresses
        ∧ Executes env t.history key
            (Transaction.balanceSet balance (t.nonces.upcoming key)).fileText
        ∧ Lists env (t.seedPast key balance) addresses
        ∧ (t.keys.claim key addresses).1 = .ok address := by
  obtain ⟨nonce, s, numbered, later⟩ := Step.bind_eq_ok h
  obtain ⟨same, rfl⟩ := Prod.mk.inj numbered
  obtain rfl := Except.ok.inj same
  obtain ⟨_, s, executed, later⟩ := Step.bind_eq_ok later
  obtain ⟨rfl, executes⟩ := executeTransaction_ok executed
  obtain ⟨addresses, s, listed, later⟩ := Step.bind_eq_ok later
  obtain ⟨rfl, lists⟩ := accountAddresses_ok listed
  obtain ⟨address, s, claimed, ended⟩ := Step.bind_eq_ok later
  obtain ⟨claim, rfl⟩ := Prod.mk.inj claimed
  refine ⟨addresses, address, ?_, executes, lists, mapError_eq_ok.mp claim⟩
  rw [← (Prod.mk.inj ended).2]
  simp [seeded, seedActions, acted]

theorem seedAccount_of_lists {key address : String} {balance : UInt64} {addresses : List String}
    (base : config.server.isBase)
    (executes
      : Executes env t.history key
          (Transaction.balanceSet balance (t.nonces.upcoming key)).fileText)
    (lists : Lists env (t.seedPast key balance) addresses)
    (claim : (t.keys.claim key addresses).1 = .ok address)
    : seedAccount env config key balance t = (.ok (), t.seeded key balance addresses) := by
  let numbered : Tester := { t with nonces := (t.nonces.next key).2 }
  let tx := Transaction.balanceSet balance (t.nonces.upcoming key)
  let sent : Tester := numbered.acted [.write tx.fileText, .execute key]
  have executed : executeTransaction env key tx numbered = (.ok (), sent) :=
    executeTransaction_of_executes (t := numbered) executes
  have listed : accountAddresses env config sent
      = (.ok addresses, sent.acted [.fetch accountsRef]) :=
    accountAddresses_of_lists (t := sent) base lists
  have claimed : claimKey key addresses (sent.acted [.fetch accountsRef])
      = (.ok address, t.seeded key balance addresses) := by
    have found : (sent.acted [.fetch accountsRef]).keys = t.keys := rfl
    simp only [claimKey, found, claim, mapError_ok, Prod.mk.injEq, true_and]
    simp [seeded, seedActions, acted, sent, numbered, tx]
  unfold seedAccount
  refine (Step.bind_of_ok (rfl : nextNonce key t = (.ok _, numbered))).trans ?_
  rw [Step.bind_of_ok executed]
  unfold discoverPublicKey
  rw [Step.bind_of_ok listed, Step.bind_of_ok claimed]
  rfl

/-- The seeding of an account leaves the first nonces of the others unused. -/
theorem fresh_seeded {key : String} {entries : List (String × UInt64)}
    (apart : key ∉ entries.map (·.1)) (fresh : ∀ other ∈ entries, t.nonces.upcoming other.1 = 0)
    (balance : UInt64) (addresses : List String)
    : ∀ other ∈ entries, (t.seeded key balance addresses).nonces.upcoming other.1 = 0 := by
  intro other member
  have different : key ≠ other.1 := by
    intro same
    exact apart (List.mem_map.mpr ⟨other, member, same.symm⟩)
  exact (NonceBook.upcoming_next_of_ne different).trans (fresh other member)

/-- Accounts that were seeded took three actions each, with the nonce zero, and nothing else has
changed; by induction on the accounts, of which none comes twice.
-/
theorem seedAccounts_ok {entries : List (String × UInt64)} (distinct : (entries.map (·.1)).Nodup)
    (fresh : ∀ entry ∈ entries, t.nonces.upcoming entry.1 = 0)
    (h : seedAccounts env config entries t = (.ok (), u))
    : u.ledger = t.ledger
      ∧ u.history
        = t.history ++ entries.flatMap fun (key, balance) => seedActions key balance 0 := by
  induction entries generalizing t with
  | nil =>
      obtain rfl : t = u := congrArg Prod.snd h
      simp
  | cons entry rest ih =>
      obtain ⟨key, balance⟩ := entry
      obtain ⟨_, s, first, later⟩ := Step.bind_eq_ok h
      obtain ⟨addresses, _, rfl, _⟩ := seedAccount_ok first
      obtain ⟨apart, distinct⟩ := List.nodup_cons.mp distinct
      have unused : t.nonces.upcoming key = 0 := fresh (key, balance) List.mem_cons_self
      have still := fresh_seeded apart (List.forall_mem_cons.mp fresh).2 balance addresses
      obtain ⟨ledger, history⟩ := ih distinct still later
      refine ⟨ledger, history.trans ?_⟩
      simp [seeded, unused]

/-- The actions that seed all accounts of a ledger. -/
def seedingOf (l : Ledger) : List Action :=
  l.balances.entries.flatMap fun (key, balance) => seedActions key balance 0

/-- After a fresh tester has seeded its accounts, they have been seeded in the order of their keys
and the ledger is still the one that it started with.
-/
theorem setInitialBalances_ok {l : Ledger} {words : Words}
    (h : setInitialBalances env config (.start l words) = (.ok (), u))
    : u.ledger = l ∧ u.history = seedingOf l := by
  have distinct : (l.balances.entries.map (·.1)).Nodup := l.balances.keys_nodup
  obtain ⟨ledger, history⟩ := seedAccounts_ok distinct (fun entry _ => rfl) h
  exact ⟨ledger, history.trans (List.nil_append _)⟩

theorem runFor_ok {count : Nat} (h : runFor env config count t = (.ok (), u))
    : 2 ≤ t.ledger.count
      ∧ ∃ s, setInitialBalances env config t = (.ok (), s)
          ∧ transfers env config count s = (.ok (), u) := by
  obtain ⟨_, s, checked, later⟩ := Step.bind_eq_ok h
  obtain ⟨_, r, seeding, last⟩ := Step.bind_eq_ok later
  unfold requireTwo at checked
  split at checked
  · cases checked
  · next two =>
    obtain rfl : t = s := congrArg Prod.snd checked
    exact ⟨Nat.not_lt.mp two, r, seeding, last⟩

/-- A run with a number of iterations is one of that many transfers. -/
theorem run_ok {count : UInt64} {patience : Nat} {ending : RunEnd}
    (limit : config.iterations = some count)
    (h : run env config patience t = (.ok ending, u))
    : ending = .finished ∧ runFor env config count.toNat t = (.ok (), u) := by
  unfold run at h
  rw [limit] at h
  obtain ⟨_, s, done, ended⟩ := Step.bind_eq_ok h
  obtain ⟨same, rfl⟩ := Prod.mk.inj ended
  exact ⟨(Except.ok.inj same).symm, done⟩

end Tester

end NodeTrial
