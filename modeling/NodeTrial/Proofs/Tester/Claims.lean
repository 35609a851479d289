import NodeTrial.Proofs.KeyBook
import NodeTrial.Proofs.Node.Simulation
import NodeTrial.Proofs.Tester.Kept
import NodeTrial.Proofs.Tester.Seeding

/-! The key book of a tester. Whatever is called of a tester and however it ends, its key book
changes by claims alone, and after the accounts have been seeded every account has a public key.
-/

namespace NodeTrial

namespace Tester

/-- What can be asked of a tester from outside. -/
inductive Call where
  | execute (key : String) (tx : Transaction)
  | seed
  | transfer
  | check (key : String)
  | run (patience : Nat)

variable (env : Environment) (config : TesterConfig)

/-- The state that a call leaves behind, however it ends. -/
def Call.leave : Call → Tester → Tester
  | .execute key tx, t => (executeTransaction env key tx t).2
  | .seed, t => (setInitialBalances env config t).2
  | .transfer, t => (transferOnce env config t).2
  | .check key, t => (checkBalance env config key t).2
  | .run patience, t => (Tester.run env config patience t).2

/-- The state after calls in a row. -/
def afterCalls (calls : List Call) (t : Tester) : Tester :=
  calls.foldl (fun t call => call.leave env config t) t

theorem afterCalls_append (calls more : List Call) (t : Tester)
    : afterCalls env config (calls ++ more) t
      = afterCalls env config more (afterCalls env config calls t) :=
  List.foldl_append

-----------------------------------------------------------------------------------------
-- Steps
-----------------------------------------------------------------------------------------

/-- A state's key book comes from that of an earlier state by claims. -/
def Claims (t u : Tester) : Prop :=
  ∃ claims, u.keys = t.keys.after claims

variable {env config} {t u : Tester}

theorem Claims.of_keys (same : u.keys = t.keys) : Claims t u :=
  ⟨[], same⟩

theorem Claims.trans {s : Tester} (h : Claims t s) (k : Claims s u) : Claims t u := by
  obtain ⟨claims, first⟩ := h
  obtain ⟨more, second⟩ := k
  exact ⟨claims ++ more, by rw [second, first, KeyBook.after_append]⟩

theorem claims_kept : Kept config Claims where
  refl _ := .of_keys rfl
  trans := Claims.trans
  acts _ _ := .of_keys rfl
  numbers _ _ := .of_keys rfl
  draws _ _ := .of_keys rfl
  books _ _ _ := .of_keys rfl

theorem claims_keptByClaims : KeptByClaims Claims :=
  fun _ key known => ⟨[(key, known)], rfl⟩

-----------------------------------------------------------------------------------------
-- Calls
-----------------------------------------------------------------------------------------

section Calls

variable {related : Tester → Tester → Prop}
variable (kept : Kept config related)

include kept

section Discovering

variable (discovers : KeptByDiscovery env config related)

include discovers

/-- A call keeps what every step keeps. -/
theorem Call.leave_kept (call : Call) (t : Tester) : related t (call.leave env config t) := by
  cases call with
  | execute key tx => exact kept.executeTransaction key tx t
  | seed => exact kept.setInitialBalances discovers t
  | transfer => exact kept.transferOnce t
  | check key => exact kept.checkBalance key t
  | run patience => exact kept.run discovers patience t

/-- Calls in a row keep it too, by induction on the calls. -/
theorem afterCalls_discovering (calls : List Call)
    : ∀ (t : Tester), related t (afterCalls env config calls t) := by
  induction calls with
  | nil => exact kept.refl
  | cons call calls ih =>
      exact fun t => kept.trans (call.leave_kept kept discovers t) (ih (call.leave env config t))

end Discovering

/-- Whatever the server is, calls in a row keep what claims of public keys keep. -/
theorem afterCalls_kept (claims : KeptByClaims related) (calls : List Call) (t : Tester)
    : related t (afterCalls env config calls t) :=
  afterCalls_discovering kept (kept.keptByDiscovery claims) calls t

end Calls

/-- Calls in a row change the key book by claims alone. -/
theorem afterCalls_claims (env : Environment) (config : TesterConfig) (calls : List Call)
    (t : Tester)
    : Claims t (afterCalls env config calls t) :=
  afterCalls_kept claims_kept claims_keptByClaims calls t

/-- Every account that was seeded has a public key, by induction on the accounts: each claims one
and claims of others do not take it away. The ledger is as it was.
-/
theorem seedAccounts_known {entries : List (String × UInt64)}
    : ∀ {t : Tester}, seedAccounts env config entries t = (.ok (), u) →
        u.ledger = t.ledger ∧ ∀ entry ∈ entries, ∃ p, u.keys.publicKey? entry.1 = some p := by
  induction entries with
  | nil =>
      intro t h
      obtain rfl : t = u := congrArg Prod.snd h
      exact ⟨rfl, List.forall_mem_nil _⟩
  | cons entry entries ih =>
      intro t h
      obtain ⟨_, s, first, later⟩ := Step.bind_eq_ok h
      obtain ⟨addresses, address, rfl, -, -, claimed⟩ := seedAccount_ok first
      obtain ⟨claims, kept⟩ : Claims (t.seeded entry.1 entry.2 addresses)
          (seedAccounts env config entries (t.seeded entry.1 entry.2 addresses)).2 :=
        claims_kept.seedAccounts (claims_kept.keptByDiscovery claims_keptByClaims) entries _
      rw [later] at kept
      obtain ⟨ledger, others⟩ := ih later
      refine ⟨ledger, List.forall_mem_cons.mpr ⟨⟨address, ?_⟩, others⟩⟩
      rw [kept]
      exact KeyBook.after_extends claims _ _ _ (KeyBook.publicKey?_claim claimed)

/-- After the accounts have been seeded each of them has a public key. -/
theorem setInitialBalances_known (h : setInitialBalances env config t = (.ok (), u)) {key : String}
    (account : key ∈ u.ledger.keys)
    : ∃ p, u.keys.publicKey? key = some p := by
  obtain ⟨ledger, known⟩ := seedAccounts_known h
  rw [ledger] at account
  obtain ⟨entry, member, rfl⟩ := List.mem_map.mp account
  exact known entry member

/-- Key books after claims and after calls. After any claims the book keeps its promises, and
further claims take no public key away. After any calls of a fresh tester, with any surroundings,
its book is one after claims, and further calls take no public key away. Seeding that ends well
leaves every account with a public key.
-/
theorem keys_lawful
    : (∀ claims,
        (KeyBook.empty.after claims).Lawful
        ∧ ∀ more, (KeyBook.empty.after claims).Extends (KeyBook.empty.after (claims ++ more)))
      ∧ (∀ env config l words calls,
          (afterCalls env config calls (.start l words)).keys.Lawful
          ∧ (∃ claims,
              (afterCalls env config calls (.start l words)).keys = KeyBook.empty.after claims)
          ∧ ∀ more,
              (afterCalls env config calls (.start l words)).keys.Extends
                (afterCalls env config (calls ++ more) (.start l words)).keys)
      ∧ ∀ env config t u, setInitialBalances env config t = (.ok (), u) →
          ∀ key ∈ u.ledger.keys, ∃ p, u.keys.publicKey? key = some p := by
  have lawful (claims : List (String × List String)) : (KeyBook.empty.after claims).Lawful :=
    (KeyBook.injective_empty.after claims).lawful
  refine ⟨fun claims => ⟨lawful claims, fun more => ?_⟩,
    fun env config l words calls => ?_,
    fun env config t u seeded key account => setInitialBalances_known seeded account⟩
  · rw [KeyBook.after_append]
    exact KeyBook.after_extends more _
  · obtain ⟨claims, keys⟩ := afterCalls_claims env config calls (.start l words)
    refine ⟨keys ▸ lawful claims, ⟨claims, keys⟩, fun more => ?_⟩
    obtain ⟨further, later⟩ := afterCalls_claims env config more
      (afterCalls env config calls (.start l words))
    rw [afterCalls_append, later]
    exact KeyBook.after_extends further _

/-- Two accounts seeded at an honest node: both have public keys. -/
theorem keys_lawful_twoAccounts
    : ∃ u, setInitialBalances Node.prefixed.environment Node.twoTransfers
          (.start Node.twoAccounts ⟨[], 0⟩)
        = (.ok (), u)
      ∧ ∃ p, u.keys.publicKey? "bob" = some p := by
  obtain ⟨u, seeded, -⟩ := Node.setInitialBalances_mirrors Node.prefixed.environment_honest
    Node.twoAccounts_wellAddressed (by decide : Node.twoTransfers.server.isBase) ⟨[], 0⟩
  have account : "bob" ∈ u.ledger.keys := by
    rw [(setInitialBalances_ok seeded).1]
    decide +kernel
  exact ⟨u, seeded, keys_lawful.2.2 _ _ _ u seeded "bob" account⟩

end Tester

end NodeTrial
