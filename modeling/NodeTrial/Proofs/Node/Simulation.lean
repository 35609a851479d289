import NodeTrial.Proofs.KeyBook
import NodeTrial.Proofs.Node.Honest
import NodeTrial.Proofs.Tester.Transfers

/-! A run against an honest node. What the tester keeps and what the node replays from its journal
mirror each other: the address of every seeded key is known, and at that address stands the balance
that the ledger has. Seeding an account and making a transfer both preserve this, so no check ever
fails.
-/

namespace NodeTrial.Node

open Tester (Answers Lists Reports Executes)

variable {node : Node} {env : Environment} {config : TesterConfig} {keys : List String}
variable {t : Tester}

/-- The state of a tester mirrors the balances of a node for the keys seeded so far. -/
structure Mirrors (node : Node) (seeded : List String) (t : Tester) : Prop where
  known
    : ∀ key address,
        t.keys.publicKey? key = some address ↔ key ∈ seeded ∧ address = node.address key
  exactly
    : ∀ key ∈ seeded, (node.balancesAfter t.history).get? (node.address key) = t.ledger.exact key
  only
    : ∀ address ∈ (node.balancesAfter t.history).keys, ∃ key ∈ seeded, address = node.address key

namespace Mirrors

variable {seeded : List String}

theorem start (node : Node) (l : Ledger) (words : Words) : Mirrors node [] (.start l words) := by
  refine { known := ?_, exactly := ?_, only := ?_ }
  · intro key address
    constructor
    · intro found
      cases found
    · rintro ⟨member, _⟩
      exact absurd member List.not_mem_nil
  · exact fun key member => absurd member List.not_mem_nil
  · exact fun address member => absurd member List.not_mem_nil

theorem fetched (h : Mirrors node seeded t) (ref : String)
    : Mirrors node seeded (t.acted [.fetch ref]) := by
  have same := node.balancesAfter_fetch t.history ref
  refine { known := h.known, exactly := ?_, only := ?_ }
  · intro key member
    rw [Tester.acted_history, same]
    exact h.exactly key member
  · intro address member
    rw [Tester.acted_history, same] at member
    exact h.only address member

theorem of_same (h : Mirrors node seeded t) (same : ∀ key, key ∈ seeded ↔ key ∈ keys)
    : Mirrors node keys t := by
  refine { known := ?_, exactly := ?_, only := ?_ }
  · intro key address
    rw [h.known, same]
  · exact fun key member => h.exactly key ((same key).mpr member)
  · intro address member
    obtain ⟨key, among, isTheirs⟩ := h.only address member
    exact ⟨key, (same key).mp among, isTheirs⟩

/-- The balance that the ledger has for a seeded key is the one that an honest node reports. -/
theorem reports (h : Mirrors node seeded t) (honest : node.Honest env) {key : String}
    (member : key ∈ seeded) (noSlash : NoSlash (node.address key)) {w : UInt64}
    (held : t.ledger.balance? key = some w)
    : Reports env t.history (node.address key) w := by
  have there := (h.exactly key member).trans (Ledger.exact_of_balance? held)
  exact honest.reports noSlash there

end Mirrors

-----------------------------------------------------------------------------------------
-- Seeding
-----------------------------------------------------------------------------------------

section OneAccount

variable {seeded addresses : List String} {key : String} {balance : UInt64}
variable (addressed : node.WellAddressed keys) (mirrors : Mirrors node seeded t)
variable (inside : ∀ other ∈ seeded, other ∈ keys) (member : key ∈ keys) (fresh : key ∉ seeded)

include addressed inside member fresh

/-- A key that comes new has another address than all keys before it. -/
theorem address_ne_of_fresh : ∀ other ∈ seeded, node.address key ≠ node.address other := by
  intro other among same
  have equal := addressed.distinct key member other (inside other among) same
  exact fresh (equal ▸ among)

omit inside fresh in
theorem get?_balancesAfter_seedPast (t : Tester) (balance : UInt64) (address : String)
    : (node.balancesAfter (t.seedPast key balance)).get? address
      = if node.address key = address then some (balance.toNat : Int)
        else (node.balancesAfter t.history).get? address :=
  get?_balancesAfter_balanceSet node (addressed.noSlash key member) t.history balance _ address

include mirrors

/-- Of all addresses that have a balance while a key is seeded, its own alone is not claimed. -/
theorem mem_unclaimed_of_seedPast
    (same
      : ∀ address,
          address ∈ addresses ↔ address ∈ (node.balancesAfter (t.seedPast key balance)).keys)
    (address : String)
    : address ∈ t.keys.unclaimed addresses ↔ address = node.address key := by
  have apart := address_ne_of_fresh addressed inside member fresh
  rw [KeyBook.mem_unclaimed_iff, same, Table.mem_keys_iff]
  simp only [get?_balancesAfter_seedPast addressed member]
  constructor
  · rintro ⟨⟨value, found⟩, free⟩
    split at found
    · next isOurs => exact isOurs.symm
    · have old := Table.mem_keys_iff.mpr ⟨value, found⟩
      obtain ⟨other, among, rfl⟩ := mirrors.only address old
      exact absurd ((mirrors.known other _).mpr ⟨among, rfl⟩) (free other)
  · rintro rfl
    refine ⟨⟨_, if_pos rfl⟩, fun other claimed => ?_⟩
    obtain ⟨among, isTheirs⟩ := (mirrors.known other _).mp claimed
    exact apart other among isTheirs

/-- A key that has claimed its own address joins the mirrored ones. -/
theorem Mirrors.claimed (held : t.ledger.balance? key = some balance)
    (book
      : (t.keys.claim key addresses).2 = ⟨t.keys.publicKeys.insert key (node.address key)⟩)
    : Mirrors node (key :: seeded) (t.seeded key balance addresses) := by
  have apart := address_ne_of_fresh addressed inside member fresh
  have after : node.balancesAfter (t.seeded key balance addresses).history
      = node.balancesAfter (t.seedPast key balance) := by
    have history : (t.seeded key balance addresses).history
        = t.seedPast key balance ++ [.fetch accountsRef] := by
      simp [Tester.seeded, Tester.seedActions, Tester.seedPast]
    rw [history, balancesAfter_fetch]
  have balances := get?_balancesAfter_seedPast addressed member t balance
  refine { known := ?_, exactly := ?_, only := ?_ }
  · intro other address
    have before := mirrors.known other address
    rw [KeyBook.publicKey?] at before
    rw [Tester.seeded, book, KeyBook.publicKey?, Table.get?_insert]
    split
    · next isOurs =>
      subst isOurs
      simp [eq_comm]
    · next isOther =>
      rw [before, List.mem_cons]
      simp [Ne.symm isOther]
  · intro other among
    rw [after, balances]
    rcases List.mem_cons.mp among with rfl | among
    · rw [if_pos rfl]
      exact (Ledger.exact_of_balance? held).symm
    · rw [if_neg (apart other among)]
      exact mirrors.exactly other among
  · intro address among
    rw [after, Table.mem_keys_iff] at among
    obtain ⟨value, found⟩ := among
    rw [balances] at found
    split at found
    · next isOurs => exact ⟨key, List.mem_cons_self, isOurs.symm⟩
    · obtain ⟨other, earlier, isTheirs⟩ :=
        mirrors.only address (Table.mem_keys_iff.mpr ⟨value, found⟩)
      exact ⟨other, List.mem_cons_of_mem key earlier, isTheirs⟩

/-- Seeding one more account against an honest node finds its address, as no other is left. -/
theorem seedAccount_mirrors (honest : node.Honest env) (base : config.server.isBase)
    (held : t.ledger.balance? key = some balance)
    : ∃ addresses,
        Tester.seedAccount env config key balance t = (.ok (), t.seeded key balance addresses)
        ∧ Mirrors node (key :: seeded) (t.seeded key balance addresses) := by
  obtain ⟨addresses, lists, same⟩ := honest.lists (t.seedPast key balance)
  have unclaimed := mem_unclaimed_of_seedPast addressed mirrors inside member fresh same
  have unknown : t.keys.publicKey? key = none := by
    refine Option.eq_none_iff_forall_ne_some.mpr fun address found => ?_
    exact fresh ((mirrors.known key address).mp found).1
  have claim := KeyBook.claim_of_only unknown ((unclaimed _).mpr rfl)
    fun other among => (unclaimed other).mp among
  refine ⟨addresses, ?_, ?_⟩
  · exact Tester.seedAccount_of_lists base (honest.executesAny _ _ _) lists
      (congrArg Prod.fst claim)
  · exact mirrors.claimed addressed inside member fresh held (congrArg Prod.snd claim)

end OneAccount

section Seeding

variable (honest : node.Honest env) (addressed : node.WellAddressed keys)
variable (base : config.server.isBase)

include honest addressed base

/-- Seeding the accounts of a ledger in turn goes well against an honest node, by induction on the
accounts that are left.
-/
theorem seedAccounts_mirrors {entries : List (String × UInt64)}
    (distinct : (entries.map (·.1)).Nodup)
    : ∀ {seeded : List String} {t : Tester}, Mirrors node seeded t →
        (∀ other ∈ seeded, other ∈ keys) →
        (∀ entry ∈ entries, entry.1 ∈ keys ∧ entry.1 ∉ seeded
          ∧ t.ledger.balance? entry.1 = some entry.2) →
        ∃ u, Tester.seedAccounts env config entries t = (.ok (), u)
          ∧ u.ledger = t.ledger
          ∧ u.words = t.words
          ∧ Mirrors node ((entries.map (·.1)).reverse ++ seeded) u := by
  induction entries with
  | nil =>
      intro seeded t mirrors _ _
      exact ⟨t, rfl, rfl, rfl, mirrors⟩
  | cons entry entries ih =>
      intro seeded t mirrors inside good
      obtain ⟨key, balance⟩ := entry
      obtain ⟨apart, distinct⟩ := List.nodup_cons.mp distinct
      obtain ⟨member, fresh, held⟩ := good (key, balance) List.mem_cons_self
      obtain ⟨addresses, first, next⟩ :=
        seedAccount_mirrors addressed mirrors inside member fresh honest base held
      have within : ∀ other ∈ key :: seeded, other ∈ keys := by
        intro other among
        rcases List.mem_cons.mp among with rfl | among
        · exact member
        · exact inside other among
      have others : ∀ entry ∈ entries, entry.1 ∈ keys ∧ entry.1 ∉ key :: seeded
          ∧ (t.seeded key balance addresses).ledger.balance? entry.1 = some entry.2 := by
        intro entry among
        obtain ⟨there, unseeded, has⟩ := good entry (List.mem_cons_of_mem _ among)
        refine ⟨there, ?_, has⟩
        intro again
        rcases List.mem_cons.mp again with same | again
        · exact apart (List.mem_map.mpr ⟨entry, among, same⟩)
        · exact unseeded again
      obtain ⟨u, rest, ledger, words, last⟩ := ih distinct next within others
      refine ⟨u, ?_, ledger, words, ?_⟩
      · exact (Step.bind_of_ok first).trans rest
      · rw [List.map_cons, List.reverse_cons, List.append_assoc]
        exact last

end Seeding

-----------------------------------------------------------------------------------------
-- Transfers
-----------------------------------------------------------------------------------------

/-- A tester whose accounts are all seeded: its state mirrors the node's balances, there are two
accounts or more, and the sum of all balances fits a word.
-/
structure Settled (node : Node) (keys : List String) (t : Tester) : Prop where
  mirrors : Mirrors node keys t
  all : ∀ key, key ∈ t.ledger.keys ↔ key ∈ keys
  two : 2 ≤ t.ledger.count
  fits : t.ledger.total < UInt64.size

section OneTransfer

variable {sender receiver : String} {paid received : UInt64}
variable (addressed : node.WellAddressed keys) (mirrors : Mirrors node keys t)
variable (pays : t.ledger.balance? sender = some paid)
variable (receives : t.ledger.balance? receiver = some received)
variable (fromKeys : sender ∈ keys) (toKeys : receiver ∈ keys) (different : receiver ≠ sender)

include addressed mirrors pays receives fromKeys toKeys different

/-- The node's balances after the executor run of a transfer between two seeded accounts. -/
theorem get?_balancesAfter_submitted (config : TesterConfig) (address : String)
    : (node.balancesAfter (t.submitted config sender (node.address receiver)).history).get? address
      = if node.address receiver = address then
          some ((received.toNat : Int) + (config.amount.toNat : Int))
        else if node.address sender = address then
          some ((paid.toNat : Int) - (config.amount.toNat : Int))
        else (node.balancesAfter t.history).get? address := by
  have apart : node.address sender ≠ node.address receiver := fun same =>
    different (addressed.distinct sender fromKeys receiver toKeys same).symm
  have senderHeld : held (node.balancesAfter t.history) (node.address sender) = paid.toNat := by
    rw [held, mirrors.exactly sender fromKeys, Ledger.exact_of_balance? pays, Option.getD_some]
  have receiverHeld
      : held (node.balancesAfter t.history) (node.address receiver) = received.toNat := by
    rw [held, mirrors.exactly receiver toKeys, Ledger.exact_of_balance? receives, Option.getD_some]
  rw [← senderHeld, ← receiverHeld]
  exact get?_balancesAfter_transfer node (addressed.noSlash sender fromKeys)
    (addressed.noSlash receiver toKeys) (addressed.noPlaceholder receiver toKeys) t.history
    config.amount _ apart address

/-- The node moves what the ledger moves: after the executor run of a transfer between two seeded
accounts it mirrors the ledger in which the transfer is booked.
-/
theorem Mirrors.submitted {answer : UInt64 × UInt64} {after : Ledger}
    (booked : t.ledger.transfer sender receiver config.amount = (.ok answer, after))
    : Mirrors node keys
        { t.submitted config sender (node.address receiver) with ledger := after } := by
  have balances :=
    get?_balancesAfter_submitted addressed mirrors pays receives fromKeys toKeys different config
  refine { known := mirrors.known, exactly := ?_, only := ?_ }
  · intro key member
    have moved := congrFun (Ledger.transfer_exact booked) key
    rw [balances, moved, Ledger.exactTransfer]
    by_cases isReceiver : key = receiver
    · subst isReceiver
      simp [Ledger.exact_of_balance? receives, different]
    · have other : node.address receiver ≠ node.address key := fun same =>
        isReceiver (addressed.distinct receiver toKeys key member same).symm
      rw [if_neg other]
      by_cases isSender : key = sender
      · subst isSender
        simp [Ledger.exact_of_balance? pays, isReceiver]
      · have another : node.address sender ≠ node.address key := fun same =>
          isSender (addressed.distinct sender fromKeys key member same).symm
        rw [if_neg another, mirrors.exactly key member]
        simp [isReceiver, isSender]
  · intro address member
    obtain ⟨value, found⟩ := Table.mem_keys_iff.mp member
    rw [balances] at found
    split at found
    · next isReceivers => exact ⟨receiver, toKeys, isReceivers.symm⟩
    · split at found
      · next isSenders => exact ⟨sender, fromKeys, isSenders.symm⟩
      · exact mirrors.only address (Table.mem_keys_iff.mpr ⟨value, found⟩)

end OneTransfer

def CanPay (l : Ledger) (amount : UInt64) : Prop :=
  ∃ key held, l.balance? key = some held ∧ amount ≤ held

section Transfers

variable (honest : node.Honest env) (addressed : node.WellAddressed keys)
variable (base : config.server.isBase)

include honest addressed base

/-- A check of a seeded account finds the balance that the ledger expects with its first read. -/
theorem Mirrors.checks (mirrors : Mirrors node keys t) {key : String} {held : UInt64}
    (member : key ∈ keys) (found : t.ledger.balance? key = some held)
    : Tester.checkBalance env config key t
        = (.ok (), t.acted [.fetch (balanceRef (node.address key))])
      ∧ Mirrors node keys (t.acted [.fetch (balanceRef (node.address key))]) := by
  have known := (mirrors.known key _).mpr ⟨member, rfl⟩
  have reported := mirrors.reports honest member (addressed.noSlash key member) found
  exact ⟨Tester.checkBalance_of_reports base known found reported, mirrors.fetched _⟩

/-- A transfer that some account can pay goes well against an honest node, and afterwards its
receiver can pay: both checks find the balance that the ledger expects.
-/
theorem transferOnce_settled (settled : Settled node keys t) (pays : CanPay t.ledger config.amount)
    : ∃ pair u, Tester.transferOnce env config t = (.ok pair, u)
        ∧ Settled node keys u
        ∧ CanPay u.ledger config.amount := by
  obtain ⟨mirrors, all, two, fits⟩ := settled
  obtain ⟨payer, paid, payerHeld, enough⟩ := pays
  have chosen : ∃ sender receiver,
      (t.ledger.select config.amount t.words).1 = .ok (sender, receiver) :=
    Ledger.select_of_eligible two payerHeld enough
  obtain ⟨sender, receiver, select⟩ := chosen
  obtain ⟨_, ⟨paid, senderHeld, _⟩, ⟨held, receiverHeld⟩, different⟩ := Ledger.select_ok select
  have fromKeys := (all sender).mp (Ledger.mem_keys_iff.mpr ⟨paid, senderHeld⟩)
  have toKeys := (all receiver).mp (Ledger.mem_keys_iff.mpr ⟨held, receiverHeld⟩)
  obtain ⟨⟨left, received⟩, after, booked⟩ := Ledger.transfer_of_total fits select
  obtain ⟨leftHeld, receivedHeld, enoughAgain⟩ := Ledger.transfer_balances different booked
  have submits : Tester.transferOnce env config t
      = Tester.settleTransfer env config sender receiver
          (t.submitted config sender (node.address receiver)) :=
    Tester.transferOnce_of_executes select ((mirrors.known receiver _).mpr ⟨toKeys, rfl⟩)
      (honest.executesAny _ _ _)
  have next :=
    mirrors.submitted addressed senderHeld receiverHeld fromKeys toKeys different booked
  obtain ⟨first, between⟩ := next.checks honest addressed base fromKeys leftHeld
  obtain ⟨second, last⟩ := between.checks honest addressed base toKeys receivedHeld
  have settles := submits.trans (Tester.settleTransfer_of_checks booked first second)
  refine ⟨_, _, settles, ?_, receiver, received, receivedHeld, enoughAgain⟩
  exact {
    mirrors := last
    all := fun key => (Ledger.transfer_keys booked).trans (all key)
    two := (Ledger.transfer_count booked).symm ▸ two
    fits := (Ledger.transfer_total booked).symm ▸ fits
  }

/-- Any number of transfers goes well against an honest node if some account can pay the first, by
induction on their number.
-/
theorem transfers_settled (count : Nat)
    : ∀ {t : Tester}, Settled node keys t → CanPay t.ledger config.amount →
        ∃ u, Tester.transfers env config count t = (.ok (), u) ∧ Settled node keys u := by
  induction count with
  | zero => exact fun settled _ => ⟨_, rfl, settled⟩
  | succ count ih =>
      intro t settled pays
      obtain ⟨pair, s, first, between, canPay⟩ :=
        transferOnce_settled honest addressed base settled pays
      obtain ⟨u, others, last⟩ := ih between canPay
      exact ⟨u, (Step.bind_of_ok first).trans others, last⟩

end Transfers

-----------------------------------------------------------------------------------------
-- Runs
-----------------------------------------------------------------------------------------

section Runs

variable {l : Ledger} {words : Words} {count : UInt64}
variable (honest : node.Honest env) (addressed : node.WellAddressed l.keys)
variable (base : config.server.isBase)

include honest addressed base

/-- All accounts of a ledger can be seeded against an honest node, whatever their balances. -/
theorem setInitialBalances_mirrors (words : Words)
    : ∃ u, Tester.setInitialBalances env config (.start l words) = (.ok (), u)
        ∧ u.ledger = l
        ∧ u.words = words
        ∧ Mirrors node l.keys u := by
  have distinct : (l.balances.entries.map (·.1)).Nodup := l.balances.keys_nodup
  have good : ∀ entry ∈ l.balances.entries, entry.1 ∈ l.keys ∧ entry.1 ∉ ([] : List String)
      ∧ (Tester.start l words).ledger.balance? entry.1 = some entry.2 := by
    intro entry member
    have held : l.balance? entry.1 = some entry.2 := Table.mem_entries_iff.mp member
    exact ⟨Ledger.mem_keys_iff.mpr ⟨entry.2, held⟩, List.not_mem_nil, held⟩
  obtain ⟨u, seeding, ledger, words, mirrors⟩ :=
    seedAccounts_mirrors honest addressed base distinct (.start node l words)
      (fun other none => absurd none List.not_mem_nil) good
  have same (key : String)
      : key ∈ (l.balances.entries.map (·.1)).reverse ++ [] ↔ key ∈ l.keys := by
    rw [List.append_nil, List.mem_reverse, Ledger.keys, Table.keys]
  exact ⟨u, seeding, ledger, words, mirrors.of_same same⟩

variable (two : 2 ≤ l.count) (fits : l.total < UInt64.size)

include two fits

/-- The run of any number of transfers comes down to those transfers from a settled tester. -/
theorem run_eq_transfers (limit : config.iterations = some count) (words : Words) (patience : Nat)
    : ∃ s, s.ledger = l
        ∧ Settled node l.keys s
        ∧ Tester.run env config patience (.start l words)
          = (Tester.transfers env config count.toNat >>= fun _ =>
              pure Tester.RunEnd.finished) s := by
  obtain ⟨s, seeding, ledger, -, mirrors⟩ :=
    setInitialBalances_mirrors honest addressed base words
  have settled : Settled node l.keys s := {
    mirrors := mirrors
    all := fun key => by rw [ledger]
    two := ledger.symm ▸ two
    fits := ledger.symm ▸ fits
  }
  have checked : Tester.requireTwo (.start l words) = (.ok (), .start l words) :=
    if_neg (Nat.not_lt.mpr two)
  have run : Tester.runFor env config count.toNat (.start l words)
      = Tester.transfers env config count.toNat s := by
    unfold Tester.runFor
    rw [Step.bind_of_ok checked, Step.bind_of_ok seeding]
  refine ⟨s, ledger, settled, ?_⟩
  unfold Tester.run
  rw [limit]
  exact Step.bind_congr run _

/-- A run against an honest node ends well if it makes no transfer or some account can pay the
first one, and then the tester's state still mirrors the node's balances.
-/
theorem run_of_canPay (limit : config.iterations = some count)
    (possible : count = 0 ∨ CanPay l config.amount) (words : Words) (patience : Nat)
    : ∃ u, Tester.run env config patience (.start l words) = (.ok .finished, u)
        ∧ Settled node l.keys u := by
  obtain ⟨s, rfl, settled, run⟩ :=
    run_eq_transfers honest addressed base two fits limit words patience
  have moving : ∃ u, Tester.transfers env config count.toNat s = (.ok (), u)
      ∧ Settled node s.ledger.keys u := by
    rcases possible with rfl | pays
    · exact ⟨s, rfl, settled⟩
    · exact transfers_settled honest addressed base count.toNat settled pays
  obtain ⟨u, moved, last⟩ := moving
  exact ⟨u, run.trans (Step.bind_of_ok moved), last⟩

/-- A run against an honest node comes to the end that the initial balances leave it: it ends well
if it makes no transfer or some account can pay the first one, and otherwise it finds no sender for
the amount. In both cases every account is seeded, its address is known, and the ledger holds what
the node replays from its journal.
-/
theorem run_honest (limit : config.iterations = some count) (words : Words) (patience : Nat)
    : (count = 0 ∨ CanPay l config.amount →
        ∃ u, Tester.run env config patience (.start l words) = (.ok .finished, u)
          ∧ Settled node l.keys u)
      ∧ (¬ (count = 0 ∨ CanPay l config.amount) →
        ∃ u, Tester.run env config patience (.start l words)
            = (.error (.selection (.noEligibleSender config.amount)), u)
          ∧ Settled node l.keys u) := by
  refine ⟨fun possible => ?_, fun impossible => ?_⟩
  · exact run_of_canPay honest addressed base two fits limit possible words patience
  · obtain ⟨s, rfl, settled, run⟩ :=
      run_eq_transfers honest addressed base two fits limit words patience
    obtain ⟨nonzero, cannotPay⟩ := not_or.mp impossible
    have unselected : s.ledger.select config.amount s.words
        = (.error (.noEligibleSender config.amount), s.words) :=
      Ledger.select_of_none two fun key held found enough => cannotPay ⟨key, held, found, enough⟩
    have failed : Tester.transferOnce env config s
        = (.error (.selection (.noEligibleSender config.amount)), s.chosen config) :=
      Tester.transferOnce_of_unselected (congrArg Prod.fst unselected)
    have first : Tester.transfers env config count.toNat s
        = (.error (.selection (.noEligibleSender config.amount)), s.chosen config) := by
      obtain ⟨rest, more⟩ := Nat.exists_eq_succ_of_ne_zero fun zero =>
        nonzero (UInt64.toNat_inj.mp zero)
      rw [more]
      exact Step.bind_of_error failed
    refine ⟨s.chosen config, run.trans (Step.bind_of_error first), ?_⟩
    exact {
      mirrors := {
        known := settled.mirrors.known
        exactly := settled.mirrors.exactly
        only := settled.mirrors.only
      }
      all := settled.all
      two := settled.two
      fits := settled.fits
    }

end Runs

/-- A node whose addresses are the keys with a sign in front, and which answers balances as texts
and as numbers in turn.
-/
def prefixed : Node where
  address key := "0x" ++ key
  asText past := past.length % 2 = 0

/-- Keys without a slash or an opening brace have addresses of such a kind too. -/
theorem prefixed_wellAddressed {keys : List String}
    (noSlash : ∀ key ∈ keys, NoSlash key) (noBrace : ∀ key ∈ keys, '\x7b' ∉ key.toList)
    : prefixed.WellAddressed keys := by
  have letters (key : String) : (prefixed.address key).toList = '0' :: 'x' :: key.toList := by
    simp [prefixed]
  refine { distinct := ?_, noSlash := ?_, noPlaceholder := ?_ }
  · intro a _ b _ same
    have tails := congrArg String.toList same
    rw [letters, letters, List.cons.injEq, List.cons.injEq] at tails
    exact String.toList_inj.mp tails.2.2
  · intro key member
    rw [NoSlash, letters]
    simpa [NoSlash] using noSlash key member
  · intro key member
    apply noPlaceholder_of_noBrace
    rw [letters]
    simpa using noBrace key member

def twoAccounts : Ledger :=
  (Ledger.empty.set "alice" 5).set "bob" 2

/-- Two transfers of three, checked at a local server. -/
def twoTransfers : TesterConfig :=
  { TesterConfig.usual
      ⟨"http", "", "", some (.domain "localhost"), some 8080, .rooted [""], none, none⟩ "tool" with
    amount := 3
    iterations := some 2 }

theorem twoAccounts_wellAddressed : prefixed.WellAddressed twoAccounts.keys := by
  have keys : twoAccounts.keys = ["alice", "bob"] := by decide +kernel
  rw [keys]
  exact prefixed_wellAddressed (by decide) (by decide)

/-- Two transfers between two accounts end well at an honest node. -/
theorem run_honest_twoAccounts
    : ∃ u, Tester.run prefixed.environment twoTransfers 0 (.start twoAccounts ⟨[], 0⟩)
          = (.ok .finished, u)
        ∧ Settled prefixed twoAccounts.keys u :=
  (run_honest prefixed.environment_honest twoAccounts_wellAddressed (by decide) (by decide)
    (by decide) rfl ⟨[], 0⟩ 0).1 (.inr ⟨"alice", 5, by decide, by decide⟩)

end NodeTrial.Node
