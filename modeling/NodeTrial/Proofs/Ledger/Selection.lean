import NodeTrial.Proofs.Drawing
import NodeTrial.Proofs.Ledger.Transfer

/-! Which accounts are chosen for a transfer, and whether the ledger can book it. A choice always
falls on an item of its list. So the sender can pay, the receiver is another account, and a chosen
transfer is refused in one case only: the receiver's balance would outgrow a word.
-/

namespace NodeTrial

namespace Ledger

open Words (choice exists_firstChoice)

variable {l : Ledger} {amount : UInt64} {ws : Words} {sender receiver : String}

theorem mem_eligible_iff {key : String}
    : key ∈ l.eligible amount ↔ ∃ held, l.balance? key = some held ∧ amount ≤ held := by
  simp only [eligible, List.mem_map, List.mem_filter, decide_eq_true_eq]
  constructor
  · rintro ⟨⟨name, held⟩, ⟨member, enough⟩, rfl⟩
    exact ⟨held, Table.mem_entries_iff.mp member, enough⟩
  · rintro ⟨held, found, enough⟩
    exact ⟨(key, held), ⟨Table.mem_entries_iff.mpr found, enough⟩, rfl⟩

theorem count_eq_length_keys (l : Ledger) : l.count = l.keys.length := by
  simp [count, keys, Table.keys, Table.size]

/-- Among two accounts or more there is one other than a given one. -/
theorem exists_other (two : 2 ≤ l.count) (sender : String)
    : ∃ receiver ∈ l.keys, receiver ≠ sender := by
  rw [count_eq_length_keys] at two
  have nodup : l.keys.Nodup := l.balances.keys_nodup
  match keys : l.keys with
  | [] => simp [keys] at two
  | [_] => simp [keys] at two
  | first :: second :: rest =>
      rw [keys, List.nodup_cons] at nodup
      by_cases same : first = sender
      · refine ⟨second, by simp, fun h => nodup.1 ?_⟩
        simp [same, h]
      · exact ⟨first, by simp, same⟩

/-- The accounts that can receive from a sender: all but its own. -/
def others (l : Ledger) (sender : String) : List String :=
  l.keys.filter fun key => key != sender

/-- A sender and a receiver are chosen by two words of a stream: the first one that chooses among the
accounts that can pay, and then the first one after it that chooses among all other accounts.
-/
structure ChosenBy (l : Ledger) (amount : UInt64) (ws : Words) (sender receiver : String)
    (j k : Nat)
    : Prop where
  first : ws.FirstChoice (l.eligible amount).length j
  pays : (l.eligible amount)[choice (l.eligible amount).length (ws.word j)]? = some sender
  second : (ws.skip (j + 1)).FirstChoice (l.others sender).length k
  receives
    : (l.others sender)[choice (l.others sender).length ((ws.skip (j + 1)).word k)]?
      = some receiver

theorem mem_others_iff {key : String} : key ∈ l.others sender ↔ key ∈ l.keys ∧ key ≠ sender := by
  simp [others]

/-- A chosen sender can pay and a chosen receiver is another account. -/
theorem select_ok {sender receiver : String}
    (h : (l.select amount ws).1 = .ok (sender, receiver))
    : 2 ≤ l.count
      ∧ (∃ paid, l.balance? sender = some paid ∧ amount ≤ paid)
      ∧ (∃ held, l.balance? receiver = some held)
      ∧ receiver ≠ sender := by
  unfold select at h
  split at h
  · cases h
  · next two =>
    have two : 2 ≤ l.count := Nat.not_lt.mp two
    split at h
    · cases h
    · next paying next chosen =>
      split at h
      · cases h
      · next other last also =>
        obtain ⟨rfl, rfl⟩ := Prod.mk.inj (Except.ok.inj h)
        have pays := Words.choose_mem (congrArg Prod.fst chosen)
        have receives := Words.choose_mem (congrArg Prod.fst also)
        rw [List.mem_filter] at receives
        exact ⟨two, mem_eligible_iff.mp pays, mem_keys_iff.mp receives.1, by simpa using receives.2⟩

/-- Words that choose a sender and a receiver are drawn up to the one that chooses the receiver. -/
theorem select_of_chosenBy {j k : Nat} (two : 2 ≤ l.count)
    (h : ChosenBy l amount ws sender receiver j k)
    : l.select amount ws = (.ok (sender, receiver), ws.skip (j + k + 2)) := by
  have paying : ws.choose (l.eligible amount) = (some sender, ws.skip (j + 1)) := by
    rw [Words.choose_of_firstChoice (List.ne_nil_of_mem (List.mem_of_getElem? h.pays)) h.first,
      h.pays]
  have receiving
      : (ws.skip (j + 1)).choose (l.keys.filter fun key => key != sender)
        = (some receiver, ws.skip (j + k + 2)) := by
    have nonempty : l.others sender ≠ [] := List.ne_nil_of_mem (List.mem_of_getElem? h.receives)
    have drawn : j + 1 + (k + 1) = j + k + 2 := by omega
    have chosen := Words.choose_of_firstChoice nonempty h.second
    rwa [h.receives, Words.skip_skip, drawn] at chosen
  unfold select
  rw [if_neg (Nat.not_lt.mpr two), paying]
  dsimp only
  rw [receiving]

/-- Where one of two accounts or more can pay, any words choose a sender and a receiver in the end. -/
theorem exists_chosenBy (two : 2 ≤ l.count) {key : String} (pays : key ∈ l.eligible amount)
    (ws : Words)
    : ∃ sender receiver j k, ChosenBy l amount ws sender receiver j k := by
  obtain ⟨j, -, first⟩ := exists_firstChoice ws (l.eligible amount).length
  have inFirst := Words.choice_lt (List.length_pos_of_mem pays) (ws.word j)
  let sender := (l.eligible amount)[choice (l.eligible amount).length (ws.word j)]
  obtain ⟨other, member, different⟩ := exists_other two sender
  have another : other ∈ l.others sender := mem_others_iff.mpr ⟨member, different⟩
  obtain ⟨k, -, second⟩ := exists_firstChoice (ws.skip (j + 1)) (l.others sender).length
  have inSecond := Words.choice_lt (List.length_pos_of_mem another) ((ws.skip (j + 1)).word k)
  exact ⟨sender, _, j, k, first, List.getElem?_eq_getElem inFirst, second,
    List.getElem?_eq_getElem inSecond⟩

/-- Where one of two accounts or more can pay, a sender and a receiver are chosen. -/
theorem select_of_eligible (two : 2 ≤ l.count) {key : String} {held : UInt64}
    (found : l.balance? key = some held) (enough : amount ≤ held)
    : ∃ sender receiver, (l.select amount ws).1 = .ok (sender, receiver) := by
  have pays : key ∈ l.eligible amount := mem_eligible_iff.mpr ⟨held, found, enough⟩
  obtain ⟨sender, receiver, j, k, chosen⟩ := exists_chosenBy two pays ws
  exact ⟨sender, receiver, congrArg Prod.fst (select_of_chosenBy two chosen)⟩

theorem select_of_none (two : 2 ≤ l.count)
    (none : ∀ key held, l.balance? key = some held → ¬ amount ≤ held)
    : l.select amount ws = (.error (.noEligibleSender amount), ws) := by
  have empty : l.eligible amount = [] := by
    refine List.eq_nil_iff_forall_not_mem.mpr fun key member => ?_
    obtain ⟨held, found, enough⟩ := mem_eligible_iff.mp member
    exact none key held found enough
  simp only [select, if_neg (Nat.not_lt.mpr two), empty, Words.choose]

/-- A chosen transfer is booked when a word can hold the receiver's balance with the amount added,
and otherwise the ledger refuses it for the receiver. Nothing else can go wrong.
-/
theorem transfer_of_select {sender receiver : String}
    (h : (l.select amount ws).1 = .ok (sender, receiver))
    : (l.holding receiver + amount.toNat < UInt64.size
        ∧ ∃ answer after, l.transfer sender receiver amount = (.ok answer, after))
      ∨ (UInt64.size ≤ l.holding receiver + amount.toNat
        ∧ l.transfer sender receiver amount = (.error (.overFunded receiver amount), l)) := by
  obtain ⟨_, ⟨paid, pays, enough⟩, ⟨held, found⟩, _⟩ := select_ok h
  rw [holding_of_balance? found]
  by_cases fits : held.toNat + amount.toNat < UInt64.size
  · exact .inl ⟨fits, transfer_of_fits pays enough found fits⟩
  · exact .inr ⟨Nat.not_lt.mp fits, transfer_of_large found (Nat.not_lt.mp fits)⟩

/-- A transfer of more than nothing to another account changes the exact balances. -/
theorem exactTransfer_ne {sender receiver : String} {held : UInt64}
    (found : l.balance? receiver = some held) (different : receiver ≠ sender)
    (positive : 0 < amount.toNat)
    : exactTransfer sender receiver amount l.exact ≠ l.exact := by
  intro same
  have there := congrFun same receiver
  rw [exactTransfer, exact_of_balance? found, Option.map_some, if_neg different, if_pos rfl,
    Option.some.injEq] at there
  omega

/-- While the sum of all balances fits a word, every chosen transfer is booked: the receiver's
balance and what the sender can pay are both part of that sum.
-/
theorem transfer_of_total (fits : l.total < UInt64.size) {sender receiver : String}
    (h : (l.select amount ws).1 = .ok (sender, receiver))
    : ∃ answer after, l.transfer sender receiver amount = (.ok answer, after) := by
  obtain ⟨_, ⟨paid, pays, enough⟩, ⟨held, found⟩, different⟩ := select_ok h
  have both := holding_add_le_total different found pays
  have covered := UInt64.le_iff_toNat_le.mp enough
  exact transfer_of_fits pays enough found (by omega)

theorem transfer_count {after : Ledger} {sender receiver : String} {answer : UInt64 × UInt64}
    (h : l.transfer sender receiver amount = (.ok answer, after))
    : after.count = l.count := by
  have same : after.keys.Perm l.keys :=
    (List.perm_ext_iff_of_nodup after.balances.keys_nodup l.balances.keys_nodup).mpr
      fun key => transfer_keys h
  rw [count_eq_length_keys, count_eq_length_keys, same.length_eq]

end Ledger

end NodeTrial
