import NodeTrial.Ledger
import NodeTrial.Proofs.Table.Lookup

/-! What the operations of a ledger do: each succeeds under one condition on the balances, sets
the balances it names and leaves the ledger alone when it refuses. Balances are compared as exact
numbers, so that no statement depends on the range of a word.
-/

namespace NodeTrial.Ledger

-----------------------------------------------------------------------------------------
-- Amounts and balances
-----------------------------------------------------------------------------------------

/-- A sum is the exact one when a word can hold it. -/
theorem sum?_eq_some {held amount after : UInt64} (h : sum? held amount = some after)
    : after.toNat = held.toNat + amount.toNat
      ∧ held.toNat + amount.toNat < UInt64.size := by
  unfold sum? at h
  split at h
  · next fits =>
    have same := Option.some.inj h
    rw [← same, UInt64.toNat_add]
    exact ⟨Nat.mod_eq_of_lt fits, fits⟩
  · cases h

theorem sum?_of_fits {held amount : UInt64}
    (fits : held.toNat + amount.toNat < UInt64.size)
    : ∃ after, sum? held amount = some after
        ∧ after.toNat = held.toNat + amount.toNat := by
  have found : sum? held amount = some (held + amount) := if_pos fits
  exact ⟨held + amount, found, (sum?_eq_some found).1⟩

theorem sum?_eq_none {held amount : UInt64}
    (large : UInt64.size ≤ held.toNat + amount.toNat)
    : sum? held amount = none :=
  if_neg (Nat.not_lt.mpr large)

/-- A difference is the exact one, and there is one when it is not negative. -/
theorem difference?_eq_some {held amount after : UInt64}
    (h : difference? held amount = some after)
    : after.toNat + amount.toNat = held.toNat := by
  unfold difference? at h
  split at h
  · next enough =>
    have same := Option.some.inj h
    rw [← same, UInt64.toNat_sub_of_le _ _ enough]
    exact Nat.sub_add_cancel (UInt64.le_iff_toNat_le.mp enough)
  · cases h

theorem difference?_eq_none {held amount : UInt64} (short : ¬ amount ≤ held)
    : difference? held amount = none :=
  if_neg short

theorem difference?_of_le {held amount : UInt64} (enough : amount ≤ held)
    : ∃ after, difference? held amount = some after
        ∧ after.toNat + amount.toNat = held.toNat := by
  have found : difference? held amount = some (held - amount) := if_pos enough
  exact ⟨held - amount, found, difference?_eq_some found⟩

theorem balance?_set (l : Ledger) (key other : String) (held : UInt64)
    : (l.set key held).balance? other = if key = other then some held else l.balance? other :=
  l.balances.get?_insert key other held

/-- The balance of a key as a number, zero if there is no such account. -/
def holding (l : Ledger) (key : String) : Nat :=
  ((l.balance? key).map UInt64.toNat).getD 0

theorem holding_of_balance? {l : Ledger} {key : String} {held : UInt64}
    (found : l.balance? key = some held)
    : l.holding key = held.toNat := by
  simp [holding, found]

theorem holding_lt (l : Ledger) (key : String) : l.holding key < UInt64.size := by
  unfold holding
  cases l.balance? key with
  | none => exact (by decide : 0 < UInt64.size)
  | some held => exact held.toNat_lt

theorem holding_set (l : Ledger) (key other : String) (held : UInt64)
    : (l.set key held).holding other
      = if key = other then held.toNat else l.holding other := by
  unfold holding
  rw [balance?_set]
  split <;> rfl

theorem balanceOf_ok_iff {l : Ledger} {key : String} {held : UInt64}
    : l.balanceOf key = .ok held ↔ l.balance? key = some held := by
  unfold balanceOf
  cases l.balance? key with
  | none => simp
  | some found => simp

theorem mem_keys_iff {l : Ledger} {key : String}
    : key ∈ l.keys ↔ ∃ held, l.balance? key = some held :=
  Table.mem_keys_iff

theorem balance?_eq_none_iff {l : Ledger} {key : String}
    : l.balance? key = none ↔ key ∉ l.keys := by
  rw [mem_keys_iff, Option.eq_none_iff_forall_not_mem]
  exact not_exists.symm

theorem mem_keys_set {l : Ledger} {key other : String} {held : UInt64}
    : other ∈ (l.set key held).keys ↔ key = other ∨ other ∈ l.keys := by
  rw [mem_keys_iff, mem_keys_iff, balance?_set]
  by_cases same : key = other <;> simp [same]

theorem total_eq_weightOf (l : Ledger)
    : l.total = weightOf UInt64.toNat l.balances.entries := by
  simp only [total, Table.values, weightOf, List.foldr_map]

/-- Setting a balance puts it in the place of the old one in the sum. -/
theorem total_set (l : Ledger) (key : String) (held : UInt64)
    : (l.set key held).total + l.holding key = l.total + held.toNat := by
  rw [total_eq_weightOf, total_eq_weightOf]
  exact l.balances.rising.weightOf_insertEntry UInt64.toNat key held

/-- The balances of two accounts are part of the sum of all balances. -/
theorem holding_add_le_total {l : Ledger} {key other : String} {held also : UInt64}
    (different : key ≠ other) (found : l.balance? key = some held)
    (next : l.balance? other = some also)
    : held.toNat + also.toNat ≤ l.total := by
  rw [total_eq_weightOf]
  exact weight_add_le_weightOf UInt64.toNat different found next

/-- Every balance as an exact number, for the accounts that there are. -/
def exact (l : Ledger) (key : String) : Option Int :=
  (l.balance? key).map fun held => (held.toNat : Int)

theorem exact_of_balance? {l : Ledger} {key : String} {held : UInt64}
    (found : l.balance? key = some held)
    : l.exact key = some (held.toNat : Int) := by
  simp [exact, found]

-----------------------------------------------------------------------------------------
-- Deposits and withdrawals
-----------------------------------------------------------------------------------------

/-- A deposit that is accepted sets the balance to the exact sum; a new account starts with the
amount.
-/
theorem deposit_ok {l after : Ledger} {key : String} {amount answer : UInt64}
    (h : l.deposit key amount = (.ok answer, after))
    : after = l.set key answer ∧ answer.toNat = l.holding key + amount.toNat := by
  unfold deposit at h
  cases found : l.balance? key with
  | none =>
      simp only [found, Prod.mk.injEq, Except.ok.injEq] at h
      obtain ⟨rfl, rfl⟩ := h
      exact ⟨rfl, by simp [holding, found]⟩
  | some held =>
      cases sum : sum? held amount with
      | none => simp [found, sum] at h
      | some more =>
          simp only [found, sum, Prod.mk.injEq, Except.ok.injEq] at h
          obtain ⟨rfl, rfl⟩ := h
          exact ⟨rfl, by rw [holding_of_balance? found, (sum?_eq_some sum).1]⟩

/-- A deposit that is refused leaves the ledger as it was; the account exists already. -/
theorem deposit_error {l after : Ledger} {key : String} {amount : UInt64} {e : AccountError}
    (h : l.deposit key amount = (.error e, after))
    : after = l ∧ key ∈ l.keys := by
  unfold deposit at h
  cases found : l.balance? key with
  | none => simp [found] at h
  | some held =>
      cases sum : sum? held amount with
      | none =>
          simp only [found, sum, Prod.mk.injEq] at h
          exact ⟨h.2.symm, mem_keys_iff.mpr ⟨held, found⟩⟩
      | some more => simp [found, sum] at h

theorem deposit_of_fits {l : Ledger} {key : String} {amount : UInt64}
    (fits : l.holding key + amount.toNat < UInt64.size)
    : ∃ answer, l.deposit key amount = (.ok answer, l.set key answer)
        ∧ answer.toNat = l.holding key + amount.toNat := by
  unfold deposit
  cases found : l.balance? key with
  | none => exact ⟨amount, rfl, by simp [holding, found]⟩
  | some held =>
      rw [holding_of_balance? found] at fits ⊢
      obtain ⟨more, sum, exactly⟩ := sum?_of_fits fits
      exact ⟨more, by simp only [sum], exactly⟩

/-- A withdrawal that is accepted sets the balance to the exact difference. -/
theorem withdraw_ok {l after : Ledger} {key : String} {amount answer : UInt64}
    (h : l.withdraw key amount = (.ok answer, after))
    : after = l.set key answer ∧ key ∈ l.keys
      ∧ answer.toNat + amount.toNat = l.holding key := by
  unfold withdraw at h
  cases found : l.balance? key with
  | none => simp [found] at h
  | some held =>
      cases difference : difference? held amount with
      | none => simp [found, difference] at h
      | some less =>
          simp only [found, difference, Prod.mk.injEq, Except.ok.injEq] at h
          obtain ⟨rfl, rfl⟩ := h
          refine ⟨rfl, mem_keys_iff.mpr ⟨held, found⟩, ?_⟩
          rw [holding_of_balance? found, difference?_eq_some difference]

theorem withdraw_error {l after : Ledger} {key : String} {amount : UInt64} {e : AccountError}
    (h : l.withdraw key amount = (.error e, after))
    : after = l := by
  unfold withdraw at h
  cases found : l.balance? key with
  | none =>
      simp only [found, Prod.mk.injEq] at h
      exact h.2.symm
  | some held =>
      cases difference : difference? held amount with
      | none =>
          simp only [found, difference, Prod.mk.injEq] at h
          exact h.2.symm
      | some less => simp [found, difference] at h

theorem withdraw_of_missing {l : Ledger} {key : String} {amount : UInt64}
    (missing : l.balance? key = none)
    : l.withdraw key amount = (.error (.notFound key), l) := by
  simp only [withdraw, missing]

theorem withdraw_of_short {l : Ledger} {key : String} {held amount : UInt64}
    (found : l.balance? key = some held) (short : ¬ amount ≤ held)
    : l.withdraw key amount = (.error (.underFunded key amount), l) := by
  simp only [withdraw, found, difference?_eq_none short]

theorem withdraw_of_le {l : Ledger} {key : String} {held amount : UInt64}
    (found : l.balance? key = some held) (enough : amount ≤ held)
    : ∃ answer, l.withdraw key amount = (.ok answer, l.set key answer)
        ∧ answer.toNat + amount.toNat = held.toNat := by
  obtain ⟨less, difference, exactly⟩ := difference?_of_le enough
  exact ⟨less, by simp only [withdraw, found, difference], exactly⟩

end NodeTrial.Ledger
