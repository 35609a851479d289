import NodeTrial.Proofs.Ledger.Operations

/-! What a transfer does. It is a withdrawal and a deposit, and the deposit cannot fail once the
check before the withdrawal has passed, also where sender and recipient are the same account. So
a transfer moves the amount exactly or leaves the ledger as it was.
-/

namespace NodeTrial.Ledger

/-- The exact balances after an amount has moved from one account to another. -/
def exactTransfer (sender recipient : String) (amount : UInt64)
    (balances : String → Option Int)
    : String → Option Int :=
  fun key => (balances key).map fun held =>
    held - (if key = sender then (amount.toNat : Int) else 0)
      + (if key = recipient then (amount.toNat : Int) else 0)

/-- After a withdrawal the deposit of the same amount is accepted if it would have been accepted
before: the withdrawal lowers one balance and raises none.
-/
theorem deposit_after_withdraw {l debited : Ledger} {sender recipient : String}
    {amount left : UInt64} (fits : l.holding recipient + amount.toNat < UInt64.size)
    (paid : l.withdraw sender amount = (.ok left, debited))
    : ∃ received,
        debited.deposit recipient amount = (.ok received, debited.set recipient received)
        ∧ received.toNat = debited.holding recipient + amount.toNat := by
  obtain ⟨rfl, _, exactly⟩ := withdraw_ok paid
  apply deposit_of_fits
  rw [holding_set]
  split
  · next same =>
    subst same
    omega
  · exact fits

-----------------------------------------------------------------------------------------
-- The four ways a transfer goes
-----------------------------------------------------------------------------------------

theorem transfer_of_missing {l : Ledger} {sender recipient : String} {amount : UInt64}
    (missing : l.balance? recipient = none)
    : l.transfer sender recipient amount = (.error (.notFound recipient), l) := by
  simp only [transfer, balanceOf, missing]

theorem transfer_of_large {l : Ledger} {sender recipient : String} {held amount : UInt64}
    (found : l.balance? recipient = some held)
    (large : UInt64.size ≤ held.toNat + amount.toNat)
    : l.transfer sender recipient amount = (.error (.overFunded recipient amount), l) := by
  simp [transfer, balanceOf, found, sum?_eq_none large]

theorem transfer_of_refused {l debited : Ledger} {sender recipient : String}
    {held amount : UInt64} {e : AccountError} (found : l.balance? recipient = some held)
    (fits : held.toNat + amount.toNat < UInt64.size)
    (refused : l.withdraw sender amount = (.error e, debited))
    : l.transfer sender recipient amount = (.error e, l) := by
  obtain ⟨more, sum, _⟩ := sum?_of_fits fits
  have same := withdraw_error refused
  subst same
  simp [transfer, balanceOf, found, sum, refused]

theorem transfer_of_paid {l debited : Ledger} {sender recipient : String}
    {held amount left : UInt64} (found : l.balance? recipient = some held)
    (fits : held.toNat + amount.toNat < UInt64.size)
    (paid : l.withdraw sender amount = (.ok left, debited))
    : ∃ received,
        l.transfer sender recipient amount
          = (.ok (left, received), debited.set recipient received)
        ∧ received.toNat = debited.holding recipient + amount.toNat := by
  obtain ⟨more, sum, _⟩ := sum?_of_fits fits
  rw [← holding_of_balance? found] at fits
  obtain ⟨received, deposited, exactly⟩ := deposit_after_withdraw fits paid
  exact ⟨received, by simp [transfer, balanceOf, found, sum, paid, deposited], exactly⟩

-----------------------------------------------------------------------------------------
-- Accepted and refused transfers
-----------------------------------------------------------------------------------------

/-- A transfer is refused and leaves the ledger as it was, or it is accepted: both accounts exist,
the sender's balance covers the amount, and both balances are set in turn.
-/
theorem transfer_cases (l : Ledger) (sender recipient : String) (amount : UInt64)
    : (∃ e, l.transfer sender recipient amount = (.error e, l))
      ∨ ∃ left received,
          l.transfer sender recipient amount
            = (.ok (left, received), (l.set sender left).set recipient received)
          ∧ sender ∈ l.keys ∧ recipient ∈ l.keys
          ∧ left.toNat + amount.toNat = l.holding sender
          ∧ received.toNat = (l.set sender left).holding recipient + amount.toNat := by
  cases found : l.balance? recipient with
  | none => exact .inl ⟨_, transfer_of_missing found⟩
  | some held =>
      by_cases fits : held.toNat + amount.toNat < UInt64.size
      · cases withdrawn : l.withdraw sender amount with
        | mk answer debited =>
            cases answer with
            | error e => exact .inl ⟨e, transfer_of_refused found fits withdrawn⟩
            | ok left =>
                obtain ⟨received, done, exactly⟩ := transfer_of_paid found fits withdrawn
                obtain ⟨rfl, known, enough⟩ := withdraw_ok withdrawn
                exact .inr
                  ⟨left, received, done, known, mem_keys_iff.mpr ⟨held, found⟩, enough, exactly⟩
      · exact .inl ⟨_, transfer_of_large found (Nat.not_lt.mp fits)⟩

theorem transfer_ok {l after : Ledger} {sender recipient : String}
    {amount left received : UInt64}
    (h : l.transfer sender recipient amount = (.ok (left, received), after))
    : sender ∈ l.keys ∧ recipient ∈ l.keys
      ∧ after = (l.set sender left).set recipient received
      ∧ left.toNat + amount.toNat = l.holding sender
      ∧ received.toNat = (l.set sender left).holding recipient + amount.toNat := by
  rcases transfer_cases l sender recipient amount with
    ⟨e, refused⟩ | ⟨left, received, done, known, also, enough, exactly⟩
  · rw [refused] at h
    cases h
  · rw [done] at h
    cases h
    exact ⟨known, also, rfl, enough, exactly⟩

/-- After an accepted transfer the recipient has at least the amount. -/
theorem transfer_receives {l after : Ledger} {sender recipient : String}
    {amount left received : UInt64}
    (h : l.transfer sender recipient amount = (.ok (left, received), after))
    : after.balance? recipient = some received ∧ amount ≤ received := by
  obtain ⟨_, _, rfl, _, exactly⟩ := transfer_ok h
  refine ⟨?_, ?_⟩
  · rw [balance?_set, if_pos rfl]
  · rw [UInt64.le_iff_toNat_le]
    omega

/-- An accepted transfer to another account leaves the sender's balance and then the recipient's,
which is at least the amount.
-/
theorem transfer_balances {l after : Ledger} {sender recipient : String}
    {amount left received : UInt64} (different : recipient ≠ sender)
    (h : l.transfer sender recipient amount = (.ok (left, received), after))
    : after.balance? sender = some left
      ∧ after.balance? recipient = some received
      ∧ amount ≤ received := by
  refine ⟨?_, transfer_receives h⟩
  obtain ⟨_, _, rfl, _, _⟩ := transfer_ok h
  rw [balance?_set, if_neg different, balance?_set, if_pos rfl]

/-- A refused transfer leaves the ledger as it was, whatever it was refused for. -/
theorem transfer_error {l after : Ledger} {sender recipient : String} {amount : UInt64}
    {e : AccountError} (h : l.transfer sender recipient amount = (.error e, after))
    : after = l := by
  rcases transfer_cases l sender recipient amount with
    ⟨_, refused⟩ | ⟨left, received, done, _⟩
  · rw [refused] at h
    exact (Prod.mk.inj h).2.symm
  · rw [done] at h
    cases h

/-- An accepted transfer moves the amount exactly, between accounts and within one. -/
theorem transfer_exact {l after : Ledger} {sender recipient : String} {amount : UInt64}
    {answer : UInt64 × UInt64} (h : l.transfer sender recipient amount = (.ok answer, after))
    : after.exact = exactTransfer sender recipient amount l.exact := by
  obtain ⟨left, received⟩ := answer
  obtain ⟨known, also, rfl, enough, exactly⟩ := transfer_ok h
  obtain ⟨paid, paidFound⟩ := mem_keys_iff.mp known
  obtain ⟨held, heldFound⟩ := mem_keys_iff.mp also
  rw [holding_of_balance? paidFound] at enough
  funext key
  by_cases isRecipient : recipient = key
  · subst isRecipient
    by_cases isSender : sender = recipient
    · subst isSender
      simp only [holding_set, if_true] at exactly
      simp only [exact, exactTransfer, balance?_set, if_true, paidFound, Option.map_some,
        Option.some.injEq]
      omega
    · simp only [holding_set, isSender, if_false, holding_of_balance? heldFound] at exactly
      simp only [exact, exactTransfer, balance?_set, if_true, Ne.symm isSender, if_false,
        heldFound, Option.map_some, Option.some.injEq]
      omega
  · by_cases isSender : sender = key
    · subst isSender
      simp only [exact, exactTransfer, balance?_set, if_true, isRecipient, Ne.symm isRecipient,
        if_false, paidFound, Option.map_some, Option.some.injEq]
      omega
    · simp [exact, exactTransfer, balance?_set, isRecipient, isSender, Ne.symm isRecipient,
        Ne.symm isSender, Function.comp_def]

theorem transfer_total {l after : Ledger} {sender recipient : String} {amount : UInt64}
    {answer : UInt64 × UInt64} (h : l.transfer sender recipient amount = (.ok answer, after))
    : after.total = l.total := by
  obtain ⟨left, received⟩ := answer
  obtain ⟨_, _, rfl, enough, exactly⟩ := transfer_ok h
  have paid := total_set l sender left
  have credited := total_set (l.set sender left) recipient received
  omega

theorem transfer_keys {l after : Ledger} {sender recipient key : String} {amount : UInt64}
    {answer : UInt64 × UInt64} (h : l.transfer sender recipient amount = (.ok answer, after))
    : key ∈ after.keys ↔ key ∈ l.keys := by
  obtain ⟨left, received⟩ := answer
  obtain ⟨known, also, rfl, _, _⟩ := transfer_ok h
  rw [mem_keys_set, mem_keys_set]
  constructor
  · rintro (rfl | rfl | member)
    · exact also
    · exact known
    · exact member
  · exact fun member => .inr (.inr member)

/-- A transfer is accepted when the sender's balance covers the amount and a word can hold the
recipient's with the amount added.
-/
theorem transfer_of_fits {l : Ledger} {sender recipient : String} {paid held amount : UInt64}
    (pays : l.balance? sender = some paid) (enough : amount ≤ paid)
    (found : l.balance? recipient = some held)
    (fits : held.toNat + amount.toNat < UInt64.size)
    : ∃ answer after, l.transfer sender recipient amount = (.ok answer, after) := by
  obtain ⟨left, withdrawn, _⟩ := withdraw_of_le pays enough
  obtain ⟨received, done, _⟩ := transfer_of_paid found fits withdrawn
  exact ⟨(left, received), _, done⟩

end NodeTrial.Ledger
