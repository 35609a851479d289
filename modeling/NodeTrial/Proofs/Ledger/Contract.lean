import NodeTrial.Proofs.Ledger.Transfer

/-! What a transfer answers, set against what it promises: the new balances of both accounts, or why
the amount cannot be moved. Between two accounts that exist both promises are kept. But the recipient
is judged first, as if the amount came from elsewhere: where the sender is missing or is the recipient
itself, a recipient that looks full hides the true answer. And the sender's balance is told before the
amount arrives, which within one account is too early.
-/

namespace NodeTrial.Ledger

variable {l after : Ledger} {sender recipient : String} {amount left received : UInt64}

-----------------------------------------------------------------------------------------
-- New balances
-----------------------------------------------------------------------------------------

/-- An accepted transfer answers the recipient's new balance. What it answers for the sender is the
sender's new balance exactly when the recipient is another account or nothing is moved.
-/
theorem transfer_reports
    (h : l.transfer sender recipient amount = (.ok (left, received), after))
    : after.balanceOf recipient = .ok received
      ∧ after.balanceOf sender = .ok (if sender = recipient then received else left)
      ∧ (after.balanceOf sender = .ok left ↔ sender ≠ recipient ∨ amount = 0) := by
  have arrives : after.balanceOf recipient = .ok received :=
    balanceOf_ok_iff.mpr (transfer_receives h).1
  by_cases within : sender = recipient
  · subst within
    obtain ⟨_, _, _, _, exactly⟩ := transfer_ok h
    rw [holding_set, if_pos rfl] at exactly
    have restored : received = left ↔ amount = 0 := by
      rw [← UInt64.toNat_inj, ← UInt64.toNat_inj, UInt64.toNat_zero]
      omega
    simp [arrives, restored]
  · have leaves : after.balanceOf sender = .ok left :=
      balanceOf_ok_iff.mpr (transfer_balances (Ne.symm within) h).1
    simp [arrives, leaves, within]

/-- Within one account of five an amount of two leaves five, but three is answered for the sender. -/
theorem transfer_reports_within
    : ∃ after,
        (empty.set "a" 5).transfer "a" "a" 2 = (.ok (3, 5), after)
        ∧ after.balanceOf "a" = .ok 5
        ∧ after.balanceOf "a" ≠ .ok 3 := by
  have accepted : (empty.set "a" 5).transfer "a" "a" 2
      = (.ok (3, 5), ((empty.set "a" 5).set "a" 3).set "a" 5) := by rfl
  obtain ⟨recipient, -, sender⟩ := transfer_reports accepted
  exact ⟨_, accepted, recipient, fun same => by simpa using sender.mp same⟩

/-- So the answers of a transfer are not always the new balances. -/
theorem transfer_misreports
    : ¬ ∀ (l after : Ledger) (sender recipient : String) (amount left received : UInt64),
          l.transfer sender recipient amount = (.ok (left, received), after)
          → after.balanceOf sender = .ok left ∧ after.balanceOf recipient = .ok received := by
  intro always
  have answered := always (empty.set "a" 5) _ "a" "a" 2 3 5 rfl
  have five : (((empty.set "a" 5).set "a" 3).set "a" 5).balanceOf "a" = .ok 5 := by rfl
  cases five.symm.trans answered.1

-----------------------------------------------------------------------------------------
-- Refusals
-----------------------------------------------------------------------------------------

/-- Why a transfer is refused. The recipient is looked at before the sender. -/
inductive Refusal (l : Ledger) (sender recipient : String) (amount : UInt64)
    : AccountError → Prop where
  | recipientMissing (missing : recipient ∉ l.keys)
    : Refusal l sender recipient amount (.notFound recipient)
  | recipientFull (known : recipient ∈ l.keys)
    (large : UInt64.size ≤ l.holding recipient + amount.toNat)
    : Refusal l sender recipient amount (.overFunded recipient amount)
  | senderMissing (known : recipient ∈ l.keys)
    (fits : l.holding recipient + amount.toNat < UInt64.size) (missing : sender ∉ l.keys)
    : Refusal l sender recipient amount (.notFound sender)
  | senderShort (known : recipient ∈ l.keys)
    (fits : l.holding recipient + amount.toNat < UInt64.size) (pays : sender ∈ l.keys)
    (short : l.holding sender < amount.toNat)
    : Refusal l sender recipient amount (.underFunded sender amount)

/-- When a transfer is accepted. -/
structure Accepts (l : Ledger) (sender recipient : String) (amount : UInt64) : Prop where
  known : recipient ∈ l.keys
  fits : l.holding recipient + amount.toNat < UInt64.size
  pays : sender ∈ l.keys
  enough : amount.toNat ≤ l.holding sender

theorem accepts_or_refusal (l : Ledger) (sender recipient : String) (amount : UInt64)
    : Accepts l sender recipient amount ∨ ∃ e, Refusal l sender recipient amount e := by
  by_cases known : recipient ∈ l.keys
  · by_cases fits : l.holding recipient + amount.toNat < UInt64.size
    · by_cases pays : sender ∈ l.keys
      · by_cases enough : amount.toNat ≤ l.holding sender
        · exact .inl ⟨known, fits, pays, enough⟩
        · exact .inr ⟨_, .senderShort known fits pays (Nat.not_le.mp enough)⟩
      · exact .inr ⟨_, .senderMissing known fits pays⟩
    · exact .inr ⟨_, .recipientFull known (Nat.not_lt.mp fits)⟩
  · exact .inr ⟨_, .recipientMissing known⟩

theorem transfer_of_accepts (h : Accepts l sender recipient amount)
    : ∃ answer after, l.transfer sender recipient amount = (.ok answer, after) := by
  obtain ⟨held, found⟩ := mem_keys_iff.mp h.known
  obtain ⟨paid, pays⟩ := mem_keys_iff.mp h.pays
  have fits := h.fits
  have enough := h.enough
  rw [holding_of_balance? found] at fits
  rw [holding_of_balance? pays] at enough
  exact transfer_of_fits pays (UInt64.le_iff_toNat_le.mpr enough) found fits

theorem transfer_of_refusal {e : AccountError} (h : Refusal l sender recipient amount e)
    : l.transfer sender recipient amount = (.error e, l) := by
  cases h with
  | recipientMissing missing => exact transfer_of_missing (balance?_eq_none_iff.mpr missing)
  | recipientFull known large =>
      obtain ⟨held, found⟩ := mem_keys_iff.mp known
      rw [holding_of_balance? found] at large
      exact transfer_of_large found large
  | senderMissing known fits missing =>
      obtain ⟨held, found⟩ := mem_keys_iff.mp known
      rw [holding_of_balance? found] at fits
      exact transfer_of_refused found fits (withdraw_of_missing (balance?_eq_none_iff.mpr missing))
  | senderShort known fits pays short =>
      obtain ⟨held, found⟩ := mem_keys_iff.mp known
      obtain ⟨paid, pays⟩ := mem_keys_iff.mp pays
      rw [holding_of_balance? found] at fits
      rw [holding_of_balance? pays] at short
      have less : ¬ amount ≤ paid :=
        fun enough => absurd (UInt64.le_iff_toNat_le.mp enough) (Nat.not_le.mpr short)
      exact transfer_of_refused found fits (withdraw_of_short pays less)

theorem transfer_ok_iff_accepts
    : (∃ answer after, l.transfer sender recipient amount = (.ok answer, after))
      ↔ Accepts l sender recipient amount := by
  refine ⟨fun ⟨answer, after, accepted⟩ => ?_, transfer_of_accepts⟩
  rcases accepts_or_refusal l sender recipient amount with accepts | ⟨e, refusal⟩
  · exact accepts
  · cases accepted.symm.trans (transfer_of_refusal refusal)

theorem transfer_error_iff_refusal {e : AccountError}
    : (l.transfer sender recipient amount).1 = .error e ↔ Refusal l sender recipient amount e := by
  refine ⟨fun failed => ?_, fun refusal => congrArg Prod.fst (transfer_of_refusal refusal)⟩
  rcases accepts_or_refusal l sender recipient amount with accepts | ⟨other, refusal⟩
  · obtain ⟨answer, after, accepted⟩ := transfer_of_accepts accepts
    rw [accepted] at failed
    cases failed
  · rw [transfer_of_refusal refusal] at failed
    exact Except.error.inj failed ▸ refusal

-----------------------------------------------------------------------------------------
-- The promise
-----------------------------------------------------------------------------------------

/-- The balance that the recipient has once the amount is moved: within one account the old one. -/
def credited (l : Ledger) (sender recipient : String) (amount : UInt64) : Nat :=
  if sender = recipient then l.holding recipient else l.holding recipient + amount.toNat

/-- What a transfer promises. It moves the amount when both accounts exist, the sender has it and a
word can hold what the recipient has then. A missing account is named as such, and if none is missing
the error is what is wrong with the sender's or the recipient's balance.
-/
structure AsPromised (l : Ledger) (sender recipient : String) (amount : UInt64) : Prop where
  accepted
    : (∃ answer after, l.transfer sender recipient amount = (.ok answer, after))
      ↔ sender ∈ l.keys ∧ recipient ∈ l.keys ∧ amount.toNat ≤ l.holding sender
        ∧ l.credited sender recipient amount < UInt64.size
  missing
    : sender ∉ l.keys ∨ recipient ∉ l.keys →
        ∃ key, (key = sender ∨ key = recipient) ∧ key ∉ l.keys
          ∧ (l.transfer sender recipient amount).1 = .error (.notFound key)
  refused
    : sender ∈ l.keys → recipient ∈ l.keys →
        ∀ e, (l.transfer sender recipient amount).1 = .error e →
          e = .underFunded sender amount ∧ l.holding sender < amount.toNat
          ∨ e = .overFunded recipient amount
            ∧ UInt64.size ≤ l.credited sender recipient amount

/-- The recipient looks full, although the amount cannot or need not come from elsewhere. -/
structure Misjudged (l : Ledger) (sender recipient : String) (amount : UInt64) : Prop where
  known : recipient ∈ l.keys
  large : UInt64.size ≤ l.holding recipient + amount.toNat
  unfit : sender ∉ l.keys ∨ sender = recipient

theorem credited_le (l : Ledger) (sender recipient : String) (amount : UInt64)
    : l.credited sender recipient amount ≤ l.holding recipient + amount.toNat := by
  unfold credited
  split
  · exact Nat.le_add_right _ _
  · exact Nat.le_refl _

/-- A recipient that is misjudged is refused as full, where another answer was promised. -/
theorem not_asPromised_of_misjudged (h : Misjudged l sender recipient amount)
    : ¬ AsPromised l sender recipient amount := by
  intro promised
  have full : (l.transfer sender recipient amount).1 = .error (.overFunded recipient amount) :=
    transfer_error_iff_refusal.mpr (.recipientFull h.known h.large)
  rcases h.unfit with missing | rfl
  · obtain ⟨key, -, -, answered⟩ := promised.missing (.inl missing)
    cases full.symm.trans answered
  · rcases promised.refused h.known h.known _ full with ⟨impossible, -⟩ | ⟨-, large⟩
    · cases impossible
    · rw [credited, if_pos rfl] at large
      exact absurd (l.holding_lt sender) (Nat.not_lt.mpr large)

theorem accepts_iff_of_judged (judged : ¬ Misjudged l sender recipient amount)
    : Accepts l sender recipient amount
      ↔ sender ∈ l.keys ∧ recipient ∈ l.keys ∧ amount.toNat ≤ l.holding sender
        ∧ l.credited sender recipient amount < UInt64.size := by
  constructor
  · intro h
    exact ⟨h.pays, h.known, h.enough, Nat.lt_of_le_of_lt (l.credited_le ..) h.fits⟩
  · rintro ⟨pays, known, enough, small⟩
    refine ⟨known, Nat.not_le.mp fun large => ?_, pays, enough⟩
    by_cases within : sender = recipient
    · exact judged ⟨known, large, .inr within⟩
    · rw [credited, if_neg within] at small
      exact absurd small (Nat.not_lt.mpr large)

/-- A transfer keeps its promise where the recipient is not misjudged, by the four refusals. -/
theorem asPromised_of_judged (judged : ¬ Misjudged l sender recipient amount)
    : AsPromised l sender recipient amount := by
  refine ⟨transfer_ok_iff_accepts.trans (accepts_iff_of_judged judged), fun absent => ?_,
    fun pays known e failed => ?_⟩
  · rcases accepts_or_refusal l sender recipient amount with accepts | ⟨e, refusal⟩
    · exact absurd absent (by simp [accepts.pays, accepts.known])
    · have answered := transfer_error_iff_refusal.mpr refusal
      cases refusal with
      | recipientMissing missing => exact ⟨recipient, .inr rfl, missing, answered⟩
      | recipientFull known large =>
          have unpaid := absent.resolve_right fun missing => missing known
          exact absurd ⟨known, large, .inl unpaid⟩ judged
      | senderMissing known fits missing => exact ⟨sender, .inl rfl, missing, answered⟩
      | senderShort known fits pays short =>
          exact absurd absent (by simp [pays, known])
  · cases transfer_error_iff_refusal.mp failed with
    | recipientMissing missing => exact absurd known missing
    | recipientFull _ large =>
        have apart : sender ≠ recipient := fun within => judged ⟨known, large, .inr within⟩
        exact .inr ⟨rfl, by rwa [credited, if_neg apart]⟩
    | senderMissing _ _ missing => exact absurd pays missing
    | senderShort _ _ _ short => exact .inl ⟨rfl, short⟩

/-- What a transfer answers in every case, and where that is what it promises: everywhere but at a
recipient that looks full while the sender is missing or is the recipient itself.
-/
theorem transfer_promise (l : Ledger) (sender recipient : String) (amount : UInt64)
    : ((∃ answer after, l.transfer sender recipient amount = (.ok answer, after))
        ↔ Accepts l sender recipient amount)
      ∧ (∀ e,
          (l.transfer sender recipient amount).1 = .error e
          ↔ Refusal l sender recipient amount e)
      ∧ (AsPromised l sender recipient amount ↔ ¬ Misjudged l sender recipient amount) := by
  refine ⟨transfer_ok_iff_accepts, fun e => transfer_error_iff_refusal, ?_, asPromised_of_judged⟩
  exact fun promised misjudged => not_asPromised_of_misjudged misjudged promised

/-- A missing sender is not named when the recipient looks full, and within one account half of what
a word can hold cannot be moved.
-/
theorem transfer_unpromised
    : ¬ AsPromised (empty.set "b" 18446744073709551615) "a" "b" 1
      ∧ ¬ AsPromised (empty.set "a" 9223372036854775808) "a" "a" 9223372036854775808 := by
  constructor
  · exact not_asPromised_of_misjudged ⟨by decide +kernel, by decide +kernel, .inl (by decide +kernel)⟩
  · exact not_asPromised_of_misjudged ⟨by decide +kernel, by decide +kernel, .inr rfl⟩

end NodeTrial.Ledger
