import NodeTrial.Proofs.Node.Simulation

/-! Booking. A transfer is booked after its executor has run, and the ledger may refuse it then:
accounts are chosen by what the sender can pay, not by what the receiver can take. So a submitted
transfer is missed exactly when a word cannot hold the receiver's balance with the amount added.
-/

namespace NodeTrial.Tester

variable {env : Environment} {config : TesterConfig} {t u : Tester} {sender receiver : String}

/-- From one state to another a transaction of a key was submitted first of all: its file was
written and the executor has run on it.
-/
def Submitted (env : Environment) (t u : Tester) (key : String) : Prop :=
  ∃ text,
    t.history ++ [.write text, .execute key] <+: u.history ∧ Executes env t.history key text

theorem Submitted.exists_longer {key : String} (h : Submitted env t u key)
    : ∃ text rest,
        u.history = t.history ++ [.write text, .execute key] ++ rest
        ∧ Executes env t.history key text := by
  obtain ⟨text, ⟨rest, same⟩, executes⟩ := h
  exact ⟨text, rest, same.symm, executes⟩

/-- A submitted transfer was handed to the executor with the receiver's address, and what remains
is to settle it: in the two other cases of a transfer the executor has not run.
-/
theorem transferOnce_of_submitted
    (select : (t.ledger.select config.amount t.words).1 = .ok (sender, receiver))
    (submitted : Submitted env t (transferOnce env config t).2 sender)
    : ∃ address,
        transferOnce env config t
          = settleTransfer env config sender receiver (t.submitted config sender address) := by
  obtain ⟨text, rest, longer, executes⟩ := submitted.exists_longer
  cases known : t.keys.publicKey? receiver with
  | none =>
      rw [transferOnce_of_unknown select known, chosen_history, List.append_assoc,
        List.self_eq_append_right] at longer
      cases longer
  | some address =>
      by_cases sent : Executes env t.history sender (t.transferTo config sender address).fileText
      · exact ⟨address, transferOnce_of_executes select known sent⟩
      · obtain ⟨e, actions, failed, two⟩ := transferOnce_of_unsent select known sent
        rw [failed, acted_history, prepared_history, List.append_assoc,
          List.append_cancel_left_eq] at longer
        rcases two with rfl | rfl
        · simp at longer
        · simp only [List.cons_append, List.cons.injEq, Action.write.injEq] at longer
          exact absurd (longer.1 ▸ executes) sent

/-- A chosen transfer that is refused after its executor run leaves the ledger without it. -/
theorem transferOnce_of_large {address : String}
    (select : (t.ledger.select config.amount t.words).1 = .ok (sender, receiver))
    (known : t.keys.publicKey? receiver = some address)
    (executes : Executes env t.history sender (t.transferTo config sender address).fileText)
    (large : UInt64.size ≤ t.ledger.holding receiver + config.amount.toNat)
    : transferOnce env config t
      = (.error (.account (.overFunded receiver config.amount)),
          t.submitted config sender address) := by
  rw [transferOnce_of_executes select known executes]
  apply settleTransfer_of_refused
  rcases Ledger.transfer_of_select select with ⟨fits, _⟩ | ⟨_, refused⟩
  · exact absurd fits (Nat.not_lt.mpr large)
  · exact refused

/-- A chosen transfer is accepted by the ledger exactly when a word can hold the receiver's balance
with the amount added. Once it was submitted, the ledger has it in just that case when the transfer
returns, whatever it returns; otherwise the ledger is as before and its refusal is the answer.
-/
theorem transferOnce_booked_iff
    (select : (t.ledger.select config.amount t.words).1 = .ok (sender, receiver))
    : ((∃ answer after, t.ledger.transfer sender receiver config.amount = (.ok answer, after))
        ↔ t.ledger.holding receiver + config.amount.toNat < UInt64.size)
      ∧ ∀ result u,
          transferOnce env config t = (result, u)
          → Submitted env t u sender
          → (u.ledger.exact = Ledger.exactTransfer sender receiver config.amount t.ledger.exact
              ↔ t.ledger.holding receiver + config.amount.toNat < UInt64.size)
            ∧ (u.ledger = t.ledger
                ∧ result = .error (.account (.overFunded receiver config.amount))
              ∨ t.ledger.holding receiver + config.amount.toNat < UInt64.size) := by
  obtain ⟨_, _, ⟨held, found⟩, different⟩ := Ledger.select_ok select
  rcases Ledger.transfer_of_select select with ⟨fits, answer, after, booked⟩ | ⟨large, refused⟩
  · refine ⟨iff_of_true ⟨answer, after, booked⟩ fits, fun result u run submitted => ?_⟩
    obtain rfl : (transferOnce env config t).2 = u := congrArg Prod.snd run
    obtain ⟨address, settles⟩ := transferOnce_of_submitted select submitted
    have reads : Reads _ (settleTransfer env config sender receiver
        (t.submitted config sender address)).2 :=
      settleTransfer_of_booked booked
    refine ⟨iff_of_true ?_ fits, .inr fits⟩
    rw [settles, reads.ledger_eq]
    exact Ledger.transfer_exact booked
  · have unfit := Nat.not_lt.mpr large
    have unbooked : ¬ ∃ answer after,
        t.ledger.transfer sender receiver config.amount = (.ok answer, after) := by
      rintro ⟨answer, after, booked⟩
      rw [refused] at booked
      cases booked
    refine ⟨iff_of_false unbooked unfit, fun result u run submitted => ?_⟩
    obtain rfl : (transferOnce env config t).2 = u := congrArg Prod.snd run
    obtain ⟨address, settles⟩ := transferOnce_of_submitted select submitted
    have stays : settleTransfer env config sender receiver (t.submitted config sender address)
        = (.error (.account (.overFunded receiver config.amount)),
            t.submitted config sender address) :=
      settleTransfer_of_refused refused
    rw [settles, stays] at run ⊢
    have positive : 0 < config.amount.toNat := by
      have below : held.toNat < UInt64.size := held.toNat_lt
      rw [Ledger.holding_of_balance? found] at large
      omega
    have missed := (Ledger.exactTransfer_ne found different positive).symm
    exact ⟨iff_of_false missed unfit, .inl ⟨rfl, (congrArg Prod.fst run).symm⟩⟩

/-- A ledger whose first account can take no more. -/
def fullFirst : Ledger :=
  (Ledger.empty.set "a" 18446744073709551615).set "b" 5

def oneTransfer : TesterConfig :=
  { Node.twoTransfers with
    amount := 5
    iterations := some 1 }

theorem fullFirst_wellAddressed : Node.prefixed.WellAddressed fullFirst.keys := by
  have keys : fullFirst.keys = ["a", "b"] := by decide +kernel
  rw [keys]
  exact Node.prefixed_wellAddressed (by decide) (by decide)

def secondPays : Words :=
  .ofList [2147483648, 0]

/-- After both accounts were seeded at an honest node, the second one pays the first: the executor
runs, and then the ledger refuses the transfer.
-/
theorem transferOnce_fullFirst
    : ∃ t, setInitialBalances Node.prefixed.environment oneTransfer (.start fullFirst secondPays)
          = (.ok (), t)
        ∧ t.ledger = fullFirst
        ∧ (t.ledger.select oneTransfer.amount t.words).1 = .ok ("b", "a")
        ∧ transferOnce Node.prefixed.environment oneTransfer t
          = (.error (.account (.overFunded "a" 5)), t.submitted oneTransfer "b" "0xa")
        ∧ Submitted Node.prefixed.environment t (t.submitted oneTransfer "b" "0xa") "b" := by
  have honest := Node.prefixed.environment_honest
  obtain ⟨t, seeding, ledger, words, mirrors⟩ :=
    Node.setInitialBalances_mirrors honest fullFirst_wellAddressed
      (by decide : oneTransfer.server.isBase) secondPays
  have select : (t.ledger.select oneTransfer.amount t.words).1 = .ok ("b", "a") := by
    rw [ledger, words]
    rfl
  have known : t.keys.publicKey? "a" = some "0xa" :=
    (mirrors.known "a" "0xa").mpr ⟨by decide +kernel, rfl⟩
  have executes := honest.executesAny t.history "b" (t.transferTo oneTransfer "b" "0xa").fileText
  have large : UInt64.size ≤ t.ledger.holding "a" + oneTransfer.amount.toNat := by
    rw [ledger]
    decide +kernel
  exact ⟨t, seeding, ledger, select, transferOnce_of_large select known executes large,
    _, List.prefix_refl _, executes⟩

/-- The second account's transfer was submitted, and as the first one is full it was not booked. -/
theorem transferOnce_booked_iff_fullFirst
    : ∃ t u,
        setInitialBalances Node.prefixed.environment oneTransfer (.start fullFirst secondPays)
          = (.ok (), t)
        ∧ Submitted Node.prefixed.environment t u "b"
        ∧ (u.ledger.exact = Ledger.exactTransfer "b" "a" oneTransfer.amount t.ledger.exact
          ↔ t.ledger.holding "a" + oneTransfer.amount.toNat < UInt64.size)
        ∧ ¬ t.ledger.holding "a" + oneTransfer.amount.toNat < UInt64.size := by
  obtain ⟨t, seeding, ledger, select, run, submitted⟩ := transferOnce_fullFirst
  have booked := (transferOnce_booked_iff select).2 _ _ run submitted
  refine ⟨t, _, seeding, submitted, booked.1, ?_⟩
  rw [ledger]
  decide +kernel

/-- So not every transfer that was submitted after seeding is in the ledger when it returns. -/
theorem submitted_unbooked
    : ¬ ∀ (env : Environment) (config : TesterConfig) (l : Ledger) (words : Words) (t u : Tester)
          (sender receiver : String) (result : Except TesterError (String × String)),
          setInitialBalances env config (.start l words) = (.ok (), t)
          → (t.ledger.select config.amount t.words).1 = .ok (sender, receiver)
          → transferOnce env config t = (result, u)
          → Submitted env t u sender
          → u.ledger.exact = Ledger.exactTransfer sender receiver config.amount t.ledger.exact := by
  intro always
  obtain ⟨t, seeding, ledger, select, run, submitted⟩ := transferOnce_fullFirst
  have booked := always _ _ _ _ _ _ _ _ _ seeding select run submitted
  have full : t.ledger.balance? "a" = some 18446744073709551615 := by
    rw [ledger]
    decide +kernel
  exact Ledger.exactTransfer_ne full (by decide) (by decide) booked.symm

end NodeTrial.Tester
