import NodeTrial.Proofs.Node.Simulation

/-! Runs take no notice of what the executor reports. Where another environment answers every
action of a run alike, but for the output and the exit code of completed executor runs, the run is
the same there to the last detail. An executor that cannot be started does end a run.
-/

namespace NodeTrial

-----------------------------------------------------------------------------------------
-- Environments that answer alike
-----------------------------------------------------------------------------------------

/-- After a history another environment answers an action alike: an executor run completes in both
or fails to start for the same reason, and all other answers are the same.
-/
def Environment.Alike (env other : Environment) (past : List Action) : Action → Prop
  | .write text => other.write past text = env.write past text
  | .execute key =>
    (other.execute past key).map (fun _ => ()) = (env.execute past key).map fun _ => ()
  | .fetch ref => other.fetch past ref = env.fetch past ref

/-- Another environment answers every action of a history alike. -/
def Environment.AlikeIn (env other : Environment) (history : List Action) : Prop :=
  ∀ past action, past ++ [action] <+: history → env.Alike other past action

theorem Environment.AlikeIn.of_prefix {env other : Environment} {history longer : List Action}
    (alike : env.AlikeIn other longer) (h : history <+: longer)
    : env.AlikeIn other history :=
  fun past action started => alike past action (started.trans h)

-----------------------------------------------------------------------------------------
-- Indifferent steps
-----------------------------------------------------------------------------------------

namespace Step

variable {α β : Type} {env other : Environment}

/-- A step is the same in two environments as long as these answer its actions alike; what it does
comes after the history before it, and it fails with the executor that it cannot start.
-/
structure Indifferent (env other : Environment) (step there : Step α) : Prop where
  grows : ∀ t, t.history <+: (step t).2.history
  same : ∀ t, env.AlikeIn other (step t).2.history → there t = step t
  stops
    : ∀ t past key e, t.history <+: past → past ++ [.execute key] <+: (step t).2.history →
        env.execute past key = .error e →
        (step t).1 = .error (.io e) ∧ (step t).2.history = past ++ [.execute key]

namespace Indifferent

/-- A step that does not act is the same everywhere. -/
theorem silent {step : Step α} (quiet : ∀ t, (step t).2.history = t.history)
    : Indifferent env other step step where
  grows t := (quiet t).symm ▸ List.prefix_rfl
  same _ _ := rfl
  stops t past key e start acted _ := by
    have longer := acted.length_le
    rw [quiet, List.length_append] at longer
    have shorter := start.length_le
    exact absurd (Nat.le_trans longer shorter) (Nat.not_succ_le_self _)

/-- A step of one action is indifferent if it depends on no more than what is alike. -/
theorem acts {step there : Step α} (action : Action)
    (acted : ∀ t, (step t).2.history = t.history ++ [action])
    (same : ∀ t, env.Alike other t.history action → there t = step t)
    (stops : ∀ t key e, action = .execute key → env.execute t.history key = .error e →
      (step t).1 = .error (.io e))
    : Indifferent env other step there where
  grows t := (acted t).symm ▸ List.prefix_append _ _
  same t alike := same t (alike t.history action ((acted t).symm ▸ List.prefix_rfl))
  stops t past key e start ended failed := by
    rw [acted] at ended ⊢
    have whole : past ++ [.execute key] = t.history ++ [action] := by
      refine ended.eq_of_length_le ?_
      rw [List.length_append, List.length_append]
      exact Nat.add_le_add_right start.length_le 1
    obtain ⟨rfl, last⟩ := List.append_inj' whole rfl
    obtain rfl := List.singleton_inj.mp last
    exact ⟨stops t key e rfl failed, rfl⟩

/-- Two indifferent steps in a row are indifferent. An executor that cannot be started is one of the
first step, which fails then, or comes after all that the first step did.
-/
theorem bind {first there : Step α} {next after : α → Step β}
    (head : Indifferent env other first there)
    (tail : ∀ value, Indifferent env other (next value) (after value))
    : Indifferent env other (first >>= next) (there >>= after) where
  grows t := by
    have reached := head.grows t
    rcases first.fails_or_answers t with ⟨e, s, done⟩ | ⟨value, s, done⟩
    · rw [done] at reached
      exact bind_of_error done ▸ reached
    · rw [done] at reached
      exact bind_of_ok done ▸ reached.trans ((tail value).grows s)
  same t alike := by
    rcases first.fails_or_answers t with ⟨e, s, done⟩ | ⟨value, s, done⟩
    · rw [bind_of_error done] at alike ⊢
      have equal := head.same t (done.symm ▸ alike)
      exact bind_of_error (equal.trans done)
    · rw [bind_of_ok done] at alike ⊢
      have before := alike.of_prefix ((tail value).grows s)
      have equal := head.same t (done.symm ▸ before)
      exact (bind_of_ok (equal.trans done)).trans ((tail value).same s alike)
  stops t past key e start ended failed := by
    rcases first.fails_or_answers t with ⟨found, s, done⟩ | ⟨value, s, done⟩
    · rw [bind_of_error done] at ended ⊢
      have stopped := head.stops t past key e start (done.symm ▸ ended) failed
      rw [done] at stopped
      obtain rfl := Except.error.inj stopped.1
      exact ⟨rfl, stopped.2⟩
    · rw [bind_of_ok done] at ended ⊢
      have later := (tail value).grows s
      by_cases within : (past ++ [Action.execute key]).length ≤ s.history.length
      · have early := List.prefix_of_prefix_length_le ended later within
        have stopped := head.stops t past key e start (done.symm ▸ early) failed
        rw [done] at stopped
        cases stopped.1
      · have within : ¬ past.length + 1 ≤ s.history.length := by
          rwa [List.length_append, List.length_singleton] at within
        have before := List.prefix_of_prefix_length_le later
          ((List.prefix_append past _).trans ended) (by omega)
        exact (tail value).stops s past key e before ended failed

end Indifferent

end Step

-----------------------------------------------------------------------------------------
-- The steps of a run
-----------------------------------------------------------------------------------------

namespace Tester

open Step (Indifferent)

variable {env other : Environment} {config : TesterConfig}

/-- Starting the executor answers nothing but whether it could be started. -/
theorem runExecutor_bind_pure (key : String) (t : Tester)
    : (runExecutor env key >>= fun _ => pure ()) t
      = (((env.execute t.history key).map fun _ => ()).mapError .io, t.acted [.execute key]) := by
  rw [Step.bind_pure]
  cases ran : env.execute t.history key with
  | error e => simp [runExecutor, perform, ran, Except.map, acted]
  | ok output => simp [runExecutor, perform, ran, Except.map, acted]

/-- Nothing that a completed executor run reports outlives the handing over of a transaction. -/
theorem executeTransaction_indifferent (key : String) (tx : Transaction)
    : Indifferent env other (executeTransaction env key tx) (executeTransaction other key tx) := by
  rw [executeTransaction_eq, executeTransaction_eq]
  refine .bind (.acts (.write tx.fileText) (fun _ => rfl) (fun t alike => ?_) nofun) fun _ => ?_
  · have alike : other.write t.history tx.fileText = env.write t.history tx.fileText := alike
    simp only [writeFile, perform, alike]
  · refine .acts (.execute key) (fun t => ?_) (fun t alike => ?_) fun t key' e same failed => ?_
    · rw [runExecutor_bind_pure, acted_history]
    · rw [runExecutor_bind_pure, runExecutor_bind_pure, alike]
    · obtain rfl := Action.execute.inj same
      rw [runExecutor_bind_pure, failed]
      rfl

theorem getValue_indifferent (ref : String)
    : Indifferent env other (getValue env config ref) (getValue other config ref) := by
  refine .bind (.silent fun _ => rfl) fun _ => .bind ?_ fun _ => .silent fun _ => rfl
  refine .acts (.fetch ref) (fun _ => rfl) (fun t alike => ?_) nofun
  have alike : other.fetch t.history ref = env.fetch t.history ref := alike
  simp only [perform, alike]

theorem serverBalance_indifferent (address : String)
    : Indifferent env other (serverBalance env config address)
        (serverBalance other config address) :=
  .bind (getValue_indifferent _) fun _ => .silent fun _ => rfl

/-- Polling is indifferent, by induction on the reads left. -/
theorem poll_indifferent (address : String) (expected : UInt64) (left : Nat)
    : ∀ actual, Indifferent env other (poll env config address expected left actual)
        (poll other config address expected left actual) := by
  induction left with
  | zero => exact fun _ => .silent fun _ => rfl
  | succ left ih =>
      intro _
      refine .bind (serverBalance_indifferent address) fun actual => ?_
      split
      · exact .silent fun _ => rfl
      · exact ih actual

theorem checkBalance_indifferent (key : String)
    : Indifferent env other (checkBalance env config key) (checkBalance other config key) := by
  refine .bind (.silent fun _ => rfl) fun address => .bind (.silent fun _ => rfl) fun balance => ?_
  exact poll_indifferent address balance _ 0

theorem seedAccount_indifferent (key : String) (balance : UInt64)
    : Indifferent env other (seedAccount env config key balance)
        (seedAccount other config key balance) := by
  refine .bind (.silent fun _ => rfl) fun nonce => ?_
  refine .bind (executeTransaction_indifferent key _) fun _ => ?_
  refine .bind (.bind (getValue_indifferent _) fun _ => .silent fun _ => rfl) fun known => ?_
  exact .bind (.silent fun _ => rfl) fun _ => .silent fun _ => rfl

/-- Seeding is indifferent, by induction on the accounts. -/
theorem seedAccounts_indifferent (entries : List (String × UInt64))
    : Indifferent env other (seedAccounts env config entries)
        (seedAccounts other config entries) := by
  induction entries with
  | nil => exact .silent fun _ => rfl
  | cons entry entries ih => exact .bind (seedAccount_indifferent entry.1 entry.2) fun _ => ih

theorem setInitialBalances_indifferent
    : Indifferent env other (setInitialBalances env config)
        (setInitialBalances other config) := by
  have seeding (t : Tester)
      : Indifferent env other (seedAccounts env config t.ledger.balances.entries)
          (seedAccounts other config t.ledger.balances.entries) :=
    seedAccounts_indifferent t.ledger.balances.entries
  exact ⟨fun t => (seeding t).grows t, fun t => (seeding t).same t, fun t => (seeding t).stops t⟩

theorem transferOnce_indifferent
    : Indifferent env other (transferOnce env config) (transferOnce other config) := by
  refine .bind (.silent fun _ => rfl) fun (sender, receiver) => ?_
  refine .bind (.silent fun _ => rfl) fun address => .bind (.silent fun _ => rfl) fun nonce => ?_
  refine .bind (executeTransaction_indifferent sender _) fun _ => ?_
  refine .bind (.silent fun _ => rfl) fun _ => .bind (checkBalance_indifferent sender) fun _ => ?_
  exact .bind (checkBalance_indifferent receiver) fun _ => .silent fun _ => rfl

/-- Transfers are indifferent, by induction on their number. -/
theorem transfers_indifferent (count : Nat)
    : Indifferent env other (transfers env config count) (transfers other config count) := by
  induction count with
  | zero => exact .silent fun _ => rfl
  | succ count ih => exact .bind transferOnce_indifferent fun _ => ih

theorem runFor_indifferent (count : Nat)
    : Indifferent env other (runFor env config count) (runFor other config count) := by
  refine .bind (.silent fun t => ?_) fun _ => ?_
  · unfold requireTwo
    split
    · rfl
    · rfl
  · exact .bind setInitialBalances_indifferent fun _ => transfers_indifferent count

/-- A run is the same in every environment that answers its actions alike: same end, same actions,
and same ledger, nonces and keys. What completed executor runs report has no part in that, but an
executor that cannot be started is the last action of a run, which fails with the reason.
-/
theorem run_indifferent (env other : Environment) (config : TesterConfig) (patience : Nat)
    (t : Tester)
    : (env.AlikeIn other (run env config patience t).2.history →
        run other config patience t = run env config patience t)
      ∧ ∀ past key e, t.history <+: past →
          past ++ [.execute key] <+: (run env config patience t).2.history →
          env.execute past key = .error e →
            (run env config patience t).1 = .error (.io e)
            ∧ (run env config patience t).2.history = past ++ [.execute key] := by
  have indifferent : Indifferent env other (run env config patience)
      (run other config patience) := by
    unfold run
    split
    · exact .bind (runFor_indifferent _) fun _ => .silent fun _ => rfl
    · exact .bind (runFor_indifferent _) fun _ => .silent fun _ => rfl
  exact ⟨indifferent.same t, indifferent.stops t⟩

/-- The surroundings of an honest node whose executor complains and exits with an error. -/
def complaining : Environment :=
  { Node.prefixed.environment with
    execute := fun _ _ => .ok ⟨some 3, "", "cannot sign"⟩ }

/-- Two transfers are made and verified also where every executor run reports an error. -/
theorem run_indifferent_complaining
    : let t : Tester := .start Node.twoAccounts ⟨[], 0⟩
      Node.sent.hadError = false
      ∧ (∀ past key, (complaining.execute past key).map ToolOutput.hadError = .ok true)
      ∧ Node.prefixed.environment.AlikeIn complaining
          (run Node.prefixed.environment Node.twoTransfers 0 t).2.history
      ∧ run complaining Node.twoTransfers 0 t = run Node.prefixed.environment Node.twoTransfers 0 t
      ∧ (run complaining Node.twoTransfers 0 t).1 = .ok .finished := by
  intro t
  have alike : Node.prefixed.environment.AlikeIn complaining
      (run Node.prefixed.environment Node.twoTransfers 0 t).2.history := by
    intro past action _
    cases action <;> rfl
  have same := (run_indifferent _ complaining Node.twoTransfers 0 t).1 alike
  obtain ⟨u, ended, _⟩ := Node.run_of_canPay Node.prefixed.environment_honest
    Node.twoAccounts_wellAddressed (by decide) (by decide) (by decide)
    (rfl : Node.twoTransfers.iterations = some 2) (.inr ⟨"alice", 5, by decide, by decide⟩)
    ⟨[], 0⟩ 0
  refine ⟨by decide, fun _ _ => ?_, alike, same, by rw [same, ended]⟩
  exact congrArg Except.ok (by decide : ToolOutput.hadError ⟨some 3, "", "cannot sign"⟩ = true)

end Tester

end NodeTrial
