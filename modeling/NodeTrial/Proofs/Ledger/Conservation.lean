import NodeTrial.Proofs.Ledger.Transfer

/-! Conservation. Over any sequence of calls the sum of all balances changes by the accepted
deposits and withdrawals alone, and each call on the way is all or nothing: a refused one changes
no account, an accepted one changes the accounts it names, and only a deposit opens an account.
-/

namespace NodeTrial.Ledger

/-- A call that may change a ledger. -/
inductive Call where
  | deposit (key : String) (amount : UInt64)
  | withdraw (key : String) (amount : UInt64)
  | transfer (sender recipient : String) (amount : UInt64)
  deriving DecidableEq, Repr

namespace Call

def names : Call → List String
  | .deposit key _ | .withdraw key _ => [key]
  | .transfer sender recipient _ => [sender, recipient]

/-- What a call answers, the new balances of the accounts it names, and the ledger after it. -/
def run (l : Ledger) : Call → Outcome (List UInt64)
  | .deposit key amount => (l.deposit key amount).map (Except.map fun held => [held]) id
  | .withdraw key amount => (l.withdraw key amount).map (Except.map fun held => [held]) id
  | .transfer sender recipient amount =>
      (l.transfer sender recipient amount).map
        (Except.map fun (left, received) => [left, received]) id

/-- The amount that a call deposits in a ledger: that of a deposit, if it is accepted. -/
def deposited (l : Ledger) (call : Call) : Nat :=
  match call, (call.run l).1 with
  | .deposit _ amount, .ok _ => amount.toNat
  | _, _ => 0

/-- The amount that a call withdraws from a ledger: that of a withdrawal, if it is accepted. -/
def withdrawn (l : Ledger) (call : Call) : Nat :=
  match call, (call.run l).1 with
  | .withdraw _ amount, .ok _ => amount.toNat
  | _, _ => 0

end Call

/-- The ledger after a sequence of calls, accepted or not. -/
def after (l : Ledger) : List Call → Ledger
  | [] => l
  | call :: rest => (call.run l).2.after rest

/-- The sum of a quantity that each call of a sequence has in the ledger it is made on. -/
def sumAlong (quantity : Ledger → Call → Nat) (l : Ledger) : List Call → Nat
  | [] => 0
  | call :: rest => quantity l call + sumAlong quantity (call.run l).2 rest

/-- What every call keeps to. An error changes nothing; a transfer that has withdrawn also
deposits; accounts stay, an accepted deposit alone opens one, and accounts that the call does not
name keep their balance.
-/
structure CallLaw (l : Ledger) (call : Call) : Prop where
  atomic : ∀ e, (call.run l).1 = .error e → (call.run l).2 = l
  completes
    : ∀ sender recipient amount held left debited,
        call = .transfer sender recipient amount
        → l.balance? recipient = some held
        → (sum? held amount).isSome
        → l.withdraw sender amount = (.ok left, debited)
        → ∃ received, debited.deposit recipient amount
            = (.ok received, debited.set recipient received)
  kept : ∀ key ∈ l.keys, key ∈ (call.run l).2.keys
  opened
    : ∀ key ∈ (call.run l).2.keys,
        key ∉ l.keys
        → ∃ amount answer, call = .deposit key amount ∧ (call.run l).1 = .ok answer
  frame : ∀ key ∉ call.names, (call.run l).2.balance? key = l.balance? key

/-- What an accepted call answers and leaves behind: it has set the balances of the accounts that
it names, and an account must exist already unless the call is a deposit.
-/
inductive Accepted (l : Ledger) : Call → List UInt64 → Ledger → Prop
  | deposit {key amount held} (exactly : held.toNat = l.holding key + amount.toNat)
    : Accepted l (.deposit key amount) [held] (l.set key held)
  | withdraw {key amount held} (known : key ∈ l.keys)
    (exactly : held.toNat + amount.toNat = l.holding key)
    : Accepted l (.withdraw key amount) [held] (l.set key held)
  | transfer {sender recipient amount left received} (pays : sender ∈ l.keys)
    (receives : recipient ∈ l.keys)
    (enough : left.toNat + amount.toNat = l.holding sender)
    (exactly : received.toNat = (l.set sender left).holding recipient + amount.toNat)
    : Accepted l (.transfer sender recipient amount) [left, received]
        ((l.set sender left).set recipient received)

/-- A call is refused and leaves the ledger as it was, or it is accepted, by the cases of the
operation that it makes.
-/
theorem Call.run_cases (l : Ledger) (call : Call)
    : (∃ e, call.run l = (.error e, l))
      ∨ ∃ answer next, call.run l = (.ok answer, next) ∧ Accepted l call answer next := by
  cases call with
  | deposit key amount =>
      cases done : l.deposit key amount with
      | mk answer next =>
          cases answer with
          | error e =>
              obtain ⟨rfl, _⟩ := deposit_error done
              exact .inl ⟨e, by simp [Call.run, done, Except.map]⟩
          | ok held =>
              obtain ⟨rfl, exactly⟩ := deposit_ok done
              exact .inr ⟨[held], _, by simp [Call.run, done, Except.map], .deposit exactly⟩
  | withdraw key amount =>
      cases done : l.withdraw key amount with
      | mk answer next =>
          cases answer with
          | error e =>
              have same := withdraw_error done
              subst same
              exact .inl ⟨e, by simp [Call.run, done, Except.map]⟩
          | ok held =>
              obtain ⟨rfl, known, exactly⟩ := withdraw_ok done
              exact .inr
                ⟨[held], _, by simp [Call.run, done, Except.map], .withdraw known exactly⟩
  | transfer sender recipient amount =>
      rcases transfer_cases l sender recipient amount with
        ⟨e, refused⟩ | ⟨left, received, done, pays, receives, enough, exactly⟩
      · exact .inl ⟨e, by simp [Call.run, refused, Except.map]⟩
      · exact .inr ⟨[left, received], _, by simp [Call.run, done, Except.map],
          .transfer pays receives enough exactly⟩

theorem Accepted.kept {l next : Ledger} {call : Call} {answer : List UInt64} {key : String}
    (accepted : Accepted l call answer next) (member : key ∈ l.keys)
    : key ∈ next.keys := by
  cases accepted with
  | deposit | withdraw => exact mem_keys_set.mpr (.inr member)
  | transfer => exact mem_keys_set.mpr (.inr (mem_keys_set.mpr (.inr member)))

/-- An account that an accepted call has opened is the one of a deposit. -/
theorem Accepted.opened {l next : Ledger} {call : Call} {answer : List UInt64} {key : String}
    (accepted : Accepted l call answer next) (member : key ∈ next.keys) (fresh : key ∉ l.keys)
    : ∃ amount, call = .deposit key amount := by
  cases accepted with
  | deposit =>
      rcases mem_keys_set.mp member with rfl | old
      · exact ⟨_, rfl⟩
      · exact absurd old fresh
  | withdraw known =>
      rcases mem_keys_set.mp member with rfl | old
      · exact absurd known fresh
      · exact absurd old fresh
  | transfer pays receives =>
      rcases mem_keys_set.mp member with rfl | member
      · exact absurd receives fresh
      · rcases mem_keys_set.mp member with rfl | old
        · exact absurd pays fresh
        · exact absurd old fresh

/-- An accepted call keeps the balances of all accounts that it does not name. -/
theorem Accepted.frame {l next : Ledger} {call : Call} {answer : List UInt64} {key : String}
    (accepted : Accepted l call answer next) (other : key ∉ call.names)
    : next.balance? key = l.balance? key := by
  cases accepted with
  | deposit | withdraw =>
      rw [balance?_set, if_neg fun same => other (by simp [Call.names, same])]
  | transfer =>
      rw [balance?_set, if_neg fun same => other (by simp [Call.names, same]),
        balance?_set, if_neg fun same => other (by simp [Call.names, same])]

/-- Every call keeps to the law, on every ledger. -/
theorem callLaw (l : Ledger) (call : Call) : CallLaw l call := by
  refine { atomic := ?_, completes := ?_, kept := ?_, opened := ?_, frame := ?_ }
  · intro e refused
    rcases Call.run_cases l call with ⟨_, done⟩ | ⟨answer, next, done, _⟩
    · rw [done]
    · rw [done] at refused
      cases refused
  · intro sender recipient amount held left debited _ found checked paid
    obtain ⟨more, sum⟩ := Option.isSome_iff_exists.mp checked
    have fits : l.holding recipient + amount.toNat < UInt64.size := by
      rw [holding_of_balance? found]
      exact (sum?_eq_some sum).2
    obtain ⟨received, deposited, _⟩ := deposit_after_withdraw fits paid
    exact ⟨received, deposited⟩
  · intro key member
    rcases Call.run_cases l call with ⟨_, done⟩ | ⟨answer, next, done, accepted⟩
    · rwa [done]
    · rw [done]
      exact accepted.kept member
  · intro key member fresh
    rcases Call.run_cases l call with ⟨_, done⟩ | ⟨answer, next, done, accepted⟩
    · rw [done] at member
      exact absurd member fresh
    · rw [done] at member ⊢
      obtain ⟨amount, same⟩ := accepted.opened member fresh
      exact ⟨amount, answer, same, rfl⟩
  · intro key other
    rcases Call.run_cases l call with ⟨_, done⟩ | ⟨answer, next, done, accepted⟩
    · rw [done]
    · rw [done]
      exact accepted.frame other

/-- One call changes the sum of all balances by what it deposits and withdraws. -/
theorem Call.run_total (l : Ledger) (call : Call)
    : (call.run l).2.total + call.withdrawn l = l.total + call.deposited l := by
  rcases Call.run_cases l call with ⟨e, done⟩ | ⟨answer, next, done, accepted⟩
  · cases call <;> simp [Call.withdrawn, Call.deposited, done]
  · cases accepted with
    | @deposit key amount held exactly =>
        have moved := total_set l key held
        simp only [Call.withdrawn, Call.deposited, done]
        rw [exactly] at moved
        omega
    | @withdraw key amount held known exactly =>
        have moved := total_set l key held
        simp only [Call.withdrawn, Call.deposited, done]
        rw [← exactly] at moved
        omega
    | @transfer sender recipient amount left received pays receives enough exactly =>
        have paid := total_set l sender left
        have credited := total_set (l.set sender left) recipient received
        simp only [Call.withdrawn, Call.deposited, done]
        rw [← enough] at paid
        rw [exactly] at credited
        omega

/-- The sum of all balances after a sequence of calls, by induction on the sequence. -/
theorem after_total (l : Ledger) (calls : List Call)
    : (l.after calls).total + sumAlong Call.withdrawn l calls
      = l.total + sumAlong Call.deposited l calls := by
  induction calls generalizing l with
  | nil => rfl
  | cons call rest ih =>
      have first := Call.run_total l call
      have later := ih (call.run l).2
      simp only [after, sumAlong]
      omega

theorem after_kept {l : Ledger} {key : String} (calls : List Call) (member : key ∈ l.keys)
    : key ∈ (l.after calls).keys := by
  induction calls generalizing l with
  | nil => exact member
  | cons call rest ih => exact ih ((callLaw l call).kept key member)

/-- An account that is there after a sequence of calls was there before, or one of the calls was
an accepted deposit to it.
-/
theorem after_opened {l : Ledger} {key : String} (calls : List Call)
    (member : key ∈ (l.after calls).keys)
    : key ∈ l.keys
      ∨ ∃ before amount rest answer,
          calls = before ++ .deposit key amount :: rest
          ∧ ((Call.deposit key amount).run (l.after before)).1 = .ok answer := by
  induction calls generalizing l with
  | nil => exact .inl member
  | cons call rest ih =>
      rcases ih member with old | ⟨before, amount, later, answer, rfl, accepted⟩
      · by_cases known : key ∈ l.keys
        · exact .inl known
        · obtain ⟨amount, answer, rfl, accepted⟩ := (callLaw l call).opened key old known
          exact .inr ⟨[], amount, rest, answer, rfl, accepted⟩
      · exact .inr ⟨call :: before, amount, later, answer, rfl, accepted⟩

theorem after_frame {l : Ledger} {key : String} (calls : List Call)
    (other : ∀ call ∈ calls, key ∉ call.names)
    : (l.after calls).balance? key = l.balance? key := by
  induction calls generalizing l with
  | nil => rfl
  | cons call rest ih =>
      have later := ih (l := (call.run l).2) fun next member =>
        other next (List.mem_cons_of_mem _ member)
      exact later.trans ((callLaw l call).frame key (other call List.mem_cons_self))

/-- Over any sequence of calls every call keeps to the law on the ledger that it meets, no account
is lost, an accepted deposit alone opens one, accounts that are not named keep their balance, and
the sum of all balances changes by exactly the accepted deposits less the accepted withdrawals.
-/
theorem after_conserves (l : Ledger) (calls : List Call)
    : (∀ before call rest, calls = before ++ call :: rest → CallLaw (l.after before) call)
      ∧ (∀ key ∈ l.keys, key ∈ (l.after calls).keys)
      ∧ (∀ key ∈ (l.after calls).keys,
          key ∈ l.keys
          ∨ ∃ before amount rest answer,
              calls = before ++ .deposit key amount :: rest
              ∧ ((Call.deposit key amount).run (l.after before)).1 = .ok answer)
      ∧ (∀ key, (∀ call ∈ calls, key ∉ call.names)
          → (l.after calls).balance? key = l.balance? key)
      ∧ ((l.after calls).total : Int)
        = l.total + sumAlong Call.deposited l calls
          - sumAlong Call.withdrawn l calls := by
  refine ⟨?_, ?_, ?_, ?_, ?_⟩
  · exact fun before call _ _ => callLaw (l.after before) call
  · exact fun key member => after_kept calls member
  · exact fun key member => after_opened calls member
  · exact fun key other => after_frame calls other
  · have conserved := after_total l calls
    omega

end NodeTrial.Ledger
