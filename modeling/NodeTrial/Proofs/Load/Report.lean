import NodeTrial.Load.Run
import NodeTrial.Proofs.Result

/-! Reports of load runs. An index stands in a report's list of errors exactly when the request at
that index of the plan came back with an error, and in the list of missing responses exactly when
its request did not come back; all other requests are counted as successful.
-/

namespace NodeTrial.Load

namespace Outcome

theorem isError_of_iff {status : Option Status}
    : (Outcome.of status).isError = true ↔ ∃ s, status = some s ∧ s.isError = true := by
  cases status with
  | none => simp [Outcome.of, isError]
  | some s => cases error : s.isError <;> simp [Outcome.of, isError, error]

theorem isMissing_of_iff {status : Option Status}
    : (Outcome.of status).isMissing = true ↔ status = none := by
  cases status with
  | none => simp [Outcome.of, isMissing]
  | some s => cases error : s.isError <;> simp [Outcome.of, isMissing, error]

/-- No outcome is both an error and the lack of a response. -/
theorem countP_le (outcomes : List Outcome)
    : outcomes.countP isError + outcomes.countP isMissing ≤ outcomes.length := by
  induction outcomes with
  | nil => exact Nat.le_refl 0
  | cons o rest ih =>
      cases o <;> simp [List.countP_cons, isError, isMissing] <;> omega

end Outcome

namespace Report

variable {test : Outcome → Bool} {outcomes : List Outcome}

/-- The indices at which a test holds, counted from the first one on. -/
theorem mem_indicesFrom
    : ∀ {index i : Nat},
        i ∈ indicesFrom test index outcomes
          ↔ ∃ k o, i = index + k ∧ outcomes[k]? = some o ∧ test o = true := by
  induction outcomes with
  | nil => simp [indicesFrom]
  | cons first rest ih =>
      intro index i
      have shift (k : Nat) : index + 1 + k = index + (k + 1) := by omega
      have later
          : (∃ k o, i = index + k ∧ (first :: rest)[k]? = some o ∧ test o = true)
            ↔ i = index ∧ test first = true ∨ i ∈ indicesFrom test (index + 1) rest := by
        rw [ih]
        constructor
        · rintro ⟨k, o, rfl, found, holds⟩
          cases k with
          | zero => exact .inl ⟨rfl, Option.some.inj found ▸ holds⟩
          | succ k => exact .inr ⟨k, o, (shift k).symm, found, holds⟩
        · rintro (⟨rfl, holds⟩ | ⟨k, o, rfl, found, holds⟩)
          · exact ⟨0, first, rfl, rfl, holds⟩
          · exact ⟨k + 1, o, shift k, found, holds⟩
      rw [later, indicesFrom]
      cases holds : test first <;> simp

/-- Indices are listed in order, each one once. -/
theorem pairwise_indicesFrom
    : ∀ {index : Nat}, (indicesFrom test index outcomes).Pairwise (· < ·) := by
  induction outcomes with
  | nil => exact List.Pairwise.nil
  | cons first rest ih =>
      intro index
      rw [indicesFrom]
      split
      · refine List.pairwise_cons.mpr ⟨fun i member => ?_, ih⟩
        obtain ⟨k, -, rfl, -⟩ := mem_indicesFrom.mp member
        omega
      · exact ih

theorem length_indicesFrom
    : ∀ {index : Nat}, (indicesFrom test index outcomes).length = outcomes.countP test := by
  induction outcomes with
  | nil => exact rfl
  | cons first rest ih =>
      intro index
      rw [indicesFrom, List.countP_cons]
      cases holds : test first <;> simp [ih]

/-- Each request is counted once: as successful, as an error or as missing. -/
theorem successful_add (outcomes : List Outcome) (elapsed : Elapsed)
    : (ofOutcomes outcomes elapsed).successful + (ofOutcomes outcomes elapsed).errors.length
        + (ofOutcomes outcomes elapsed).missing.length
      = (ofOutcomes outcomes elapsed).total := by
  have apart := Outcome.countP_le outcomes
  simp only [successful, ofOutcomes, length_indicesFrom]
  omega

end Report

section Runs

variable {network : Network} {requests : List PlannedRequest} {elapsed : Elapsed}

theorem length_outcomesFrom
    : ∀ {index : Nat}, (outcomesFrom network index requests).length = requests.length := by
  induction requests with
  | nil => exact rfl
  | cons r rest ih => exact congrArg (· + 1) ih

/-- The outcomes stand in the order of the requests, each what the network made of its request. -/
theorem getElem?_outcomesFrom
    : ∀ {index i : Nat},
        (outcomesFrom network index requests)[i]?
          = requests[i]?.map fun r => .of (network (index + i) r) := by
  induction requests with
  | nil => exact rfl
  | cons r rest ih =>
      intro index i
      cases i with
      | zero => rfl
      | succ i =>
          rw [outcomesFrom, List.getElem?_cons_succ, List.getElem?_cons_succ, ih,
            Nat.add_right_comm index 1 i]
          rfl

/-- An index is listed when the outcome of the request at that index passes the test. -/
theorem mem_indicesFrom_outcomes {test : Outcome → Bool} {i : Nat}
    : i ∈ Report.indicesFrom test 0 (outcomesFrom network 0 requests)
      ↔ ∃ r, requests[i]? = some r ∧ test (.of (network i r)) = true := by
  simp only [Report.mem_indicesFrom, getElem?_outcomesFrom, Nat.zero_add, Option.map_eq_some_iff]
  constructor
  · rintro ⟨k, o, rfl, ⟨r, held, rfl⟩, holds⟩
    exact ⟨r, held, holds⟩
  · rintro ⟨r, held, holds⟩
    exact ⟨i, _, rfl, ⟨r, held, rfl⟩, holds⟩

/-- The errors are the requests that were answered with the status of one. -/
theorem mem_errors_iff {i : Nat}
    : i ∈ (Report.ofOutcomes (outcomesFrom network 0 requests) elapsed).errors
      ↔ ∃ r status, requests[i]? = some r ∧ network i r = some status
          ∧ status.isError = true := by
  simp only [Report.ofOutcomes, mem_indicesFrom_outcomes, Outcome.isError_of_iff,
    exists_and_left]

/-- The missing responses are those of the requests that were not answered. -/
theorem mem_missing_iff {i : Nat}
    : i ∈ (Report.ofOutcomes (outcomesFrom network 0 requests) elapsed).missing
      ↔ ∃ r, requests[i]? = some r ∧ network i r = none := by
  simp only [Report.ofOutcomes, mem_indicesFrom_outcomes, Outcome.isMissing_of_iff]

/-- Where every request is answered, none is missing, and the errors are those of the requests that
are bad ones, if these are answered with the status of an error and no others.
-/
theorem report_of_answered (elapsed : Elapsed) (bad : PlannedRequest → Prop)
    (answered : ∀ i r, requests[i]? = some r →
      ∃ status, network i r = some status ∧ (status.isError = true ↔ bad r))
    : (Report.ofOutcomes (outcomesFrom network 0 requests) elapsed).missing = []
      ∧ ∀ i, i ∈ (Report.ofOutcomes (outcomesFrom network 0 requests) elapsed).errors
          ↔ ∃ r, requests[i]? = some r ∧ bad r := by
  constructor
  · refine List.eq_nil_iff_forall_not_mem.mpr fun i missing => ?_
    obtain ⟨r, held, silent⟩ := mem_missing_iff.mp missing
    obtain ⟨status, given, -⟩ := answered i r held
    cases silent.symm.trans given
  · intro i
    rw [mem_errors_iff]
    constructor
    · rintro ⟨r, status, held, given, error⟩
      obtain ⟨status', given', exact⟩ := answered i r held
      obtain rfl := Option.some.inj (given.symm.trans given')
      exact ⟨r, held, exact.mp error⟩
    · rintro ⟨r, held, wrong⟩
      obtain ⟨status, given, exact⟩ := answered i r held
      exact ⟨r, status, held, given, exact.mpr wrong⟩

/-- A run succeeds when its plan can be made, and then reports what the network made of the plan. -/
theorem run_ok_iff {servers : List Url} {rounds : Nat} {operations : List Operation}
    {report : Report}
    : run network elapsed servers rounds operations = .ok report
      ↔ ∃ requests, plan servers rounds operations = .ok requests
          ∧ .ofOutcomes (outcomesFrom network 0 requests) elapsed = report := by
  rw [run, bind_ok_iff]
  simp only [pure, Except.pure, Except.ok.injEq]

end Runs

end NodeTrial.Load
