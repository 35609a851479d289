import NodeTrial.Proofs.Load.Cycles
import NodeTrial.Proofs.Url.Base

/-! Plans of load runs, index by index. Each index of a plan holds the operation and the URL that
are next in their cycles, whatever index the plan starts from. What cannot be joined at the first
such index is what a plan fails with, unless it is too long to be made at all.
-/

namespace NodeTrial.Load

variable {servers : List Url} {operations : List Operation}

/-- A request is the one at an index of a plan: it holds the operation that is next in the cycle of
the operations, and the URL of its endpoint at the server that is next in the other cycle.
-/
structure IsRequestAt (servers : List Url) (operations : List Operation) (index : Nat)
    (r : PlannedRequest)
    : Prop where
  operation : operations[index % operations.length]? = some r.operation
  url : ∃ base, servers[index % servers.length]? = some base
    ∧ base.join r.operation.path = .ok r.url

/-- The request at an index of a plan cannot be made: the endpoint of the operation that is next
cannot be joined onto the server that is next.
-/
def FailsAt (servers : List Url) (operations : List Operation) (index : Nat) (e : UrlError)
    : Prop :=
  ∃ base o, servers[index % servers.length]? = some base
    ∧ operations[index % operations.length]? = some o
    ∧ base.join o.path = .error e

theorem request_ok_iff {base : Url} {o : Operation} {r : PlannedRequest}
    : request base o = .ok r ↔ r.operation = o ∧ base.join o.path = .ok r.url := by
  rw [request]
  cases joined : base.join o.path with
  | error e => simp
  | ok url =>
      cases r
      simp [and_comm, eq_comm]

theorem request_error_iff {base : Url} {o : Operation} {e : SetupError}
    : request base o = .error e ↔ ∃ wrong, base.join o.path = .error wrong ∧ e = .url wrong := by
  rw [request]
  cases joined : base.join o.path with
  | error wrong => simp [eq_comm]
  | ok url => simp

theorem isRequestAt_iff {index : Nat} {r : PlannedRequest}
    : IsRequestAt servers operations index r
      ↔ ∃ pair, pairAt servers operations index = some pair
          ∧ request pair.1 pair.2 = .ok r := by
  constructor
  · rintro ⟨operation, base, server, url⟩
    exact ⟨(base, r.operation), pairAt_eq_some_iff.mpr ⟨server, operation⟩,
      request_ok_iff.mpr ⟨rfl, url⟩⟩
  · rintro ⟨⟨base, o⟩, found, made⟩
    obtain ⟨server, operation⟩ := pairAt_eq_some_iff.mp found
    obtain ⟨rfl, url⟩ := request_ok_iff.mp made
    exact ⟨operation, base, server, url⟩

theorem failsAt_iff {index : Nat} {wrong : UrlError}
    : FailsAt servers operations index wrong
      ↔ ∃ pair, pairAt servers operations index = some pair
          ∧ request pair.1 pair.2 = .error (.url wrong) := by
  constructor
  · rintro ⟨base, o, server, operation, failed⟩
    exact ⟨(base, o), pairAt_eq_some_iff.mpr ⟨server, operation⟩,
      request_error_iff.mpr ⟨wrong, failed, rfl⟩⟩
  · rintro ⟨⟨base, o⟩, found, failed⟩
    obtain ⟨server, operation⟩ := pairAt_eq_some_iff.mp found
    obtain ⟨_, failed, same⟩ := request_error_iff.mp failed
    exact ⟨base, o, server, operation, SetupError.url.inj same ▸ failed⟩

/-- The requests are as many as the pairs, each that of its index. -/
theorem requestsOf_ok_iff_pairs {count : Nat} {requests : List PlannedRequest}
    : requestsOf servers operations count = .ok requests
      ↔ requests.length = (pairsFrom servers operations count 0).length
        ∧ ∀ i r, requests[i]? = some r → i < count ∧ IsRequestAt servers operations i r := by
  simp only [requestsOf_eq, mapM_ok_iff_getElem?, getElem?_pairsFrom, Nat.zero_add,
    Option.ite_none_right_eq_some, isRequestAt_iff, and_assoc, exists_and_left]

/-- What stops the requests is the first index at which none can be made. -/
theorem requestsOf_error_iff {count : Nat} {e : SetupError}
    : requestsOf servers operations count = .error e
      ↔ ∃ wrong, e = .url wrong ∧ ∃ i < count, FailsAt servers operations i wrong
          ∧ ∀ j < i, ∀ other, ¬ FailsAt servers operations j other := by
  simp only [requestsOf_eq, mapM_error_iff_getElem?, getElem?_pairsFrom, Nat.zero_add,
    Option.ite_none_right_eq_some]
  constructor
  · rintro ⟨i, pair, ⟨few, found⟩, failed, fine⟩
    obtain ⟨wrong, -, rfl⟩ := request_error_iff.mp failed
    refine ⟨wrong, rfl, i, few, failsAt_iff.mpr ⟨pair, found, failed⟩, fun j early other h => ?_⟩
    obtain ⟨earlier, found, failed⟩ := failsAt_iff.mp h
    obtain ⟨r, made⟩ := fine j early earlier ⟨Nat.lt_trans early few, found⟩
    cases failed.symm.trans made
  · rintro ⟨wrong, rfl, i, few, failed, fine⟩
    obtain ⟨pair, found, failed⟩ := failsAt_iff.mp failed
    refine ⟨i, pair, ⟨few, found⟩, failed, fun j early earlier h => ?_⟩
    cases made : request earlier.1 earlier.2 with
    | ok r => exact ⟨r, rfl⟩
    | error e =>
        obtain ⟨other, -, rfl⟩ := request_error_iff.mp made
        exact absurd (failsAt_iff.mpr ⟨earlier, h.2, made⟩) (fine j early other)

/-- Where every endpoint can be joined onto every server, the requests can be made. -/
theorem exists_requestsOf (joins : ∀ base ∈ servers, ∀ o ∈ operations, ∃ url,
      base.join o.path = .ok url)
    (count : Nat)
    : ∃ requests, requestsOf servers operations count = .ok requests := by
  cases made : requestsOf servers operations count with
  | ok requests => exact ⟨requests, rfl⟩
  | error e =>
      obtain ⟨wrong, -, i, -, ⟨base, o, server, operation, failed⟩, -⟩ :=
        requestsOf_error_iff.mp made
      obtain ⟨url, joined⟩ :=
        joins base (List.mem_of_getElem? server) o (List.mem_of_getElem? operation)
      cases joined.symm.trans failed

section Cycles

variable (someServer : servers ≠ []) (someOperation : operations ≠ [])

include someServer someOperation

/-- Where there are servers and operations, so many requests are made, each that of its index. -/
theorem requestsOf_ok_iff {count : Nat} {requests : List PlannedRequest}
    : requestsOf servers operations count = .ok requests
      ↔ requests.length = count
        ∧ ∀ i r, requests[i]? = some r → IsRequestAt servers operations i r := by
  rw [requestsOf_ok_iff_pairs, length_pairsFrom someServer someOperation]
  refine and_congr_right fun count => forall_congr' fun i => forall_congr' fun r => ?_
  refine imp_congr_right fun held => and_iff_right ?_
  exact count ▸ (List.getElem?_eq_some_iff.mp held).1

/-- A plan holds as many requests as there are servers in all rounds, each that of its index; their
number fits a word.
-/
theorem plan_ok_iff {rounds : Nat} {requests : List PlannedRequest}
    : plan servers rounds operations = .ok requests
      ↔ servers.length * rounds < UInt64.size
        ∧ requests.length = servers.length * rounds
        ∧ ∀ i r, requests[i]? = some r → IsRequestAt servers operations i r := by
  rw [plan]
  split
  · next many => exact iff_of_false nofun fun h => absurd h.1 (Nat.not_lt.mpr many)
  · next few =>
    rw [requestsOf_ok_iff someServer someOperation, and_iff_right (Nat.lt_of_not_le few)]

end Cycles

-----------------------------------------------------------------------------------------
-- All lists and rounds
-----------------------------------------------------------------------------------------

/-- How many requests a plan is made of: one for each server in each round, unless there are no
operations.
-/
def plannedCount (servers : List Url) (rounds : Nat) (operations : List Operation) : Nat :=
  if operations = [] then 0 else servers.length * rounds

theorem plannedCount_le (servers : List Url) (rounds : Nat) (operations : List Operation)
    : plannedCount servers rounds operations ≤ servers.length * rounds := by
  unfold plannedCount
  split
  · exact Nat.zero_le _
  · exact Nat.le_refl _

theorem length_pairsFrom_eq (servers : List Url) (rounds : Nat) (operations : List Operation)
    : (pairsFrom servers operations (servers.length * rounds) 0).length
      = plannedCount servers rounds operations := by
  unfold plannedCount
  split
  · next empty =>
    subst empty
    rw [pairsFrom_of_empty (.inr rfl)]
    rfl
  · next someOperation =>
    by_cases someServer : servers = []
    · subst someServer
      rw [List.length_nil, Nat.zero_mul]
      rfl
    · exact length_pairsFrom someServer someOperation _ 0

/-- An index at which a request cannot be made has a next operation, so it is one of the plan's. -/
theorem FailsAt.lt_iff {index : Nat} {e : UrlError} (h : FailsAt servers operations index e)
    (rounds : Nat)
    : index < servers.length * rounds ↔ index < plannedCount servers rounds operations := by
  obtain ⟨_, o, -, next, -⟩ := h
  rw [plannedCount, if_neg (List.ne_nil_of_mem (List.mem_of_getElem? next))]

section Counted

variable {rounds : Nat} (few : servers.length * rounds < UInt64.size)

include few

theorem plan_of_few
    : plan servers rounds operations
      = requestsOf servers operations (servers.length * rounds) := by
  rw [plan, if_neg (Nat.not_le.mpr few)]

theorem plan_ok_iff_count {requests : List PlannedRequest}
    : plan servers rounds operations = .ok requests
      ↔ requests.length = plannedCount servers rounds operations
        ∧ ∀ i r, requests[i]? = some r → IsRequestAt servers operations i r := by
  rw [plan_of_few few, requestsOf_ok_iff_pairs, length_pairsFrom_eq]
  refine and_congr_right fun count => forall_congr' fun i => forall_congr' fun r => ?_
  refine imp_congr_right fun held => and_iff_right ?_
  have small : i < requests.length := (List.getElem?_eq_some_iff.mp held).1
  exact Nat.lt_of_lt_of_le (count ▸ small) (plannedCount_le servers rounds operations)

theorem plan_error_iff_first {e : SetupError}
    : plan servers rounds operations = .error e
      ↔ ∃ wrong, e = .url wrong
        ∧ ∃ i < plannedCount servers rounds operations, FailsAt servers operations i wrong
          ∧ ∀ j < i, ∀ other, ¬ FailsAt servers operations j other := by
  rw [plan_of_few few, requestsOf_error_iff]
  refine exists_congr fun wrong => and_congr_right fun _ => exists_congr fun i => ?_
  exact and_congr_left fun h => h.1.lt_iff rounds

/-- A plan that is not too long can be made when no join at its indices fails. -/
theorem exists_plan_iff
    : (∃ requests, plan servers rounds operations = .ok requests)
      ↔ ∀ i < plannedCount servers rounds operations, ∀ e, ¬ FailsAt servers operations i e := by
  constructor
  · rintro ⟨requests, planned⟩ i small e ⟨base, o, server, operation, failed⟩
    obtain ⟨count, each⟩ := (plan_ok_iff_count few).mp planned
    obtain ⟨held, base', server', url⟩ :=
      each i requests[i] (List.getElem?_eq_getElem (count ▸ small))
    obtain rfl := Option.some.inj (server.symm.trans server')
    obtain rfl := Option.some.inj (operation.symm.trans held)
    cases failed.symm.trans url
  · intro fine
    cases planned : plan servers rounds operations with
    | ok requests => exact ⟨requests, rfl⟩
    | error e =>
        obtain ⟨wrong, -, i, small, failed, -⟩ := (plan_error_iff_first few).mp planned
        exact absurd failed (fine i small wrong)

end Counted

/-- A plan goes round the servers and round the operations beside them. It fails for its length
exactly when the number of servers in all rounds does not fit a word. Otherwise it is made when no
join at its indices fails, and then holds the request of each index; if one fails, its error is that
of the first index with a join that does.
-/
theorem plan_round_robin (servers : List Url) (rounds : Nat) (operations : List Operation)
    : (∀ count times, plan servers rounds operations = .error (.tooManyRequests count times)
        ↔ UInt64.size ≤ servers.length * rounds ∧ count = servers.length ∧ times = rounds)
      ∧ (servers.length * rounds < UInt64.size →
          (∀ requests, plan servers rounds operations = .ok requests
            ↔ requests.length = plannedCount servers rounds operations
              ∧ ∀ i r, requests[i]? = some r → IsRequestAt servers operations i r)
          ∧ ((∃ requests, plan servers rounds operations = .ok requests)
            ↔ ∀ i < plannedCount servers rounds operations, ∀ e,
                ¬ FailsAt servers operations i e)
          ∧ ∀ e, plan servers rounds operations = .error e
            ↔ ∃ wrong, e = .url wrong
              ∧ ∃ i < plannedCount servers rounds operations, FailsAt servers operations i wrong
                ∧ ∀ j < i, ∀ other, ¬ FailsAt servers operations j other) := by
  refine ⟨fun count times => ?_, fun few =>
    ⟨fun _ => plan_ok_iff_count few, exists_plan_iff few, fun _ => plan_error_iff_first few⟩⟩
  by_cases many : UInt64.size ≤ servers.length * rounds
  · simp [plan, many, eq_comm]
  · rw [plan_error_iff_first (Nat.lt_of_not_le many)]
    refine iff_of_false ?_ fun h => many h.1
    rintro ⟨wrong, same, -⟩
    cases same

end NodeTrial.Load
