import NodeTrial.Load.Dispatch
import NodeTrial.Proofs.Load.Plan
import NodeTrial.Proofs.Load.Report

/-! Load runs in time. Whatever the order in which requests settle, each outcome is kept at the
place of its own request, so the report is that of the plan in order, and it accounts for every
request exactly once.
-/

namespace NodeTrial.Load

variable {network : Network} {requests : List PlannedRequest} {places next : List Progress}

-----------------------------------------------------------------------------------------
-- Events one at a time
-----------------------------------------------------------------------------------------

/-- An event moves on the request that it names and no other one. -/
theorem Event.after?_eq_some {event : Event} (h : event.after? places = some next)
    : (∃ i, event = .sent i ∧ places[i]? = some .waiting ∧ next = places.set i .underway)
      ∨ ∃ i status, event = .settled i status ∧ places[i]? = some .underway
          ∧ next = places.set i (.settled (.of status)) := by
  cases event with
  | sent i =>
      obtain ⟨stood, same⟩ := (Option.ite_none_right_eq_some).mp h
      exact .inl ⟨i, rfl, stood, (Option.some.inj same).symm⟩
  | settled i status =>
      obtain ⟨stood, same⟩ := (Option.ite_none_right_eq_some).mp h
      exact .inr ⟨i, status, rfl, stood, (Option.some.inj same).symm⟩

/-- An event is one that a network brings about: a request settles as the network answers it. -/
def Event.Fits (network : Network) (requests : List PlannedRequest) : Event → Prop
  | .sent _ => True
  | .settled i status => ∀ r, requests[i]? = some r → status = network i r

/-- Every request that has settled has the outcome that the network made of it. -/
structure Faithful (network : Network) (requests : List PlannedRequest)
    (places : List Progress)
    : Prop where
  length : places.length = requests.length
  outcome
    : ∀ i (o : Outcome), places[i]? = some (.settled o) →
        ∃ r, requests[i]? = some r ∧ o = .of (network i r)

theorem Faithful.waiting (network : Network) (requests : List PlannedRequest)
    : Faithful network requests (requests.map fun _ => .waiting) := by
  refine ⟨List.length_map _, fun i o held => ?_⟩
  rw [List.getElem?_map, Option.map_eq_some_iff] at held
  obtain ⟨_, _, impossible⟩ := held
  cases impossible

/-- What stands at an index after a place is set, if anything. -/
theorem getElem?_set_eq_some {i j : Nat} {p q : Progress} (h : (places.set i p)[j]? = some q)
    : i = j ∧ p = q ∨ places[j]? = some q := by
  rw [List.getElem?_set] at h
  split at h
  · next same =>
    split at h
    · exact .inl ⟨same, Option.some.inj h⟩
    · cases h
  · exact .inr h

theorem Faithful.after {event : Event} (faithful : Faithful network requests places)
    (fits : event.Fits network requests) (h : event.after? places = some next)
    : Faithful network requests next := by
  obtain ⟨i, rfl, stood, rfl⟩ | ⟨i, status, rfl, stood, rfl⟩ := Event.after?_eq_some h
  · refine ⟨(List.length_set ..).trans faithful.length, fun j o held => ?_⟩
    obtain ⟨rfl, impossible⟩ | before := getElem?_set_eq_some held
    · cases impossible
    · exact faithful.outcome j o before
  · refine ⟨(List.length_set ..).trans faithful.length, fun j o held => ?_⟩
    obtain ⟨rfl, outcome⟩ | before := getElem?_set_eq_some held
    · have inside : i < requests.length :=
        faithful.length ▸ (List.getElem?_eq_some_iff.mp stood).1
      have named := List.getElem?_eq_getElem inside
      exact ⟨_, named, Progress.settled.inj outcome ▸ fits _ named ▸ rfl⟩
    · exact faithful.outcome j o before

-----------------------------------------------------------------------------------------
-- Events in a row
-----------------------------------------------------------------------------------------

/-- All events in a row keep the places faithful, by induction on the events. -/
theorem Faithful.afterAll {events : List Event}
    (fits : ∀ event ∈ events, event.Fits network requests)
    : ∀ {places final : List Progress}, Faithful network requests places →
        after? places events = some final → Faithful network requests final := by
  induction events with
  | nil =>
      intro places final faithful h
      exact Option.some.inj h ▸ faithful
  | cons event events ih =>
      intro places final faithful h
      obtain ⟨head, tail⟩ := List.forall_mem_cons.mp fits
      rw [after?, List.foldlM_cons] at h
      obtain ⟨next, first, rest⟩ := Option.bind_eq_some_iff.mp h
      exact ih tail (faithful.after head first) rest

/-- Once every request has settled, the outcomes are those of the plan in order. -/
theorem Faithful.outcomes {outcomes : List Outcome} (faithful : Faithful network requests places)
    (ended : places.mapM Progress.outcome? = some outcomes)
    : outcomes = outcomesFrom network 0 requests := by
  have same := mapM_some_iff.mp ended
  have count : outcomes.length = requests.length := by
    rw [← faithful.length, ← List.length_map Progress.outcome?, same, List.length_map]
  refine List.ext_getElem? fun i => ?_
  rw [getElem?_outcomesFrom, Nat.zero_add]
  cases held : outcomes[i]? with
  | none =>
      have beyond := List.getElem?_eq_none_iff.mp held
      rw [List.getElem?_eq_none (count ▸ beyond), Option.map_none]
  | some o =>
      have here := congrArg (·[i]?) same
      simp only [List.getElem?_map, held, Option.map_some] at here
      obtain ⟨p, stands, settled⟩ := Option.map_eq_some_iff.mp here
      cases p with
      | settled found =>
          obtain rfl : found = o := Option.some.inj settled
          obtain ⟨r, named, made⟩ := faithful.outcome i found stands
          rw [named, made, Option.map_some]
      | waiting => cases settled
      | underway => cases settled

/-- Events that each move on one request of a list, all from the same standing, can happen in the
order of the list, and the other requests stand where they stood. By induction on the list.
-/
theorem exists_afterAll (event : Nat → Event) (stood : Progress) (moved : Nat → Progress)
    (moves
      : ∀ (places : List Progress) i, places[i]? = some stood →
          (event i).after? places = some (places.set i (moved i)))
    {order : List Nat} (once : order.Nodup)
    : ∀ {places : List Progress}, (∀ i ∈ order, places[i]? = some stood) →
        ∃ final, after? places (order.map event) = some final
          ∧ (∀ i ∈ order, final[i]? = some (moved i))
          ∧ ∀ i ∉ order, final[i]? = places[i]? := by
  induction order with
  | nil => exact fun _ => ⟨_, rfl, nofun, fun _ _ => rfl⟩
  | cons first rest ih =>
      intro places stand
      obtain ⟨fresh, once⟩ := List.nodup_cons.mp once
      have here := stand first List.mem_cons_self
      have inside := (List.getElem?_eq_some_iff.mp here).1
      have still (i : Nat) (other : i ≠ first)
          : (places.set first (moved first))[i]? = places[i]? :=
        List.getElem?_set_ne other.symm
      obtain ⟨final, happened, settled, untouched⟩ :=
        ih once fun i member => (still i fun same => fresh (same ▸ member)).trans
          (stand i (List.mem_cons_of_mem first member))
      refine ⟨final, ?_, List.forall_mem_cons.mpr ⟨?_, settled⟩, fun i outside => ?_⟩
      · rw [after?, List.map_cons, List.foldlM_cons, moves places first here]
        exact happened
      · rw [untouched first fresh, List.getElem?_set_self inside]
      · have other : i ≠ first := fun same => outside (same ▸ List.mem_cons_self)
        rw [untouched i fun member => outside (List.mem_cons_of_mem first member), still i other]

/-- All requests are sent and then settle in some order. -/
def eventsIn (network : Network) (requests : List PlannedRequest) (order : List Nat)
    : List Event :=
  (List.range requests.length).map .sent
    ++ order.map fun i => .settled i (requests[i]?.bind (network i))

/-- Requests that are sent can settle in every order. -/
theorem exists_settled_in (network : Network) {order : List Nat}
    (all : order.Perm (List.range requests.length))
    : ∃ final, after? (requests.map fun _ => .waiting) (eventsIn network requests order)
          = some final
        ∧ final.mapM Progress.outcome? = some (outcomesFrom network 0 requests) := by
  have inOrder {i : Nat} : i ∈ order ↔ i < requests.length := all.mem_iff.trans List.mem_range
  have start {i : Nat} (inside : i < requests.length)
      : (requests.map fun _ => Progress.waiting)[i]? = some .waiting := by
    rw [List.getElem?_map, List.getElem?_eq_getElem inside, Option.map_some]
  obtain ⟨between, sent, underway, beyond⟩ :=
    exists_afterAll .sent .waiting (fun _ => .underway) (fun _ _ stands => if_pos stands)
      List.nodup_range fun i member => start (List.mem_range.mp member)
  obtain ⟨final, settled, outcomes, untouched⟩ :=
    exists_afterAll (fun i => .settled i (requests[i]?.bind (network i))) .underway
      (fun i => .settled (.of (requests[i]?.bind (network i))))
      (fun _ _ stands => if_pos stands) (all.nodup_iff.mpr List.nodup_range)
      fun i member => underway i (List.mem_range.mpr (inOrder.mp member))
  refine ⟨final, ?_, mapM_some_iff.mpr (List.ext_getElem? fun i => ?_)⟩
  · rw [after?, eventsIn, List.foldlM_append]
    exact Option.bind_eq_some_iff.mpr ⟨between, sent, settled⟩
  · simp only [List.getElem?_map, getElem?_outcomesFrom, Nat.zero_add]
    by_cases inside : i < requests.length
    · rw [outcomes i (inOrder.mpr inside), List.getElem?_eq_getElem inside]
      rfl
    · have outside := List.getElem?_eq_none (Nat.le_of_not_lt inside)
      have nothing : final[i]? = none := by
        rw [untouched i (mt inOrder.mp inside),
          beyond i (mt List.mem_range.mp inside), List.getElem?_map, outside, Option.map_none]
      rw [nothing, outside]
      rfl

-----------------------------------------------------------------------------------------
-- Whole runs
-----------------------------------------------------------------------------------------

/-- What a report says of the requests of a plan, each of which the network answers or not. -/
structure Report.Exact (network : Network) (requests : List PlannedRequest) (report : Report)
    : Prop where
  total : report.total = requests.length
  errors
    : ∀ i, i ∈ report.errors ↔
        ∃ r status, requests[i]? = some r ∧ network i r = some status ∧ 400 ≤ status.code
  missing : ∀ i, i ∈ report.missing ↔ ∃ r, requests[i]? = some r ∧ network i r = none
  errorsRising : report.errors.Pairwise (· < ·)
  missingRising : report.missing.Pairwise (· < ·)
  apart : ∀ i ∈ report.errors, i ∉ report.missing
  errorsWithin : report.errors.length ≤ report.total
  missingWithin : report.missing.length ≤ report.total - report.errors.length
  successful
    : report.successful
      = requests.zipIdx.countP fun (r, i) => (network i r).any fun status => status.code < 400
  sum : report.total = report.successful + report.errors.length + report.missing.length

/-- The outcomes that pass a test are counted over the requests and their indices. -/
theorem countP_outcomesFrom (network : Network) (test : Outcome → Bool)
    (requests : List PlannedRequest)
    : ∀ index, (outcomesFrom network index requests).countP test
        = (requests.zipIdx index).countP fun (r, i) => test (.of (network i r)) := by
  induction requests with
  | nil => exact fun _ => rfl
  | cons r rest ih =>
      intro index
      rw [outcomesFrom, List.countP_cons, ih, List.zipIdx_cons, List.countP_cons]

/-- A request came back without an error if its status is below that of one. -/
theorem Outcome.neither_of {status : Option Status}
    : (!(Outcome.of status).isError && !(Outcome.of status).isMissing)
      = status.any fun status => status.code < 400 := by
  cases status with
  | none => rfl
  | some status =>
      by_cases error : 400 ≤ status.code
      · simp [Outcome.of, Status.isError, Outcome.isError, error, Nat.not_lt.mpr error]
      · simp [Outcome.of, Status.isError, Outcome.isError, isMissing, error, Nat.lt_of_not_le error]

/-- Every outcome is an error, the lack of a response, or neither. -/
theorem Outcome.countP_add (outcomes : List Outcome)
    : outcomes.countP (fun o => !o.isError && !o.isMissing) + outcomes.countP isError
        + outcomes.countP isMissing
      = outcomes.length := by
  induction outcomes with
  | nil => rfl
  | cons o rest ih => cases o <;> simp [List.countP_cons, isError, isMissing] at ih ⊢ <;> omega

/-- The report of the outcomes of a plan is exact. -/
theorem Report.exact_ofOutcomes (network : Network) (requests : List PlannedRequest)
    (elapsed : Elapsed)
    : Report.Exact network requests (.ofOutcomes (outcomesFrom network 0 requests) elapsed) := by
  have total : (Report.ofOutcomes (outcomesFrom network 0 requests) elapsed).total
      = requests.length := length_outcomesFrom
  have sum := Report.successful_add (outcomesFrom network 0 requests) elapsed
  have parts := Outcome.countP_add (outcomesFrom network 0 requests)
  refine
    { total
      errors := fun i => mem_errors_iff.trans (by simp only [Status.isError, decide_eq_true_eq])
      missing := fun i => mem_missing_iff
      errorsRising := pairwise_indicesFrom
      missingRising := pairwise_indicesFrom
      apart := fun i error missing => ?_
      errorsWithin := by omega
      missingWithin := by omega
      successful := ?_
      sum := by omega }
  · obtain ⟨r, status, named, answered, -⟩ := mem_errors_iff.mp error
    obtain ⟨r', named', silent⟩ := mem_missing_iff.mp missing
    obtain rfl := Option.some.inj (named.symm.trans named')
    cases answered.symm.trans silent
  · have counted :=
      countP_outcomesFrom network (fun o => !o.isError && !o.isMissing) requests 0
    simp only [Outcome.neither_of] at counted
    simp only [Report.ofOutcomes, length_indicesFrom] at sum ⊢
    omega

/-- A load run succeeds whenever its plan can be made. In whatever order its requests settle then,
it ends with one and the same report, which lists each error and each missing response by its index
in the plan and counts all other requests as successful. If there is no plan, nothing happens.
-/
theorem run_reports (network : Network) (elapsed : Elapsed) (servers : List Url) (rounds : Nat)
    (operations : List Operation)
    : (∀ e, plan servers rounds operations = .error e →
        run network elapsed servers rounds operations = .error e
        ∧ ∀ events ending,
            conclude? elapsed servers rounds operations events = some ending ↔
              events = [] ∧ ending = .error e)
      ∧ ∀ requests, plan servers rounds operations = .ok requests →
          ∃ report,
            run network elapsed servers rounds operations = .ok report
            ∧ report.Exact network requests
            ∧ (∀ events ending, (∀ event ∈ events, event.Fits network requests) →
                conclude? elapsed servers rounds operations events = some ending →
                ending = .ok report)
            ∧ ∀ order, order.Perm (List.range requests.length) →
                conclude? elapsed servers rounds operations (eventsIn network requests order)
                  = some (.ok report) := by
  constructor
  · intro e failed
    refine ⟨by rw [run, failed]; rfl, fun events ending => ?_⟩
    rw [conclude?, failed]
    cases events <;> simp [eq_comm]
  · intro requests planned
    have answered : run network elapsed servers rounds operations
        = .ok (.ofOutcomes (outcomesFrom network 0 requests) elapsed) :=
      run_ok_iff.mpr ⟨requests, planned, rfl⟩
    refine ⟨_, answered, Report.exact_ofOutcomes network requests elapsed, ?_, ?_⟩
    · intro events ending fits ended
      rw [conclude?, planned] at ended
      obtain ⟨final, happened, ended⟩ := Option.bind_eq_some_iff.mp ended
      obtain ⟨outcomes, settled, ended⟩ := Option.bind_eq_some_iff.mp ended
      have faithful := (Faithful.waiting network requests).afterAll fits happened
      rw [← Option.some.inj ended, faithful.outcomes settled]
    · intro order all
      obtain ⟨final, happened, settled⟩ := exists_settled_in network all
      rw [conclude?, planned]
      exact Option.bind_eq_some_iff.mpr
        ⟨final, happened, Option.bind_eq_some_iff.mpr ⟨_, settled, rfl⟩⟩

/-- A network that answers the first request, refuses the second one and loses all others. -/
def failing : Network
  | 0, _ => some .ok
  | 1, _ => some ⟨500, by decide⟩
  | _, _ => none

/-- Three requests, of which the last one settles before the second one is sent. -/
theorem run_reports_failing
    : let server := Url.plain "http" (some (.domain "localhost")) (.rooted [""])
      let operation := Operation.ofSet "a" (.text "b")
      ∃ requests report,
        plan [server] 3 [operation] = .ok requests
        ∧ run failing ⟨0, 0⟩ [server] 3 [operation] = .ok report
        ∧ report.Exact failing requests
        ∧ (report.total, report.errors, report.missing, report.successful) = (3, [1], [2], 1)
        ∧ conclude? ⟨0, 0⟩ [server] 3 [operation]
            [.sent 2, .sent 0, .settled 2 none, .sent 1, .settled 1 (some ⟨500, by decide⟩),
              .settled 0 (some ⟨200, by decide⟩)]
          = some (.ok report) := by
  intro server operation
  let request : PlannedRequest := ⟨{ server with path := .rooted ["set"] }, operation⟩
  have joined : server.join operation.path = .ok request.url := Url.join_closed [] "set" rfl
  have planned : plan [server] 3 [operation] = .ok (List.replicate 3 request) := by
    refine (plan_ok_iff (List.cons_ne_nil _ _) (List.cons_ne_nil _ _)).mpr
      ⟨by decide, rfl, fun i r held => ?_⟩
    obtain rfl := List.eq_of_mem_replicate (List.mem_of_getElem? held)
    have only : i % 1 = 0 := Nat.mod_one i
    refine ⟨?_, server, ?_, joined⟩
    · rw [List.length_singleton, only]
      rfl
    · rw [List.length_singleton, only]
      rfl
  obtain ⟨report, answered, exact, -⟩ :=
    (run_reports failing ⟨0, 0⟩ [server] 3 [operation]).2 _ planned
  have reported : run failing ⟨0, 0⟩ [server] 3 [operation] = .ok ⟨⟨0, 0⟩, 3, [1], [2]⟩ :=
    run_ok_iff.mpr ⟨_, planned, rfl⟩
  obtain rfl := Except.ok.inj (reported.symm.trans answered)
  refine ⟨_, _, planned, answered, exact, rfl, ?_⟩
  rw [conclude?, planned]
  rfl

end NodeTrial.Load
