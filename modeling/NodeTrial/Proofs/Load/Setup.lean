import NodeTrial.Proofs.Load.Plan

/-! Setting up load runs. Either every candidate gives a base URL or there are none at all, and from
base URLs that were set up every plan can be made that is not too long.
-/

namespace NodeTrial.Load

open Url (EndsInSlash Gives IsBaseOf IsJoined parse)

variable {candidate : String} {candidates defaults : List String} {servers : List Url}
  {operations : List Operation} {rounds : Nat}

-----------------------------------------------------------------------------------------
-- One candidate
-----------------------------------------------------------------------------------------

/-- What is wrong with a candidate that gives no URL of its own. -/
inductive Offends (candidate : String) : SetupError → Prop where
  | unreadable {error : UrlError} (unparsed : parse candidate = .error error)
    : Offends candidate (.badBaseUrl candidate error)
  | bare {own : Url} (parsed : parse candidate = .ok own) (noBase : own.isBase = false)
    : Offends candidate (.notABase candidate)

theorem gives_or_offends (candidate : String)
    : (∃ own, Gives (some candidate) own) ∨ ∃ e, Offends candidate e := by
  cases parsed : parse candidate with
  | error e => exact .inr ⟨_, .unreadable parsed⟩
  | ok own =>
      cases isBase : own.isBase with
      | true => exact .inl ⟨own, candidate, rfl, parsed, isBase⟩
      | false => exact .inr ⟨_, .bare parsed isBase⟩

/-- The default stands beside the candidate in name only: the candidate's own URL is closed. -/
theorem baseUrl_of_gives {own : Url} (given : Gives (some candidate) own)
    : baseUrl candidate = .ok own.closed := by
  have closed : Url.base (some candidate) candidate = .ok own.closed := Url.base_of_gives given
  obtain ⟨_, same, parsed, isBase⟩ := given
  obtain rfl := Option.some.inj same
  simp [baseUrl, parsed, isBase, closed]

theorem baseUrl_of_offends {e : SetupError} (offends : Offends candidate e)
    : baseUrl candidate = .error e := by
  cases offends with
  | unreadable unparsed => simp [baseUrl, unparsed]
  | bare parsed noBase => simp [baseUrl, parsed, noBase]

theorem baseUrl_ok_iff {u : Url}
    : baseUrl candidate = .ok u ↔ ∃ own, Gives (some candidate) own ∧ u = own.closed := by
  constructor
  · intro h
    obtain ⟨own, given⟩ | ⟨e, offends⟩ := gives_or_offends candidate
    · rw [baseUrl_of_gives given] at h
      exact ⟨own, given, (Except.ok.inj h).symm⟩
    · rw [baseUrl_of_offends offends] at h
      cases h
  · rintro ⟨own, given, rfl⟩
    exact baseUrl_of_gives given

theorem baseUrl_error_iff {e : SetupError}
    : baseUrl candidate = .error e ↔ Offends candidate e := by
  refine ⟨fun h => ?_, baseUrl_of_offends⟩
  obtain ⟨own, given⟩ | ⟨other, offends⟩ := gives_or_offends candidate
  · rw [baseUrl_of_gives given] at h
    cases h
  · rw [baseUrl_of_offends offends] at h
    exact Except.error.inj h ▸ offends

-----------------------------------------------------------------------------------------
-- All candidates
-----------------------------------------------------------------------------------------

/-- A URL is the base URL of a candidate: the candidate's own URL with a path that ends in a slash.
-/
def IsBaseFrom (candidate : String) (u : Url) : Prop :=
  ∃ own, Gives (some candidate) own ∧ u = own.closed ∧ IsBaseOf own u ∧ EndsInSlash u.path

theorem isBaseFrom_of_gives {own : Url} (given : Gives (some candidate) own)
    : IsBaseFrom candidate own.closed := by
  have isBaseOf : IsBaseOf own own.closed :=
    Url.closed_isBaseOf (Url.isReadPath_of_gives given)
  refine ⟨own, given, rfl, isBaseOf, isBaseOf.ends.mpr fun bare => ?_⟩
  obtain ⟨_, -, -, isBase⟩ := given
  obtain ⟨segments, rooted⟩ := Url.isBase_iff.mp isBase
  cases bare.symm.trans rooted

/-- Any name can be joined onto the base URL of a candidate, and comes after its path. -/
theorem IsBaseFrom.join {u : Url} (h : IsBaseFrom candidate u) (name : String)
    : ∃ joined, u.join name = .ok joined ∧ IsJoined u name joined := by
  obtain ⟨own, given, rfl, -⟩ := h
  have read := Url.isReadPath_of_gives given
  obtain ⟨_, -, -, isBase⟩ := given
  exact Url.closed_join read ((Url.closed_isBase read).mpr isBase) name

/-- Each URL is the base URL of the candidate at its place. -/
structure AreBasesFrom (candidates : List String) (servers : List Url) : Prop where
  count : servers.length = candidates.length
  each : ∀ (i : Nat) (candidate : String) (u : Url),
    candidates[i]? = some candidate → servers[i]? = some u → IsBaseFrom candidate u

/-- What is wrong with the first candidate that gives no URL of its own. -/
def IsFirstOffence (candidates : List String) (e : SetupError) : Prop :=
  ∃ before candidate after, candidates = before ++ candidate :: after
    ∧ (∀ earlier ∈ before, ∃ own, Gives (some earlier) own)
    ∧ Offends candidate e

theorem mapM_baseUrl_ok_iff
    : candidates.mapM baseUrl = .ok servers ↔ AreBasesFrom candidates servers := by
  rw [mapM_ok_iff]
  constructor
  · intro same
    refine ⟨by simpa using (congrArg List.length same).symm, fun i candidate u found held => ?_⟩
    have answers : (candidates.map baseUrl)[i]? = (servers.map Except.ok)[i]? := by rw [same]
    rw [List.getElem?_map, List.getElem?_map, found, held] at answers
    obtain ⟨own, given, rfl⟩ := baseUrl_ok_iff.mp (Option.some.inj answers)
    exact isBaseFrom_of_gives given
  · rintro ⟨count, each⟩
    refine List.ext_getElem (by simpa using count.symm) fun i small small' => ?_
    rw [List.length_map] at small small'
    obtain ⟨own, given, closed, -⟩ := each i candidates[i] servers[i]
      (List.getElem?_eq_getElem small) (List.getElem?_eq_getElem small')
    rw [List.getElem_map, List.getElem_map]
    exact baseUrl_ok_iff.mpr ⟨own, given, closed⟩

theorem exists_baseUrl_iff
    : (∃ u, baseUrl candidate = .ok u) ↔ ∃ own, Gives (some candidate) own := by
  constructor
  · rintro ⟨u, h⟩
    obtain ⟨own, given, -⟩ := baseUrl_ok_iff.mp h
    exact ⟨own, given⟩
  · rintro ⟨own, given⟩
    exact ⟨_, baseUrl_of_gives given⟩

theorem exists_mapM_baseUrl_iff
    : (∃ servers, candidates.mapM baseUrl = .ok servers)
      ↔ ∀ candidate ∈ candidates, ∃ own, Gives (some candidate) own := by
  simp only [exists_mapM_iff, exists_baseUrl_iff]

theorem mapM_baseUrl_error_iff {e : SetupError}
    : candidates.mapM baseUrl = .error e ↔ IsFirstOffence candidates e := by
  simp only [mapM_error_iff, exists_baseUrl_iff, baseUrl_error_iff, IsFirstOffence]

namespace AreBasesFrom

theorem ne_nil (h : AreBasesFrom candidates servers) (someCandidate : candidates ≠ [])
    : servers ≠ [] :=
  List.length_pos_iff.mp (h.count ▸ List.length_pos_iff.mpr someCandidate)

theorem join (h : AreBasesFrom candidates servers)
    : ∀ base ∈ servers, ∀ name, ∃ joined,
        base.join name = .ok joined ∧ IsJoined base name joined := by
  intro base member name
  obtain ⟨i, small, rfl⟩ := List.getElem_of_mem member
  have here : i < candidates.length := h.count ▸ small
  exact (h.each i candidates[i] servers[i] (List.getElem?_eq_getElem here)
    (List.getElem?_eq_getElem small)).join name

end AreBasesFrom

-----------------------------------------------------------------------------------------
-- Plans
-----------------------------------------------------------------------------------------

/-- A plan goes through the servers `rounds` times, unless there are no operations. Each of its
requests posts the operation that is next in its cycle, to the path of the server that is next
followed by the endpoint of that operation.
-/
structure IsPlan (servers : List Url) (rounds : Nat) (operations : List Operation)
    (requests : List PlannedRequest)
    : Prop where
  count : requests.length = if operations = [] then 0 else servers.length * rounds
  each : ∀ (i : Nat) (r : PlannedRequest), requests[i]? = some r →
    operations[i % operations.length]? = some r.operation
      ∧ ∃ base, servers[i % servers.length]? = some base ∧ IsJoined base r.operation.path r.url

section Joins

variable (joins : ∀ base ∈ servers, ∀ name, ∃ joined,
  base.join name = .ok joined ∧ IsJoined base name joined)

include joins

/-- Servers that every name can be joined onto leave nothing to fail while requests are made. -/
theorem exists_isPlan (someServer : servers ≠ [])
    : ∃ requests, requestsOf servers operations (servers.length * rounds) = .ok requests
        ∧ IsPlan servers rounds operations requests := by
  by_cases none : operations = []
  · subst none
    refine ⟨[], ?_, rfl, nofun⟩
    rw [requestsOf_eq, pairsFrom_of_empty (.inr rfl)]
    rfl
  · have joinable : ∀ base ∈ servers, ∀ o ∈ operations, ∃ url, base.join o.path = .ok url := by
      intro base member o _
      obtain ⟨joined, h, -⟩ := joins base member o.path
      exact ⟨joined, h⟩
    obtain ⟨requests, made⟩ := exists_requestsOf joinable (servers.length * rounds)
    obtain ⟨count, each⟩ := (requestsOf_ok_iff someServer none).mp made
    refine ⟨requests, made, by rw [count, if_neg none], fun i r held => ?_⟩
    obtain ⟨operation, base, server, url⟩ := each i r held
    obtain ⟨joined, h, isJoined⟩ := joins base (List.mem_of_getElem? server) r.operation.path
    obtain rfl := Except.ok.inj (h.symm.trans url)
    exact ⟨operation, base, server, isJoined⟩

theorem plan_error_iff (someServer : servers ≠ []) {e : SetupError}
    : plan servers rounds operations = .error e
      ↔ UInt64.size ≤ servers.length * rounds
        ∧ e = .tooManyRequests servers.length rounds := by
  rw [plan]
  split
  · next many => simp [many, eq_comm]
  · next few =>
    obtain ⟨requests, made, -⟩ := exists_isPlan joins someServer
    rw [made]
    refine iff_of_false (fun h => ?_) fun h => few h.1
    cases h

theorem isPlan_of_plan (someServer : servers ≠ []) {requests : List PlannedRequest}
    (planned : plan servers rounds operations = .ok requests)
    : IsPlan servers rounds operations requests := by
  obtain ⟨others, made, isPlan⟩ := exists_isPlan joins someServer
  rw [plan] at planned
  split at planned
  · cases planned
  · obtain rfl := Except.ok.inj (made.symm.trans planned)
    exact isPlan

end Joins

theorem baseUrls_eq (someCandidate : candidates ≠ [])
    : baseUrls candidates defaults = candidates.mapM baseUrl := by
  rw [baseUrls, if_neg (by simpa using someCandidate)]

/-- Setting up a load run is all or nothing. With candidates, the base URLs are there when every
candidate can be read and takes names, each from its own candidate; else the error is that of the
first candidate that fails. A plan from them only fails when there are too many requests.
-/
theorem baseUrls_all_or_nothing (candidates defaults : List String)
    (someCandidate : candidates ≠ [])
    : (∀ servers, baseUrls candidates defaults = .ok servers ↔ AreBasesFrom candidates servers)
      ∧ ((∃ servers, baseUrls candidates defaults = .ok servers)
          ↔ ∀ candidate ∈ candidates, ∃ own, Gives (some candidate) own)
      ∧ (∀ e, baseUrls candidates defaults = .error e ↔ IsFirstOffence candidates e)
      ∧ ∀ servers, baseUrls candidates defaults = .ok servers → ∀ rounds operations,
          (∀ e, plan servers rounds operations = .error e
            ↔ UInt64.size ≤ servers.length * rounds
              ∧ e = .tooManyRequests servers.length rounds)
          ∧ ∀ requests, plan servers rounds operations = .ok requests →
              IsPlan servers rounds operations requests := by
  simp only [baseUrls_eq someCandidate]
  refine ⟨fun _ => mapM_baseUrl_ok_iff, exists_mapM_baseUrl_iff, fun _ => mapM_baseUrl_error_iff,
    fun servers setUp rounds operations => ?_⟩
  have bases := mapM_baseUrl_ok_iff.mp setUp
  have someServer := bases.ne_nil someCandidate
  exact ⟨fun _ => plan_error_iff bases.join someServer,
    fun _ => isPlan_of_plan bases.join someServer⟩

/-- Two candidates that are set up but repeated too often, and a list whose second one fails. -/
theorem baseUrls_all_or_nothing_mixed
    : ["file:///a?q", "foo://h/b/"] ≠ []
      ∧ (∃ servers, baseUrls ["file:///a?q", "foo://h/b/"] [] = .ok servers
          ∧ plan servers UInt64.size [] = .error (.tooManyRequests 2 UInt64.size))
      ∧ baseUrls ["file:///a?q", "mailto:x@y.z", "nothing"] []
          = .error (.notABase "mailto:x@y.z") := by
  refine ⟨by decide, ?_, ?_⟩
  · obtain ⟨bases, setUp, -, planned⟩ :=
      baseUrls_all_or_nothing ["file:///a?q", "foo://h/b/"] [] (by decide)
    obtain ⟨servers, found⟩ := setUp.mpr
      (List.forall_mem_cons.mpr ⟨⟨_, _, rfl, rfl, rfl⟩,
        List.forall_mem_singleton.mpr ⟨_, _, rfl, rfl, rfl⟩⟩)
    have two : servers.length = 2 := ((bases servers).mp found).count
    refine ⟨servers, found, ((planned servers found UInt64.size []).1 _).mpr ⟨?_, by rw [two]⟩⟩
    rw [two]
    decide
  · obtain ⟨-, -, offence, -⟩ :=
      baseUrls_all_or_nothing ["file:///a?q", "mailto:x@y.z", "nothing"] [] (by decide)
    exact (offence _).mpr ⟨["file:///a?q"], "mailto:x@y.z", ["nothing"], rfl,
      List.forall_mem_singleton.mpr ⟨_, _, rfl, rfl, rfl⟩, .bare rfl rfl⟩

end NodeTrial.Load
