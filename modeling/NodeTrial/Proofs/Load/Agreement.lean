import NodeTrial.Proofs.Load.Plan
import NodeTrial.Proofs.Load.Report
import NodeTrial.Proofs.Operation.RoundTrip
import NodeTrial.Proofs.Text.Utf8
import NodeTrial.Proofs.WriteServer

/-! Load runs against write servers. Every request of a run reaches the endpoint of its operation
and is understood there, so all requests succeed but those whose bodies are too long.
-/

namespace NodeTrial.Load

open WriteServer (Acceptable attempt attempt_ok_iff bodyLimit selects)

/-- The number of bytes in which an operation is posted. -/
def bodyLength (o : Operation) : Nat :=
  (Text.bytesOf o.render).length

------------------------------------------------------------------------------------------
-- One request
------------------------------------------------------------------------------------------

section Posted

variable {r : PlannedRequest}

theorem headerMap_posted
    : r.posted.headerMap
      = ((Table.empty.insert "user-agent" userAgent).insert "content-type"
          "application/json").insert "content-length" (Text.natText (bodyLength r.operation)) :=
  rfl

/-- The declared length is the true one; a length that no word can hold is not declared at all. -/
theorem declaredLength?_posted_iff {declared : UInt64}
    : WriteServer.declaredLength? r.posted = some declared
      ↔ declared.toNat = bodyLength r.operation := by
  rw [WriteServer.declaredLength?, WriteServer.Request.header?, headerMap_posted,
    Table.get?_insert_self, Option.bind_some, Text.word?_natText_iff]

theorem hasJsonType_posted : WriteServer.hasJsonType r.posted = true := by
  have sent : r.posted.header? "content-type" = some "application/json" := by
    rw [WriteServer.Request.header?, headerMap_posted, Table.get?_insert_of_ne _ _ (by decide),
      Table.get?_insert_self]
  rw [WriteServer.hasJsonType, sent]
  decide

variable (endpoint : r.url.path = .rooted [r.operation.path])

include endpoint

theorem selects_posted : selects r.posted.path r.operation.kind = true := by
  have target : r.posted.target = "/" ++ r.operation.kind.path := by
    rw [PlannedRequest.posted, endpoint]
    simp [UrlPath.text, Operation.path]
  rw [WriteServer.Request.path, target]
  cases r.operation.kind <;> decide

variable (whole : r.operation.toJson.NoReals) (fits : r.operation.toJson.nesting ≤ Json.maxDepth)

include whole fits

/-- An endpoint takes every operation of its kind that is posted to it, if the body is not too long:
the bytes of the body are read as the text that was written, and the text as the operation.
-/
theorem acceptable_posted_iff
    : Acceptable r.posted r.operation.kind ↔ bodyLength r.operation ≤ bodyLimit := by
  constructor
  · intro taken
    obtain ⟨declared, given, short⟩ := taken.length
    exact declaredLength?_posted_iff.mp given ▸ short
  · intro short
    have fitsWord : bodyLength r.operation < UInt64.size :=
      Nat.lt_of_le_of_lt short (by decide)
    have exact := UInt64.toNat_ofNat_of_lt' fitsWord
    have read := (Operation.parseAs_written_iff whole fits).mpr ⟨rfl, rfl⟩
    refine ⟨selects_posted endpoint, rfl, ⟨_, declaredLength?_posted_iff.mpr exact, ?_⟩,
      hasJsonType_posted, r.operation, ?_⟩
    · rw [exact]
      exact short
    · rw [PlannedRequest.posted, Text.symbolsOfBytes_bytesOf]
      exact read

/-- Every posted operation is answered, and with an error exactly when its body is too long. -/
theorem ofWriteServers_answers (i : Nat)
    : ∃ status, Network.ofWriteServers i r = some status
        ∧ (status.isError = true ↔ bodyLimit < bodyLength r.operation) := by
  have answered (code : Nat) (inRange : 100 ≤ code ∧ code ≤ 999)
      : ∃ status, Status.ofNat? code = some status ∧ (status.isError = true ↔ 400 ≤ code) :=
    ⟨⟨code, inRange⟩, dif_pos inRange, by simp [Status.isError]⟩
  rw [Network.ofWriteServers, WriteServer.respond_of_selects (selects_posted endpoint)]
  cases result : attempt r.posted r.operation.kind with
  | ok reply =>
      obtain ⟨taken, rfl⟩ := attempt_ok_iff.mp result
      have short := (acceptable_posted_iff endpoint whole fits).mp taken
      have codes := WriteServer.status_successReply r.operation.kind
      simp only [List.mem_cons, List.not_mem_nil, or_false] at codes
      obtain ⟨status, given, error⟩ :=
        answered (WriteServer.successReply r.operation.kind).status (by omega)
      exact ⟨status, given, error.trans (iff_of_false (by omega) (Nat.not_lt.mpr short))⟩
  | error e =>
      have long : bodyLimit < bodyLength r.operation := by
        refine Nat.lt_of_not_le fun short => ?_
        have taken := (acceptable_posted_iff endpoint whole fits).mpr short
        cases result.symm.trans (attempt_ok_iff.mpr ⟨taken, rfl⟩)
      have codes := WriteServer.status_classify [e]
      simp only [List.mem_cons, List.not_mem_nil, or_false] at codes
      obtain ⟨status, given, error⟩ := answered (WriteServer.classify [e]).status (by omega)
      exact ⟨status, given, error.trans (iff_of_true (by omega) long)⟩

end Posted

------------------------------------------------------------------------------------------
-- A run
------------------------------------------------------------------------------------------

section Runs

variable {servers : List Url} {operations : List Operation} {rounds : Nat}
  (someServer : servers ≠ []) (someOperation : operations ≠ [])
  (root : ∀ base ∈ servers, base.path = .rooted [""])
  (counted : servers.length * rounds < UInt64.size)

include someServer someOperation root counted

/-- A plan for servers that are posted to at their root can always be made, and posts every
operation to the path that is its endpoint.
-/
theorem exists_plan_of_root
    : ∃ requests, plan servers rounds operations = .ok requests
        ∧ requests.length = servers.length * rounds
        ∧ ∀ i r, requests[i]? = some r →
            operations[i % operations.length]? = some r.operation
            ∧ r.url.path = .rooted [r.operation.path] := by
  have joined {base : Url} (member : base ∈ servers) (o : Operation) :=
    Url.join_closed [] o.path (root base member)
  obtain ⟨requests, made⟩ := exists_requestsOf
    (fun base member o _ => ⟨_, joined member o⟩) (servers.length * rounds)
  have planned : plan servers rounds operations = .ok requests := by
    rw [plan, if_neg (Nat.not_le.mpr counted), made]
  obtain ⟨-, count, each⟩ := (plan_ok_iff someServer someOperation).mp planned
  refine ⟨requests, planned, count, fun i r held => ?_⟩
  obtain ⟨operation, base, server, url⟩ := each i r held
  rw [joined (List.mem_of_getElem? server)] at url
  refine ⟨operation, ?_⟩
  rw [← Except.ok.inj url]
  rfl

/-- A load run against write servers, with any operations without floating-point numbers that nest
not too deep. All requests come back, those with an error are the ones whose bodies are longer than
the servers take, and all others are successful.
-/
theorem run_agrees (whole : ∀ o ∈ operations, o.toJson.NoReals)
    (fits : ∀ o ∈ operations, o.toJson.nesting ≤ Json.maxDepth) (elapsed : Elapsed)
    : ∃ report, run .ofWriteServers elapsed servers rounds operations = .ok report
        ∧ report.total = servers.length * rounds
        ∧ report.missing = []
        ∧ (∀ i, i ∈ report.errors
          ↔ i < report.total ∧ ∃ o, operations[i % operations.length]? = some o
            ∧ bodyLimit < bodyLength o)
        ∧ report.errors.Pairwise (· < ·)
        ∧ report.successful + report.errors.length = report.total := by
  obtain ⟨requests, planned, count, each⟩ :=
    exists_plan_of_root someServer someOperation root counted
  have total : (outcomesFrom .ofWriteServers 0 requests).length = requests.length :=
    length_outcomesFrom
  have answered (i : Nat) (r : PlannedRequest) (held : requests[i]? = some r)
      : ∃ status, Network.ofWriteServers i r = some status
          ∧ (status.isError = true ↔ bodyLimit < bodyLength r.operation) := by
    obtain ⟨operation, endpoint⟩ := each i r held
    have known := List.mem_of_getElem? operation
    exact ofWriteServers_answers endpoint (whole _ known) (fits _ known) i
  obtain ⟨missing, errors⟩ :=
    report_of_answered elapsed (fun r => bodyLimit < bodyLength r.operation) answered
  refine ⟨_, run_ok_iff.mpr ⟨requests, planned, rfl⟩, total.trans count, missing, fun i => ?_,
    Report.pairwise_indicesFrom, ?_⟩
  · rw [errors]
    constructor
    · rintro ⟨r, held, long⟩
      obtain ⟨inside, -⟩ := List.getElem?_eq_some_iff.mp held
      exact ⟨Nat.lt_of_lt_of_eq inside total.symm, r.operation, (each i r held).1, long⟩
    · rintro ⟨inside, o, operation, long⟩
      have held := List.getElem?_eq_getElem (Nat.lt_of_lt_of_eq inside total)
      obtain rfl := Option.some.inj (operation.symm.trans (each i _ held).1)
      exact ⟨_, held, long⟩
  · have sum := Report.successful_add (outcomesFrom .ofWriteServers 0 requests) elapsed
    rw [missing, List.length_nil, Nat.add_zero] at sum
    exact sum

end Runs

------------------------------------------------------------------------------------------
-- Bodies at the limit
------------------------------------------------------------------------------------------

/-- Sets a ref to a letter of two bytes, repeated. -/
def wideBody (count : Nat) : Operation :=
  .ofSet "a" (.text (String.ofList (List.replicate count 'é')))

theorem wideBody_whole (count : Nat) : (wideBody count).toJson.NoReals := by
  simp only [wideBody, Operation.ofSet, Operation.toJson, Operation.fields, SetBody.fields,
    Value.text, Json.NoReals, Json.NoRealMembers, and_self]

theorem wideBody_nesting (count : Nat) : (wideBody count).toJson.nesting = 1 :=
  rfl

/-- The letters take two bytes each, what stands around them takes twenty and two. -/
theorem bodyLength_wideBody (count : Nat) : bodyLength (wideBody count) = 2 * count + 22 := by
  have text : (wideBody count).render.toList
      = "\x7b\"ref\":\"a\",\"value\":\"".toList ++ List.replicate count 'é'
        ++ "\"\x7d".toList := by
    simp [wideBody, Operation.ofSet, Operation.render, Json.render, Operation.toJson,
      Operation.fields, SetBody.fields, Value.text, Json.write, Json.writeMembers,
      Json.writtenString, Json.writtenChar, List.flatMap_replicate]
  have front : ("\x7b\"ref\":\"a\",\"value\":\"".toList.flatMap String.utf8EncodeChar).length
      = 20 := by
    decide +kernel
  have letter : (String.utf8EncodeChar 'é').length = 2 := by decide
  have back : ("\"\x7d".toList.flatMap String.utf8EncodeChar).length = 2 := by decide +kernel
  rw [bodyLength, Text.bytesOf_eq_flatMap, text, List.flatMap_append, List.flatMap_append,
    List.length_append, List.length_append, front, back, List.length_flatMap, List.map_replicate,
    letter, List.sum_replicate_nat]
  omega

/-- A server that is posted to at its root. -/
def rootServer : Url :=
  .plain "http" (some (.domain "localhost")) (.rooted [""])

/-- Bodies of the greatest length and of two bytes more: those of the second kind are refused. -/
theorem run_agrees_atLimit
    : ∃ report,
        run .ofWriteServers ⟨0, 0⟩ [rootServer] 3 [wideBody 8181, wideBody 8182] = .ok report
        ∧ report.missing = []
        ∧ report.errors = [1]
        ∧ report.successful = 2 := by
  have each {property : Operation → Prop} (holds : ∀ count, property (wideBody count))
      : ∀ o ∈ [wideBody 8181, wideBody 8182], property o :=
    List.forall_mem_cons.mpr ⟨holds 8181, List.forall_mem_singleton.mpr (holds 8182)⟩
  obtain ⟨report, reported, total, missing, errors, rising, sum⟩ :=
    run_agrees (List.cons_ne_nil rootServer []) (List.cons_ne_nil _ _)
      (List.forall_mem_singleton.mpr rfl) (by decide : 1 * 3 < UInt64.size) (each wideBody_whole)
      (each fun count => (wideBody_nesting count).symm ▸ by decide) ⟨0, 0⟩
  have short : ¬ bodyLimit < bodyLength (wideBody 8181) := by
    rw [bodyLength_wideBody]
    decide
  have long : bodyLimit < bodyLength (wideBody 8182) := by
    rw [bodyLength_wideBody]
    decide
  have second (i : Nat) : i ∈ report.errors ↔ i ∈ [1] := by
    rw [errors, total, List.mem_singleton]
    constructor
    · rintro ⟨inside, o, held, beyond⟩
      have sent : i = 0 ∨ i = 1 ∨ i = 2 := by
        change i < 3 at inside
        omega
      rcases sent with rfl | rfl | rfl
      · exact absurd (Option.some.inj held ▸ beyond) short
      · rfl
      · exact absurd (Option.some.inj held ▸ beyond) short
    · rintro rfl
      exact ⟨by decide, _, rfl, long⟩
  have once : report.errors.Nodup := rising.imp Nat.ne_of_lt
  have found : report.errors = [1] :=
    List.perm_singleton.mp ((List.perm_ext_iff_of_nodup once (by decide)).mpr second)
  rw [found, total] at sum
  exact ⟨report, reported, missing, found, Nat.succ.inj sum⟩

end NodeTrial.Load
