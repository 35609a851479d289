import NodeTrial.Proofs.Operation.RoundTrip
import NodeTrial.Proofs.Text.Utf8
import NodeTrial.Proofs.WriteServer
import NodeTrial.Proofs.WriteServer.MediaType

/-! The replies of the write server. A request of a declared length is refused for the first check
that it fails, in the order path, method, length, media type and body, and otherwise gets the reply
of its endpoint. Only a request that reaches an endpoint and declares no length fails at the server.
-/

namespace NodeTrial.WriteServer

variable {r : Request} {k : OperationKind} {declared : UInt64} {status : Nat}

------------------------------------------------------------------------------------------
-- The checks of one endpoint
------------------------------------------------------------------------------------------

section Checks

variable (selected : selects r.path k = true)

include selected

theorem attempt_of_otherMethod (other : r.method ≠ "POST")
    : attempt r k = .error .methodNotAllowed := by
  rw [attempt_eq, if_neg (ne_false_of_eq_true selected), if_pos other]

variable (posted : r.method = "POST")

include posted

theorem attempt_of_posted
    : attempt r k
      = match declaredLength? r with
        | none => .error .lengthRequired
        | some declared =>
          if bodyLimit < declared.toNat then .error .payloadTooLarge
          else if hasJsonType r = false then .error .unsupportedMediaType
          else
            ((Operation.parseAs k (Text.symbolsOfBytes r.body)).map
              fun _ => successReply k).mapError .badBody :=
  have found := if_neg (ne_false_of_eq_true selected)
  attempt_eq.trans (found.trans (if_neg (not_not_intro posted)))

theorem attempt_of_undeclared (undeclared : declaredLength? r = none)
    : attempt r k = .error .lengthRequired := by
  rw [attempt_of_posted selected posted, undeclared]

variable (length : declaredLength? r = some declared)

include length

theorem attempt_of_long (long : bodyLimit < declared.toNat)
    : attempt r k = .error .payloadTooLarge := by
  rw [attempt_of_posted selected posted, length]
  exact if_pos long

variable (short : declared.toNat ≤ bodyLimit)

include short

theorem attempt_of_otherType (other : hasJsonType r = false)
    : attempt r k = .error .unsupportedMediaType := by
  rw [attempt_of_posted selected posted, length]
  dsimp only
  rw [if_neg (Nat.not_lt.mpr short), if_pos other]

theorem attempt_of_unread (type : hasJsonType r = true) {e : ReadError}
    (unread : Operation.parseAs k (Text.symbolsOfBytes r.body) = .error e)
    : attempt r k = .error (.badBody e) := by
  rw [attempt_of_posted selected posted, length]
  dsimp only
  rw [if_neg (Nat.not_lt.mpr short), if_neg (ne_false_of_eq_true type), unread]
  rfl

end Checks

------------------------------------------------------------------------------------------
-- Requests of a declared length
------------------------------------------------------------------------------------------

/-- The statuses of requests that are refused, for the first check that a request of this declared
length fails.
-/
inductive Refusal (r : Request) (declared : UInt64) : Nat → Prop where
  | unknownPath (unselected : ∀ k, selects r.path k = false) : Refusal r declared 404
  | otherMethod {k : OperationKind} (selected : selects r.path k = true)
    (other : r.method ≠ "POST")
    : Refusal r declared 405
  | tooLong {k : OperationKind} (selected : selects r.path k = true) (posted : r.method = "POST")
    (long : bodyLimit < declared.toNat)
    : Refusal r declared 413
  | otherType {k : OperationKind} {value : String} (selected : selects r.path k = true)
    (posted : r.method = "POST") (short : declared.toNat ≤ bodyLimit)
    (present : r.header? "content-type" = some value) (other : ¬ IsJsonType value)
    : Refusal r declared 415
  | badBody {k : OperationKind} (selected : selects r.path k = true) (posted : r.method = "POST")
    (short : declared.toNat ≤ bodyLimit)
    (type : ∀ value, r.header? "content-type" = some value → IsJsonType value)
    (unread : ∀ o, Operation.parseAs k (Text.symbolsOfBytes r.body) ≠ .ok o)
    : Refusal r declared 400

/-- A request that no endpoint is selected for is not found, whatever else is wrong with it. -/
theorem respond_of_unselected (unselected : ∀ k, selects r.path k = false)
    : respond r = errorReply 404 "Not found" := by
  rw [respond, firstReply_error fun l _ => attempt_of_unselected (unselected l)]
  rfl

theorem respond_of_refused (selected : selects r.path k = true) {e : Rejection}
    (refused : attempt r k = .error e)
    : respond r = classify [e] := by
  rw [respond_of_selects selected, refused]

theorem Acceptable.reply (wanted : Acceptable r k) : respond r = successReply k := by
  rw [respond_of_selects wanted.path, attempt_ok_iff.mpr ⟨wanted, rfl⟩]

/-- A refused request is answered with the status of its refusal and a message, by its cases. -/
theorem Refusal.reply (length : declaredLength? r = some declared)
    (refusal : Refusal r declared status)
    : ∃ message, respond r = errorReply status message := by
  cases refusal with
  | unknownPath unselected => exact ⟨_, respond_of_unselected unselected⟩
  | otherMethod selected other =>
      exact ⟨_, respond_of_refused selected (attempt_of_otherMethod selected other)⟩
  | tooLong selected posted long =>
      exact ⟨_, respond_of_refused selected (attempt_of_long selected posted length long)⟩
  | otherType selected posted short present other =>
      have type : hasJsonType r = false :=
        Bool.eq_false_iff.mpr fun json => other (hasJsonType_iff.mp json _ present)
      exact ⟨_, respond_of_refused selected
        (attempt_of_otherType selected posted length short type)⟩
  | @badBody k selected posted short type unread =>
      cases read : Operation.parseAs k (Text.symbolsOfBytes r.body) with
      | ok o => exact absurd read (unread o)
      | error e =>
          exact ⟨_, respond_of_refused selected
            (attempt_of_unread selected posted length short (hasJsonType_iff.mpr type) read)⟩

/-- The checks are complete: a request that fails none of them is what its endpoint wants. -/
theorem refusal_or_acceptable (length : declaredLength? r = some declared)
    : (∃ status, Refusal r declared status) ∨ ∃ k, Acceptable r k := by
  by_cases known : ∃ k, selects r.path k = true
  · obtain ⟨k, selected⟩ := known
    by_cases posted : r.method = "POST"
    · rcases Nat.lt_or_ge bodyLimit declared.toNat with long | short
      · exact .inl ⟨_, .tooLong selected posted long⟩
      · by_cases type : ∀ value, r.header? "content-type" = some value → IsJsonType value
        · cases read : Operation.parseAs k (Text.symbolsOfBytes r.body) with
          | error e =>
              have unread (o : Operation)
                  : Operation.parseAs k (Text.symbolsOfBytes r.body) ≠ .ok o := by
                rw [read]
                nofun
              exact .inl ⟨_, .badBody selected posted short type unread⟩
          | ok o =>
              exact .inr ⟨k, selected, posted, ⟨declared, length, short⟩, hasJsonType_iff.mpr type,
                o, read⟩
        · obtain ⟨value, other⟩ := Classical.not_forall.mp type
          obtain ⟨present, other⟩ := Classical.not_imp.mp other
          exact .inl ⟨_, .otherType selected posted short present other⟩
    · exact .inl ⟨_, .otherMethod selected posted⟩
  · exact .inl ⟨_, .unknownPath fun k => Bool.eq_false_iff.mpr (not_exists.mp known k)⟩

theorem Refusal.bounds (refusal : Refusal r declared status) : 400 ≤ status ∧ status < 500 := by
  cases refusal <;> decide

theorem successReply_injective {l : OperationKind} (same : successReply k = successReply l)
    : k = l := by
  revert same
  cases k <;> cases l <;> decide

theorem successReply_ne_errorReply (refused : 400 ≤ status) {message : String}
    : successReply k ≠ errorReply status message := by
  intro same
  have statuses := status_successReply k
  rw [same] at statuses
  have : (errorReply status message).status = status := rfl
  simp only [this, List.mem_cons, List.not_mem_nil, or_false] at statuses
  omega

/-- A request of a declared length is refused exactly if its reply has the status of the refusal. -/
theorem refusal_iff (length : declaredLength? r = some declared)
    : Refusal r declared status ↔ (respond r).status = status ∧ 400 ≤ status := by
  constructor
  · intro refusal
    obtain ⟨message, reply⟩ := refusal.reply length
    rw [reply]
    exact ⟨rfl, refusal.bounds.1⟩
  · rintro ⟨rfl, failed⟩
    rcases refusal_or_acceptable length with ⟨status, refusal⟩ | ⟨k, wanted⟩
    · obtain ⟨message, reply⟩ := refusal.reply length
      rw [reply]
      exact refusal
    · have statuses := status_successReply k
      rw [wanted.reply] at failed
      simp only [List.mem_cons, List.not_mem_nil, or_false] at statuses
      omega

theorem acceptable_iff (length : declaredLength? r = some declared)
    : Acceptable r k ↔ respond r = successReply k := by
  refine ⟨Acceptable.reply, fun answered => ?_⟩
  rcases refusal_or_acceptable length with ⟨status, refusal⟩ | ⟨l, wanted⟩
  · obtain ⟨message, reply⟩ := refusal.reply length
    exact absurd (answered.symm.trans reply) (successReply_ne_errorReply refusal.bounds.1)
  · exact successReply_injective (wanted.reply.symm.trans answered) ▸ wanted

/-- The body of an operation is read by no other endpoint than its own. -/
theorem unread_of_foreign {o : Operation}
    (stands : Json.parse (Text.symbolsOfBytes r.body) = .ok o.toJson) (other : k ≠ o.kind)
    (read : Operation)
    : Operation.parseAs k (Text.symbolsOfBytes r.body) ≠ .ok read := by
  rw [Ne, Operation.parseAs_ok_iff stands, Operation.ofKind?_written, if_neg other]
  exact fun ⟨found, _⟩ => nomatch found

/-- The dispatch of a request that declares the length of its body. The reply has the status of an
error exactly if the request is refused, and then it is that of the first check that fails: 404 for
the path, 405 for the method, 413 for the length, 415 for the media type and 400 for the body. The
reply is the fixed one of an endpoint exactly if that endpoint wants the request, and this is so
whenever it is not refused. Every error is a JSON object with the code 1, and the body of an
operation of another kind is none that an endpoint reads.
-/
theorem respond_dispatches (length : declaredLength? r = some declared)
    : (∀ status, Refusal r declared status ↔ (respond r).status = status ∧ 400 ≤ status)
      ∧ (∀ k, Acceptable r k ↔ respond r = successReply k)
      ∧ ((∃ k, Acceptable r k) ↔ ∀ status, ¬ Refusal r declared status)
      ∧ (400 ≤ (respond r).status →
          ∃ message,
            (respond r).body
            = .object [("code", .number (.whole (.ofWord 1))), ("message", .text message)])
      ∧ ∀ (o : Operation) k, Json.parse (Text.symbolsOfBytes r.body) = .ok o.toJson → k ≠ o.kind →
          ∀ read, Operation.parseAs k (Text.symbolsOfBytes r.body) ≠ .ok read := by
  refine ⟨fun status => refusal_iff length, fun k => acceptable_iff length, ⟨?_, ?_⟩, ?_,
    fun o k stands other => unread_of_foreign stands other⟩
  · rintro ⟨k, wanted⟩ status refusal
    obtain ⟨message, reply⟩ := refusal.reply length
    exact successReply_ne_errorReply refusal.bounds.1 (wanted.reply.symm.trans reply)
  · exact fun accepted => (refusal_or_acceptable length).resolve_left (not_exists.mpr accepted)
  · intro failed
    obtain ⟨message, reply⟩ := ((refusal_iff length).mpr ⟨rfl, failed⟩).reply length
    exact ⟨message, by rw [reply]; rfl⟩

/-- Adds one to the number at a ref. -/
def addsOne : Operation :=
  .increase ⟨⟨[("a", 1)], List.pairwise_singleton _ _⟩⟩

/-- A batch is posted with the body of an increase. Its headers are unusual and correct. -/
def foreignBody : Request where
  method := "POST"
  target := "/batch/?x"
  headers := [("Content-Length", "+16384"), ("content-type", "Application/JSON+x; q=\"1\"")]
  body := Text.bytesOf addsOne.render

theorem respond_dispatches_foreignBody
    : (respond foreignBody).status = 400
      ∧ (∃ message,
          (respond foreignBody).body
          = .object [("code", .number (.whole (.ofWord 1))), ("message", .text message)])
      ∧ ∀ k, ¬ Acceptable foreignBody k := by
  have length : declaredLength? foreignBody = some 16384 := by decide +kernel
  have selected : selects foreignBody.path .batch = true := by decide +kernel
  have type : hasJsonType foreignBody = true := by decide +kernel
  have whole : addsOne.toJson.NoReals := by
    simp [addsOne, Operation.toJson, Operation.fields, IncreaseBody.fields, Json.NoReals,
      Json.NoRealMembers, deltaMembers]
  have stands : Json.parse (Text.symbolsOfBytes foreignBody.body) = .ok addsOne.toJson := by
    rw [foreignBody, Text.symbolsOfBytes_bytesOf]
    exact Json.parse_render whole (by decide)
  obtain ⟨refused, -, complete, errors, foreign⟩ := respond_dispatches length
  have refusal : Refusal foreignBody 16384 400 :=
    .badBody selected rfl (by decide) (hasJsonType_iff.mp type)
      (foreign addsOne .batch stands (by decide))
  have status := ((refused 400).mp refusal).1
  refine ⟨status, errors (Nat.le_of_eq status.symm), fun k wanted => ?_⟩
  exact complete.mp ⟨k, wanted⟩ 400 refusal

------------------------------------------------------------------------------------------
-- Requests of any length or none
------------------------------------------------------------------------------------------

/-- A reply that is no failure of the server: a fixed reply of an endpoint or an error that is laid
to the request.
-/
def Answered (r : Request) : Prop :=
  (∃ k, respond r = successReply k)
  ∨ ∃ status message, 400 ≤ status ∧ status < 500 ∧ respond r = errorReply status message

/-- A request that reaches an endpoint and declares no length that can be read. -/
structure Unmeasured (r : Request) : Prop where
  selected : ∃ k, selects r.path k = true
  posted : r.method = "POST"
  undeclared : declaredLength? r = none

/-- The missing length is a reason that no error reply is made for. -/
theorem Unmeasured.reply (unmeasured : Unmeasured r)
    : respond r = errorReply 500 "Unhandled rejection" := by
  obtain ⟨⟨k, selected⟩, posted, undeclared⟩ := unmeasured
  rw [respond_of_refused selected (attempt_of_undeclared selected posted undeclared)]
  rfl

theorem answered_of_measured (measured : ¬ Unmeasured r) : Answered r := by
  cases length : declaredLength? r with
  | some declared =>
      rcases refusal_or_acceptable length with ⟨status, refusal⟩ | ⟨k, wanted⟩
      · obtain ⟨message, reply⟩ := refusal.reply length
        exact .inr ⟨status, message, refusal.bounds.1, refusal.bounds.2, reply⟩
      · exact .inl ⟨k, wanted.reply⟩
  | none =>
      by_cases known : ∃ k, selects r.path k = true
      · obtain ⟨k, selected⟩ := known
        have other : r.method ≠ "POST" := fun posted => measured ⟨⟨k, selected⟩, posted, length⟩
        exact .inr ⟨405, _, by decide, by decide,
          respond_of_refused selected (attempt_of_otherMethod selected other)⟩
      · have unselected (k : OperationKind) : selects r.path k = false :=
          Bool.eq_false_iff.mpr (not_exists.mp known k)
        exact .inr ⟨404, _, by decide, by decide, respond_of_unselected unselected⟩

theorem Unmeasured.not_answered (unmeasured : Unmeasured r) : ¬ Answered r := by
  rintro (⟨k, reply⟩ | ⟨status, message, -, bounded, reply⟩)
  · exact successReply_ne_errorReply (by decide) (reply.symm.trans unmeasured.reply)
  · have same : status = 500 := congrArg Reply.status (reply.symm.trans unmeasured.reply)
    omega

/-- Every request is answered but those that reach an endpoint and declare no length that can be
read: those, and no others, get the reply that is made for unforeseen reasons.
-/
theorem respond_answered_iff (r : Request)
    : (Answered r ↔ ¬ Unmeasured r)
      ∧ (respond r = errorReply 500 "Unhandled rejection" ↔ Unmeasured r) := by
  refine ⟨⟨fun answered unmeasured => unmeasured.not_answered answered, answered_of_measured⟩,
    fun failed => ?_, Unmeasured.reply⟩
  refine Classical.byContradiction fun measured => ?_
  rcases answered_of_measured measured with ⟨k, reply⟩ | ⟨status, message, -, bounded, reply⟩
  · exact successReply_ne_errorReply (by decide) (reply.symm.trans failed)
  · have same : status = 500 := congrArg Reply.status (reply.symm.trans failed)
    omega

/-- A post without headers and without a body is not answered. -/
theorem respond_unanswered : ¬ ∀ r, Answered r :=
  fun all =>
    have unmeasured : Unmeasured ⟨"POST", "/set", [], []⟩ := ⟨⟨.set, by decide⟩, rfl, rfl⟩
    unmeasured.not_answered (all _)

end NodeTrial.WriteServer
