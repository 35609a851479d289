import NodeTrial.Proofs.Operation.Endpoint
import NodeTrial.WriteServer

/-! The dispatch of the write server. A path selects at most one endpoint, and the reply to a
request is what the selected endpoint makes of it alone: the reasons for which the others refuse the
request never mask the reason of this one.
-/

namespace NodeTrial.WriteServer

variable {r : Request} {k : OperationKind}

------------------------------------------------------------------------------------------
-- One endpoint
------------------------------------------------------------------------------------------

/-- A path that selects an endpoint names it after its first slash. -/
theorem name_of_selects {path : List Char} (chosen : selects path k = true)
    : (path.drop 1).takeWhile (· != '/') = k.path.toList := by
  rw [selects, Bool.or_eq_true, decide_eq_true_eq, decide_eq_true_eq] at chosen
  rcases chosen with rfl | rfl
  · cases k <;> decide
  · cases k <;> decide

/-- A path selects no two endpoints. -/
theorem selects_unique {path : List Char} {l : OperationKind} (first : selects path k = true)
    (second : selects path l = true)
    : k = l :=
  Operation.path_injective
    (String.toList_inj.mp ((name_of_selects first).symm.trans (name_of_selects second)))

/-- What an endpoint wants of a request: its own path, a post, a length within the limit, a media
type that is not another than JSON, and a body of its kind.
-/
structure Acceptable (r : Request) (k : OperationKind) : Prop where
  path : selects r.path k = true
  method : r.method = "POST"
  length : ∃ declared, declaredLength? r = some declared ∧ declared.toNat ≤ bodyLimit
  type : hasJsonType r = true
  body : ∃ o, Operation.parseAs k (Text.symbolsOfBytes r.body) = .ok o

/-- The checks of an endpoint, each refusing the request before the next one is made. -/
theorem attempt_eq
    : attempt r k
      = if selects r.path k = false then .error .notFound
        else if r.method ≠ "POST" then .error .methodNotAllowed
        else
          match declaredLength? r with
          | none => .error .lengthRequired
          | some declared =>
            if bodyLimit < declared.toNat then .error .payloadTooLarge
            else if hasJsonType r = false then .error .unsupportedMediaType
            else
              ((Operation.parseAs k (Text.symbolsOfBytes r.body)).map
                fun _ => successReply k).mapError .badBody := by
  unfold attempt
  cases selects r.path k with
  | false => rfl
  | true =>
      by_cases method : r.method = "POST"
      · rw [if_neg (show ¬ r.method ≠ "POST" from fun other => other method)]
        simp only [method]
        cases declaredLength? r with
        | none => rfl
        | some declared =>
            by_cases long : bodyLimit < declared.toNat
            · simp only [long]
              rfl
            · simp only [long]
              cases hasJsonType r with
              | false => rfl
              | true => cases Operation.parseAs k (Text.symbolsOfBytes r.body) <;> rfl
      · rw [if_pos method]
        simp only [bne_iff_ne.mpr method]
        rfl

theorem attempt_of_unselected (unselected : selects r.path k = false)
    : attempt r k = .error .notFound := by
  rw [attempt_eq, if_pos unselected]

/-- An endpoint answers the requests that it wants, always with its fixed reply. -/
theorem attempt_ok_iff {reply : Reply}
    : attempt r k = .ok reply ↔ Acceptable r k ∧ successReply k = reply := by
  rw [attempt_eq, check_ok_iff, check_ok_iff]
  cases length : declaredLength? r with
  | none =>
      refine iff_of_false (fun answered => nomatch answered.2.2) fun wanted => ?_
      obtain ⟨declared, some, -⟩ := wanted.1.length
      cases length.symm.trans some
  | some declared =>
      simp only [check_ok_iff, mapError_eq_ok, map_ok_iff]
      constructor
      · rintro ⟨path, method, short, type, o, body, fixed⟩
        exact ⟨⟨eq_true_of_ne_false path, Decidable.not_not.mp method,
          ⟨declared, length, Nat.not_lt.mp short⟩, eq_true_of_ne_false type, o, body⟩, fixed⟩
      · rintro ⟨⟨path, method, ⟨some, same, short⟩, type, o, body⟩, fixed⟩
        obtain rfl := Option.some.inj (length.symm.trans same)
        exact ⟨ne_false_of_eq_true path, not_not_intro method, Nat.not_lt.mpr short,
          ne_false_of_eq_true type, o, body, fixed⟩

------------------------------------------------------------------------------------------
-- All endpoints
------------------------------------------------------------------------------------------

section Turns

variable {kinds : List OperationKind}

/-- The reply of an endpoint is given when all others refuse the request. -/
theorem firstReply_ok {reply : Reply} (answered : attempt r k = .ok reply)
    : k ∈ kinds → (∀ l ∈ kinds, l ≠ k → ∃ e, attempt r l = .error e)
      → firstReply r kinds = .ok reply := by
  induction kinds with
  | nil => exact fun member => absurd member List.not_mem_nil
  | cons l rest ih =>
      intro member others
      by_cases same : l = k
      · subst same
        simp only [firstReply, answered]
      · obtain ⟨e, refused⟩ := others l List.mem_cons_self same
        have later := ih ((List.mem_cons.mp member).resolve_left (Ne.symm same))
          fun l member => others l (List.mem_cons_of_mem _ member)
        simp only [firstReply, refused, later, mapError_ok]

/-- When all endpoints refuse the request, their reasons are kept in the same order. -/
theorem firstReply_error {why : OperationKind → Rejection}
    : (∀ l ∈ kinds, attempt r l = .error (why l))
      → firstReply r kinds = .error (kinds.map why) := by
  induction kinds with
  | nil => exact fun _ => rfl
  | cons l rest ih =>
      intro refused
      obtain ⟨first, others⟩ := List.forall_mem_cons.mp refused
      simp only [firstReply, first, ih others, mapError_error, List.map_cons]

end Turns

section Classification

variable {rejections : List Rejection} {e : Rejection}

theorem bodyError?_alone (found : e ∈ rejections) (others : ∀ x ∈ rejections, x = e ∨ x = .notFound)
    : bodyError? rejections = bodyError? [e] := by
  cases read : bodyError? rejections with
  | none =>
      have none := List.findSome?_eq_none_iff.mp read e found
      simp [bodyError?, none]
  | some error =>
      obtain ⟨x, member, gives⟩ := List.exists_of_findSome?_eq_some read
      rcases others x member with rfl | rfl
      · simp [bodyError?, gives]
      · cases gives

/-- Rejections for want of an endpoint mask no other one. -/
theorem classify_alone (found : e ∈ rejections) (others : ∀ x ∈ rejections, x = e ∨ x = .notFound)
    : classify rejections = classify [e] := by
  have contained {reason : Rejection} (known : reason ≠ .notFound)
      : rejections.contains reason = [e].contains reason := by
    rw [Bool.eq_iff_iff, List.contains_iff_mem, List.contains_iff_mem, List.mem_singleton]
    exact ⟨fun member => (others reason member).resolve_right known, fun same => same ▸ found⟩
  have all : rejections.all (· = .notFound) = [e].all (· = .notFound) := by
    rw [Bool.eq_iff_iff]
    simp only [List.all_eq_true, List.mem_singleton, decide_eq_true_eq, forall_eq]
    exact ⟨fun all => all e found, fun same x member => (others x member).elim (· ▸ same) id⟩
  simp only [classify, all, bodyError?_alone found others,
    contained (show Rejection.payloadTooLarge ≠ .notFound from nofun),
    contained (show Rejection.unsupportedMediaType ≠ .notFound from nofun),
    contained (show Rejection.methodNotAllowed ≠ .notFound from nofun)]

theorem status_classify (rejections : List Rejection)
    : (classify rejections).status ∈ [400, 404, 405, 413, 415, 500] := by
  unfold classify
  split
  · decide
  · split
    · simp [errorReply]
    · split
      · decide
      · split
        · decide
        · split <;> decide

end Classification

theorem status_successReply (k : OperationKind) : (successReply k).status ∈ [200, 201] := by
  cases k <;> decide

theorem mem_endpoints (k : OperationKind) : k ∈ endpoints := by
  cases k <;> decide

/-- The reply to a request is that of the endpoint selected by its path, or is made from the reason
of this endpoint alone.
-/
theorem respond_of_selects (chosen : selects r.path k = true)
    : respond r
      = match attempt r k with
        | .ok reply => reply
        | .error e => classify [e] := by
  have others {l : OperationKind} (other : l ≠ k) : attempt r l = .error .notFound :=
    attempt_of_unselected
      (Bool.eq_false_iff.mpr fun selected => other (selects_unique selected chosen))
  cases result : attempt r k with
  | ok reply =>
      rw [respond, firstReply_ok result (mem_endpoints k) fun l _ other => ⟨_, others other⟩]
  | error e =>
      have refused (l : OperationKind)
          : attempt r l = .error (if l = k then e else .notFound) := by
        split
        · next same => rw [same, result]
        · next other => exact others other
      rw [respond, firstReply_error fun l _ => refused l]
      refine classify_alone (List.mem_map.mpr ⟨k, mem_endpoints k, if_pos rfl⟩) fun x member => ?_
      obtain ⟨l, -, rfl⟩ := List.mem_map.mp member
      split
      · exact .inl rfl
      · exact .inr rfl

end NodeTrial.WriteServer
