import NodeTrial.Proofs.Operation.Shape

/-! Operations read without an endpoint against bodies read at the four endpoints. Both find the
same operation in a text that is one JSON value, unless it is a batch with a numbered entry: that
is an operation, but no endpoint accepts it.
-/

namespace NodeTrial

open Json Text

namespace Operation

/-- The operation that the first endpoint accepting a text reads from it, in the order in which
bodies without an endpoint are tried.
-/
def firstAccepted (input : List Symbol) : Option Operation :=
  OperationKind.all.findSome? fun k => (parseAs k input).toOption

theorem path_injective {k l : OperationKind} (same : k.path = l.path) : k = l := by
  revert same
  cases k <;> cases l <;> decide

theorem ofJson?_fitting {j : Json} {o : Operation} (h : ofJson? j = some o)
    : ofKind? j o.kind = some o := by
  obtain ⟨k, -, fits⟩ := List.exists_of_findSome?_eq_some h
  rw [kind_of_ofKind? fits]
  exact fits

variable {input : List Symbol} {j : Json}

/-- An endpoint finds in a text the operation that its value stands for, or nothing if the value
cannot be read there straight from the text.
-/
theorem parseAs_toOption (whole : Json.parse input = .ok j) (k : OperationKind)
    : (parseAs k input).toOption
      = if k = .batch ∧ BatchBody.numbered j = true then none else ofKind? j k := by
  ext o
  rw [toOption_eq_some, parseAs_ok_iff whole, Fits]
  split
  · next numbered => simp [numbered.1, numbered.2]
  · next direct => simpa using fun _ => by simpa using direct

/-- The operation of the first endpoint is the one that the value stands for, unless that is a
batch with a numbered entry. Batches are tried last, so no other kind is found in their place.
-/
theorem firstAccepted_eq_some (whole : Json.parse input = .ok j) {o : Operation}
    : firstAccepted input = some o
      ↔ ofJson? j = some o ∧ ¬ (o.kind = .batch ∧ BatchBody.numbered j = true) := by
  have order : OperationKind.all = [.set, .increase, .update] ++ [.batch] := rfl
  have direct : [OperationKind.set, .increase, .update].findSome?
        (fun k => (parseAs k input).toOption)
      = [OperationKind.set, .increase, .update].findSome? (ofKind? j) := by
    simp [parseAs_toOption whole, List.findSome?_cons]
  rw [firstAccepted, ofJson?, order, List.findSome?_append, List.findSome?_append,
    List.findSome?_singleton, List.findSome?_singleton, parseAs_toOption whole, direct]
  cases earlier : [OperationKind.set, .increase, .update].findSome? (ofKind? j) with
  | some o' =>
      obtain ⟨k, member, fits⟩ := List.exists_of_findSome?_eq_some earlier
      have other : o'.kind ≠ .batch := by
        rw [kind_of_ofKind? fits]
        rintro rfl
        simp at member
      rw [Option.some_or, Option.some_or, Option.some.injEq]
      exact ⟨fun same => ⟨same, fun numbered => other (same ▸ numbered.1)⟩, fun h => h.1⟩
  | none =>
      rw [Option.none_or, Option.none_or]
      split
      · next numbered =>
        exact iff_of_false nofun fun ⟨stands, named⟩ =>
          named ⟨kind_of_ofKind? stands, numbered.2⟩
      · next named =>
        exact ⟨fun stands => ⟨stands, fun numbered => named ⟨rfl, numbered.2⟩⟩, fun h => h.1⟩

/-- No endpoint accepts a text when only a batch with a numbered entry is read without one. -/
theorem rejected_iff (whole : Json.parse input = .ok j)
    : (∀ k, ∃ e, parseAs k input = .error e)
      ↔ ∀ o, parse input = .ok o → o.kind = .batch ∧ BatchBody.numbered j = true := by
  have none : (∀ k, ∃ e, parseAs k input = .error e) ↔ firstAccepted input = none := by
    rw [firstAccepted, List.findSome?_eq_none_iff]
    exact ⟨fun refused k _ => toOption_eq_none.mpr (refused k),
      fun refused k => toOption_eq_none.mp (refused k (by cases k <;> decide))⟩
  rw [none, Option.eq_none_iff_forall_ne_some]
  refine forall_congr' fun o => ?_
  rw [Ne, firstAccepted_eq_some whole, parse_ok_iff_of whole, not_and, Decidable.not_not]

/-- A body with a further member whose text is no text, which only what passes over it reads. -/
def loneSurrogate : String :=
  "\x7b\"ref\":\"a\",\"value\":1,\"x\":\"\\ud800\"\x7d"

theorem loneSurrogate_read
    : (∃ e, Json.parse (symbols loneSurrogate) = .error e)
      ∧ parseAs .set (symbols loneSurrogate) = .ok (.set ⟨"a", .word 1⟩) :=
  ⟨toOption_eq_none.mp (by decide +kernel), toOption_eq_some.mp (by decide +kernel)⟩

/-- Reading without an endpoint, compared with the endpoints on every text. On a text that is one
JSON value the first endpoint that accepts it reads the same operation, and the endpoint that the
operation is posted to reads it as well, except for a batch with a numbered entry: that is read
without an endpoint and refused by all four. A text that is no JSON value is refused without an
endpoint, though for some an endpoint accepts it, passing over what it does not want.
-/
theorem parse_against_endpoints (input : List Symbol)
    : (∀ j, Json.parse input = .ok j →
        (∀ o, firstAccepted input = some o
          ↔ parse input = .ok o ∧ ¬ (o.kind = .batch ∧ BatchBody.numbered j = true))
        ∧ ((∀ k, ∃ e, parseAs k input = .error e)
          ↔ ∀ o, parse input = .ok o → o.kind = .batch ∧ BatchBody.numbered j = true)
        ∧ ∀ o k, parse input = .ok o → k.path = o.path →
            (parseAs k input = .ok o ↔ ¬ (o.kind = .batch ∧ BatchBody.numbered j = true)))
      ∧ (∀ e, Json.parse input = .error e → ∃ e', parse input = .error e')
      ∧ ∃ malformed e k o, Json.parse malformed = .error e ∧ parseAs k malformed = .ok o := by
  refine ⟨fun j whole => ⟨fun o => ?_, rejected_iff whole, fun o k read same => ?_⟩,
    fun e refused => ?_, ?_⟩
  · rw [firstAccepted_eq_some whole, parse_ok_iff_of whole]
  · obtain rfl := path_injective same
    rw [parseAs_ok_iff whole,
      and_iff_right (ofJson?_fitting ((parse_ok_iff_of whole).mp read)), Fits]
    simp
  · cases read : parse input with
    | error e' => exact ⟨e', rfl⟩
    | ok o =>
        obtain ⟨j, whole, -⟩ := parse_ok_iff.mp read
        rw [refused] at whole
        cases whole
  · obtain ⟨⟨e, refused⟩, accepted⟩ := loneSurrogate_read
    exact ⟨_, e, .set, _, refused, accepted⟩

/-- A batch whose only entry has the number of its kind for a tag. -/
def numberedBatch : String :=
  "\x7b\"batch_list\":[\x7b\"op\":0,\"ref\":\"a\",\"value\":1\x7d]\x7d"

/-- The members of the numbered batch's only entry. -/
def numberedEntry : Json :=
  .object [("op", .number (.whole (.ofWord 0))), ("ref", .text "a"),
    ("value", .number (.whole (.ofWord 1)))]

theorem numberedBatch_whole
    : Json.parse (symbols numberedBatch) = .ok (.object [("batch_list", .list [numberedEntry])]) :=
  toOption_eq_some.mp (by decide +kernel)

theorem numberedBatch_read
    : parse (symbols numberedBatch) = .ok (.batch ⟨[.set ⟨"a", .word 1⟩]⟩) :=
  (parse_ok_iff_of numberedBatch_whole).mpr (by decide)

theorem parse_against_endpoints_numberedBatch
    : (∀ k, ∃ e, parseAs k (symbols numberedBatch) = .error e)
      ∧ parse (symbols numberedBatch) = .ok (.batch ⟨[.set ⟨"a", .word 1⟩]⟩)
      ∧ ∃ e, parse (symbols loneSurrogate) = .error e := by
  refine ⟨?_, numberedBatch_read, ?_⟩
  · refine (((parse_against_endpoints _).1 _ numberedBatch_whole).2.1).mpr fun o read => ?_
    rw [numberedBatch_read] at read
    obtain rfl := Except.ok.inj read
    decide
  · obtain ⟨e, refused⟩ := loneSurrogate_read.1
    exact (parse_against_endpoints _).2.1 e refused

/-- Reading without an endpoint is not reading at the first endpoint that accepts the text. -/
theorem parse_unlike_firstAccepted
    : ¬ ∀ input j, Json.parse input = .ok j → (parse input).toOption = firstAccepted input := by
  intro same
  have read := same _ _ numberedBatch_whole
  rw [numberedBatch_read] at read
  exact ((firstAccepted_eq_some numberedBatch_whole).mp read.symm).2 (by decide)

end Operation

end NodeTrial
