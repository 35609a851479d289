import NodeTrial.Proofs.Json.Shape
import NodeTrial.Proofs.Operation.Shape
import NodeTrial.Proofs.Operation.Written

/-! Operations read back from their own text: without an endpoint and at their own endpoint as what
was written, and at no other endpoint.
-/

namespace NodeTrial

open Json Text

/-- The text of a value without floating-point numbers that nests not too deep is that value. -/
theorem Json.parse_render {j : Json} (whole : j.NoReals) (fits : j.nesting ≤ maxDepth)
    : Json.parse (symbols j.render) = .ok j := by
  have read := Json.parse_written whole fits (List.forall_mem_nil fun s => isSpace s = true)
  rw [List.append_nil] at read
  rw [symbols, Json.render, String.toList_ofList]
  exact read

theorem BatchEntry.unnumbered (e : BatchEntry) : Shape.numberedTag "op" e.toJson = false := by
  cases e with
  | set b => rfl
  | increase b => rfl
  | update b => rfl

/-- No entry of a written batch has a number for a tag. -/
theorem BatchBody.unnumbered (b : BatchBody) : BatchBody.numbered (.object b.fields) = false := by
  have entries : (b.entries.map BatchEntry.toJson).any (Shape.numberedTag "op") = false := by
    rw [List.any_eq_false]
    intro j member
    obtain ⟨e, -, rfl⟩ := List.mem_map.mp member
    simp [e.unnumbered]
  simp [BatchBody.numbered, fields, asItems, entries]

theorem BatchEntry.parse_render (e : BatchEntry) (whole : e.toJson.NoReals)
    (fits : e.toJson.nesting ≤ maxDepth)
    : BatchEntry.parse (symbols e.render) = .ok e := by
  have read := (BatchEntry.shape_agrees.parse_ok_iff (Json.parse_render whole fits)).mpr
    ⟨e.take_written, e.unnumbered⟩
  exact map_ok_iff.mpr ⟨e.toJson, read, e.ofJson_written⟩

namespace Operation

theorem fits_written (o : Operation) : Fits o.kind o.toJson := by
  cases o with
  | batch b => exact fun _ => b.unnumbered
  | set | increase | update => exact nofun

theorem ofJson?_written (o : Operation) : ofJson? o.toJson = some o := by
  rw [ofJson?, funext (ofKind?_written o)]
  cases o <;> rfl

/-- The text of an operation is read as the operation at its own endpoint, and not at others. -/
theorem parseAs_written_iff {o read : Operation} {k : OperationKind} (whole : o.toJson.NoReals)
    (fits : o.toJson.nesting ≤ maxDepth)
    : parseAs k (symbols o.render) = .ok read ↔ k = o.kind ∧ read = o := by
  rw [render, parseAs_ok_iff (Json.parse_render whole fits), ofKind?_written]
  by_cases same : k = o.kind
  · subst same
    simp [o.fits_written, eq_comm]
  · simp [same]

/-- What is read from a text holds nothing that the text's value does not. -/
theorem within_of_ofJson? {depth : Nat} {exact : Prop} {j : Json} {o : Operation}
    (h : ofJson? j = some o) (within : Within depth exact j)
    : Within depth exact o.toJson := by
  obtain ⟨k, -, stands⟩ := List.exists_of_findSome?_eq_some h
  obtain ⟨fit, taken, rfl⟩ := ofKind?_eq_some.mp stands
  obtain ⟨⟨o, rfl, rfl⟩, kept⟩ := shape_yields k depth exact j fit taken within
  rw [operation_written]
  exact kept

/-- Round trips of written operations. The text of an operation is read back as that operation
without an endpoint and at its own endpoint, and refused by the other three; the text of a batch's
entry is read back as that entry. An operation that is read from any text has no floating-point
number if the text's value has none, and if it has none it is read back from its own text.
-/
theorem parse_written_forms
    : (∀ o : Operation, o.toJson.NoReals → o.toJson.nesting ≤ maxDepth →
        parse (symbols o.render) = .ok o
        ∧ parseAs o.kind (symbols o.render) = .ok o
        ∧ ∀ k, k ≠ o.kind → ∃ e, parseAs k (symbols o.render) = .error e)
      ∧ (∀ e : BatchEntry, e.toJson.NoReals → e.toJson.nesting ≤ maxDepth →
        BatchEntry.parse (symbols e.render) = .ok e)
      ∧ ∀ input o, parse input = .ok o →
          ∃ j, Json.parse input = .ok j
            ∧ (j.NoReals → o.toJson.NoReals)
            ∧ (o.toJson.NoReals → parse (symbols o.render) = .ok o) := by
  have restored (o : Operation) (whole : o.toJson.NoReals) (fits : o.toJson.nesting ≤ maxDepth)
      : parse (symbols o.render) = .ok o :=
    (parse_ok_iff_of (Json.parse_render whole fits)).mpr o.ofJson?_written
  refine ⟨fun o whole fits => ⟨restored o whole fits, ?_, fun k other => ?_⟩,
    BatchEntry.parse_render, fun input o parsed => ?_⟩
  · exact (parseAs_written_iff whole fits).mpr ⟨rfl, rfl⟩
  · cases posted : parseAs k (symbols o.render) with
    | error e => exact ⟨e, rfl⟩
    | ok read => exact absurd ((parseAs_written_iff whole fits).mp posted).1 other
  · obtain ⟨j, read, stands⟩ := parse_ok_iff.mp parsed
    obtain ⟨rest, tree, -⟩ := readWhole_ok_iff.mp read
    have within : Within maxDepth j.NoReals j := ⟨readTree_nesting tree, id⟩
    obtain ⟨fits, exact⟩ := within_of_ofJson? stands within
    exact ⟨j, read, exact, fun whole => restored o whole fits⟩

/-- A batch with an entry of each kind: a ref that is written with escapes, the least delta, and a
ref that is named like a tag.
-/
def mixedBatch : Operation :=
  .ofBatch [.set ⟨"a\"\n", .null⟩,
    .increase ⟨⟨[("n", .minValue)], List.pairwise_singleton _ _⟩⟩,
    .update ⟨⟨[("op", .word 18446744073709551615)], List.pairwise_singleton _ _⟩⟩]

/-- A body that sets a ref, given as a list. -/
def listedBody : String :=
  "[\"a\",7]"

theorem parse_written_forms_mixedBatch
    : (mixedBatch.toJson.NoReals
        ∧ mixedBatch.toJson.nesting ≤ maxDepth
        ∧ parse (symbols mixedBatch.render) = .ok mixedBatch
        ∧ parseAs .batch (symbols mixedBatch.render) = .ok mixedBatch
        ∧ ∃ e, parseAs .set (symbols mixedBatch.render) = .error e)
      ∧ BatchEntry.parse (symbols (BatchEntry.set ⟨"a", .null⟩).render)
        = .ok (BatchEntry.set ⟨"a", .null⟩)
      ∧ parse (symbols listedBody) = .ok (ofSet "a" (.word 7))
      ∧ parse (symbols (ofSet "a" (.word 7)).render) = .ok (ofSet "a" (.word 7)) := by
  have whole : mixedBatch.toJson.NoReals := by
    simp [mixedBatch, ofBatch, toJson, fields, BatchBody.fields, BatchEntry.toJson,
      BatchEntry.bodyFields, SetBody.fields, IncreaseBody.fields, UpdateBody.fields, deltaMembers,
      valueMembers, Value.word, Value.null, NoReals, NoRealItems, NoRealMembers]
  have fits : mixedBatch.toJson.nesting ≤ maxDepth := by decide +kernel
  obtain ⟨restored, posted, refused⟩ := parse_written_forms.1 mixedBatch whole fits
  have entry := parse_written_forms.2.1 (.set ⟨"a", .null⟩)
    (by simp [BatchEntry.toJson, BatchEntry.bodyFields, SetBody.fields, Value.null, NoReals,
      NoRealMembers])
    (by decide)
  have read : parse (symbols listedBody) = .ok (ofSet "a" (.word 7)) :=
    toOption_eq_some.mp (by decide +kernel)
  obtain ⟨_, -, -, again⟩ := parse_written_forms.2.2 _ _ read
  have exact : (ofSet "a" (.word 7)).toJson.NoReals := by
    simp [ofSet, toJson, fields, SetBody.fields, Value.word, NoReals, NoRealMembers]
  exact ⟨⟨whole, fits, restored, posted, refused .set (by decide)⟩, entry, read, again exact⟩

end Operation

end NodeTrial
