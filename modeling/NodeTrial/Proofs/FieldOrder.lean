import NodeTrial.Envelope
import NodeTrial.Proofs.Json.ObjectText
import NodeTrial.Proofs.Json.Rearranged
import NodeTrial.Proofs.Operation.Shape
import NodeTrial.Transaction

/-! The order of fields. Bodies, entries, operations, transactions and envelopes are read alike from
texts of one object whose fields stand in different orders, and fields of unknown names change
nothing wherever they are put in.
-/

namespace NodeTrial

open Json Json.Shape Text

-----------------------------------------------------------------------------------------
-- Shapes of transactions and envelopes
-----------------------------------------------------------------------------------------

theorem Transaction.shape_agrees : Transaction.shape.Agrees fun _ => True := by
  have operation : Transaction.operationShape.Agrees fun _ => True := by
    refine record_agrees_always "TxOperation" ?_
    simp only [List.forall_mem_cons]
    exact ⟨text_agrees, text_agrees, any_agrees, List.forall_mem_nil _⟩
  refine record_agrees_always "Tx" ?_
  simp only [List.forall_mem_cons]
  exact ⟨operation, unsigned_agrees, List.forall_mem_nil _⟩

theorem Envelope.shape_agrees : Envelope.shape.Agrees fun _ => True := by
  refine record_agrees_always "ValueResponse" ?_
  simp only [List.forall_mem_cons]
  exact ⟨optionalSigned_agrees, any_agrees, List.forall_mem_nil _⟩

-----------------------------------------------------------------------------------------
-- Texts with the same fields
-----------------------------------------------------------------------------------------

/-- A text of an object has the fields of another one in any order, and among them any fields whose
names are not known. No field of the first text comes twice.
-/
structure Json.ObjectText.Extends (known : List String) (o o' : ObjectText) : Prop where
  distinct : o.names.Nodup
  fields
    : ∃ inserted : List FieldText,
        o'.fields.Perm (o.fields ++ inserted) ∧ ∀ f ∈ inserted, f.name ∉ known

theorem Json.ObjectText.Extends.rearranged {known : List String} {o o' : ObjectText}
    (extended : ObjectText.Extends known o o')
    : Rearranged known o.members o'.members := by
  obtain ⟨distinct, inserted, perm, unknown⟩ := extended
  have none : knownMembers known (inserted.map fun f => (f.name, f.value)) = [] := by
    refine List.filter_eq_nil_iff.mpr fun m member => ?_
    obtain ⟨f, inside, rfl⟩ := List.mem_map.mp member
    simpa using unknown f inside
  refine ⟨?_, ?_⟩
  · have all : o'.members.Perm (o.members ++ inserted.map fun f => (f.name, f.value)) := by
      rw [ObjectText.members, ObjectText.members, ← List.map_append]
      exact perm.map _
    have kept := (all.filter fun m => decide (m.1 ∈ known)).symm
    rw [List.filter_append] at kept
    rw [knownMembers] at none
    rwa [none, List.append_nil] at kept
  · have names : o.members.map (·.1) = o.names := by
      rw [ObjectText.members, ObjectText.names, List.map_map]
      rfl
    rw [← names] at distinct
    exact distinct.sublist (List.filter_sublist.map _)

/-- A reader has the same answers for every two texts that have the same fields of known names: it
reads equal values from both or refuses both.
-/
def ReadsAlike {α : Type} (known : List String) (parse : List Symbol → Except ReadError α) : Prop :=
  ∀ o o' : ObjectText, o.Extends known o' → (parse o'.text).toOption = (parse o.text).toOption

/-- Readers of values that are the same for objects rearranged have the same answers. -/
theorem ReadsAlike.of_rearranged {α : Type} {known : List String}
    {parse : List Symbol → Except ReadError α}
    (keeps
      : ∀ {o o' : ObjectText} {value}, Rearranged known o.members o'.members →
          parse o.text = .ok value → parse o'.text = .ok value)
    : ReadsAlike known parse := by
  intro o o' extended
  have same := extended.rearranged
  ext value
  rw [toOption_eq_some, toOption_eq_some]
  exact ⟨keeps same.symm, keeps same⟩

/-- What is read through a shape is read alike if the shape looks fields up by their names. -/
theorem ReadsAlike.of_shape {α : Type} {known : List String} {s : Shape} {fits : Json → Prop}
    (agrees : s.Agrees fits) (unordered : s.Unordered known)
    (stable
      : ∀ {members others}, Rearranged known members others → fits (.object members) →
          fits (.object others))
    (f : Json → α)
    : ReadsAlike known fun input => (s.parse input).map f := by
  refine of_rearranged fun {o o' value} same h => ?_
  obtain ⟨normal, read, rfl⟩ := map_ok_iff.mp h
  obtain ⟨taken, fit⟩ := (agrees.parse_ok_iff o.parse_text).mp read
  refine map_ok_iff.mpr ⟨normal, (agrees.parse_ok_iff o'.parse_text).mpr ?_, rfl⟩
  exact ⟨unordered _ _ _ same taken, stable same fit⟩

-----------------------------------------------------------------------------------------
-- The readers
-----------------------------------------------------------------------------------------

theorem SetBody.shape_unordered : SetBody.shape.Unordered ["ref", "value"] :=
  record_unordered "SetBody" _

theorem IncreaseBody.shape_unordered : IncreaseBody.shape.Unordered ["diff"] :=
  record_unordered "IncreaseBody" _

theorem UpdateBody.shape_unordered : UpdateBody.shape.Unordered ["data"] :=
  record_unordered "UpdateBody" _

theorem BatchBody.shape_unordered : BatchBody.shape.Unordered ["batch_list"] :=
  record_unordered "BatchBody" _

theorem BatchEntry.shape_unordered
    : BatchEntry.shape.Unordered ["op", "ref", "value", "diff", "data"] := by
  refine tagged_unordered _ List.mem_cons_self ?_
  simp only [List.forall_mem_cons]
  refine ⟨SetBody.shape_unordered.mono ?_, IncreaseBody.shape_unordered.mono ?_,
    UpdateBody.shape_unordered.mono ?_, List.forall_mem_nil _⟩
  all_goals decide

namespace Operation

/-- The names of the fields that a body of some kind has. -/
def knownNames : List String :=
  ["ref", "value", "diff", "data", "batch_list"]

theorem shape_unordered (k : OperationKind) : k.shape.Unordered knownNames := by
  cases k with
  | set => exact SetBody.shape_unordered.mono (by decide)
  | increase => exact IncreaseBody.shape_unordered.mono (by decide)
  | update => exact UpdateBody.shape_unordered.mono (by decide)
  | batch => exact BatchBody.shape_unordered.mono (by decide)

/-- Each kind fits both of two objects that are the same in all names of fields, or neither. -/
theorem ofJson?_rearranged {members others : List (String × Json)}
    (same : Rearranged knownNames members others)
    : ofJson? (.object members) = ofJson? (.object others) := by
  have each (k : OperationKind) : ofKind? (.object members) k = ofKind? (.object others) k := by
    ext o
    rw [ofKind?_eq_some, ofKind?_eq_some]
    refine exists_congr fun fit => and_congr_left fun _ => ?_
    exact ⟨shape_unordered k _ _ _ same, shape_unordered k _ _ _ same.symm⟩
  rw [ofJson?, ofJson?, funext each]

theorem readsAlike : ReadsAlike knownNames parse := by
  refine .of_rearranged fun {o o' value} same h => ?_
  rw [parse_ok_iff_of o.parse_text, ofJson?_rearranged same] at h
  exact (parse_ok_iff_of o'.parse_text).mpr h

end Operation

/-- The order of fields, and unknown fields, change no answer. A text that is read as an object is a
text of its fields; another text with the same fields in any order, and with any fields put in
whose names the reader does not know, is read by each of the eight readers as the first one is:
with an equal answer, or not at all. For operations the names of all four bodies are known, for the
entries of batches those of the three bodies and the tag, which may stand anywhere.
-/
theorem fields_read_alike
    : (∀ input members, Json.parse input = .ok (.object members)
        ↔ ∃ o : ObjectText, o.text = input ∧ o.members = members)
      ∧ ReadsAlike ["ref", "value"] SetBody.parse
      ∧ ReadsAlike ["diff"] IncreaseBody.parse
      ∧ ReadsAlike ["data"] UpdateBody.parse
      ∧ ReadsAlike ["batch_list"] BatchBody.parse
      ∧ ReadsAlike ["op", "ref", "value", "diff", "data"] BatchEntry.parse
      ∧ ReadsAlike ["ref", "value", "diff", "data", "batch_list"] Operation.parse
      ∧ ReadsAlike ["operation", "nonce"] Transaction.parse
      ∧ ReadsAlike ["code", "result"] Envelope.parse := by
  refine ⟨fun _ _ => parse_object_iff, ?_, ?_, ?_, ?_, ?_, Operation.readsAlike, ?_, ?_⟩
  · exact .of_shape SetBody.shape_agrees SetBody.shape_unordered (fun _ _ => trivial) _
  · exact .of_shape IncreaseBody.shape_agrees IncreaseBody.shape_unordered (fun _ _ => trivial) _
  · exact .of_shape UpdateBody.shape_agrees UpdateBody.shape_unordered (fun _ _ => trivial) _
  · refine .of_shape BatchBody.shape_agrees BatchBody.shape_unordered (fun same => ?_) _
    exact (same.any_eq List.mem_cons_self fun j => j.asItems.any (numberedTag "op")).symm.trans
  · refine .of_shape BatchEntry.shape_agrees BatchEntry.shape_unordered (fun same => ?_) _
    exact (same.any_eq List.mem_cons_self isNumber).symm.trans
  · exact .of_shape Transaction.shape_agrees (record_unordered "Tx" _) (fun _ _ => trivial) _
  · exact .of_shape Envelope.shape_agrees (record_unordered "ValueResponse" _)
      (fun _ _ => trivial) _

/-- The fields of a batch's entry that sets a ref to one. -/
def entryFields : List FieldText :=
  [.written "op" (.text "set") (by simp [NoReals]) (by decide),
    .written "ref" (.text "a") (by simp [NoReals]) (by decide),
    .written "value" (.number (.whole (.ofWord 1))) (by simp [NoReals]) (by decide)]

/-- A field that no entry knows. -/
def foreignField : FieldText :=
  .written "x" (.list []) (by simp [NoReals, NoRealItems]) (by decide)

/-- The entry as it is written. -/
def orderedEntry : ObjectText :=
  ⟨[], [], entryFields, [], by simp [Blank]⟩

/-- The entry with its fields in the opposite order, the tag last and a foreign field first. -/
def reversedEntry : ObjectText :=
  ⟨[], [.char ' '], (entryFields ++ [foreignField]).reverse, [], by simp [Blank, isSpace]⟩

theorem fields_read_alike_reversed
    : orderedEntry.Extends ["op", "ref", "value", "diff", "data"] reversedEntry
      ∧ BatchEntry.parse orderedEntry.text = .ok (.set ⟨"a", .word 1⟩)
      ∧ BatchEntry.parse reversedEntry.text = .ok (.set ⟨"a", .word 1⟩) := by
  have extended : orderedEntry.Extends ["op", "ref", "value", "diff", "data"] reversedEntry := by
    refine ⟨by decide, [foreignField], List.reverse_perm _, List.forall_mem_singleton.mpr ?_⟩
    decide
  have ordered : BatchEntry.parse orderedEntry.text = .ok (.set ⟨"a", .word 1⟩) :=
    toOption_eq_some.mp (by decide +kernel)
  have alike := fields_read_alike.2.2.2.2.2.1 _ _ extended
  rw [ordered] at alike
  exact ⟨extended, ordered, toOption_eq_some.mp alike⟩

end NodeTrial
