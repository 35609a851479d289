import NodeTrial.Operation.Wire
import NodeTrial.Proofs.Json.Agreement

/-! The shapes of operations, and what they make of a text that is one JSON value: each endpoint
reads the text as it takes the value, except for a batch whose entries have numbers for tags.
-/

namespace NodeTrial

open Json Text
open Json.Shape

/-- An entry of the batch that a value stands for has a number in the place of its kind's name. -/
def BatchBody.numbered : Json → Bool
  | .object members => members.any fun m =>
      m.1 = "batch_list" && m.2.asItems.any (numberedTag "op")
  | .list (entries :: _) => entries.asItems.any (numberedTag "op")
  | _ => false

theorem SetBody.shape_agrees : SetBody.shape.Agrees fun _ => True := by
  refine record_agrees_always "SetBody" fun f member => ?_
  rcases List.mem_cons.mp member with rfl | later
  · exact text_agrees
  · obtain rfl := List.mem_singleton.mp later
    exact any_agrees

theorem IncreaseBody.shape_agrees : IncreaseBody.shape.Agrees fun _ => True := by
  refine record_agrees_always "IncreaseBody" fun f member => ?_
  obtain rfl := List.mem_singleton.mp member
  exact table_agrees_always signed_agrees

theorem UpdateBody.shape_agrees : UpdateBody.shape.Agrees fun _ => True := by
  refine record_agrees_always "UpdateBody" fun f member => ?_
  obtain rfl := List.mem_singleton.mp member
  exact table_agrees_always any_agrees

theorem BatchEntry.shape_agrees : BatchEntry.shape.Agrees fun j => numberedTag "op" j = false :=
  tagged_agrees _ _ _

/-- A batch agrees unless the tag of an entry is a number. -/
theorem BatchBody.shape_agrees : BatchBody.shape.Agrees fun j => BatchBody.numbered j = false := by
  have agrees : ∀ f ∈ [Field.required "batch_list" (.list BatchEntry.shape)],
      f.shape.Agrees fun j => ∀ part ∈ j.asItems, numberedTag "op" part = false := by
    intro f member
    obtain rfl := List.mem_singleton.mp member
    exact list_agrees BatchEntry.shape_agrees
  refine (record_agrees "BatchBody" agrees).congr fun j => ?_
  cases j with
  | object members =>
      rw [RecordFits, BatchBody.numbered, List.any_eq_false]
      refine forall₂_congr fun m _ => ?_
      by_cases named : m.1 = "batch_list"
      · simp [fieldNamed?, Field.required, named]
      · simp [fieldNamed?, Field.required, named, Ne.symm named]
  | list items =>
      cases items with
      | nil => simp [RecordFits, BatchBody.numbered]
      | cons entries items => simp [RecordFits, BatchBody.numbered]
  | null | bool | number | text => simp [RecordFits, BatchBody.numbered]

namespace Operation

theorem kind_operation (k : OperationKind) (j : Json) : (k.operation j).kind = k := by
  cases k <;> rfl

theorem ofKind?_eq_some {j : Json} {k : OperationKind} {o : Operation}
    : ofKind? j k = some o ↔ ∃ fit, k.shape.take j = .ok fit ∧ k.operation fit = o := by
  unfold ofKind?
  cases k.shape.take j with
  | error m => simp
  | ok fit => simp

theorem kind_of_ofKind? {j : Json} {k : OperationKind} {o : Operation} (h : ofKind? j k = some o)
    : o.kind = k := by
  obtain ⟨fit, -, rfl⟩ := ofKind?_eq_some.mp h
  exact kind_operation k fit

/-- A value fits an endpoint if it can be read straight from the text there: all do, except batches
with numbered entries.
-/
def Fits (k : OperationKind) (j : Json) : Prop :=
  k = .batch → BatchBody.numbered j = false

theorem shape_agrees (k : OperationKind) : k.shape.Agrees (Fits k) := by
  cases k with
  | set => exact SetBody.shape_agrees.congr fun j => iff_of_true trivial nofun
  | increase => exact IncreaseBody.shape_agrees.congr fun j => iff_of_true trivial nofun
  | update => exact UpdateBody.shape_agrees.congr fun j => iff_of_true trivial nofun
  | batch => exact BatchBody.shape_agrees.congr fun j => ⟨fun fits _ => fits, fun fits => fits rfl⟩

variable {input : List Symbol} {j : Json} {o : Operation}

/-- An endpoint reads from a text that is one JSON value the operation that the value stands for. -/
theorem parseAs_ok_iff (whole : Json.parse input = .ok j) (k : OperationKind)
    : parseAs k input = .ok o ↔ ofKind? j k = some o ∧ Fits k j := by
  rw [parseAs, map_ok_iff, ofKind?_eq_some]
  constructor
  · rintro ⟨fit, read, rfl⟩
    obtain ⟨taken, fits⟩ := ((shape_agrees k).parse_ok_iff whole).mp read
    exact ⟨⟨fit, taken, rfl⟩, fits⟩
  · rintro ⟨⟨fit, taken, rfl⟩, fits⟩
    exact ⟨fit, ((shape_agrees k).parse_ok_iff whole).mpr ⟨taken, fits⟩, rfl⟩

/-- An operation is read from a text that is one JSON value, and from no other. -/
theorem parse_ok_iff
    : parse input = .ok o ↔ ∃ j, Json.parse input = .ok j ∧ ofJson? j = some o := by
  rw [parse, readWhole_ok_iff]
  constructor
  · rintro ⟨rest, read, blank⟩
    obtain ⟨⟨j, after⟩, tree, found⟩ := bind_ok_iff.mp read
    dsimp only at found
    split at found
    · next stands =>
      obtain ⟨rfl, rfl⟩ := Prod.mk.inj (Except.ok.inj found)
      exact ⟨j, readWhole_ok_iff.mpr ⟨after, tree, blank⟩, stands⟩
    · cases found
  · rintro ⟨j, whole, stands⟩
    obtain ⟨rest, tree, blank⟩ := readWhole_ok_iff.mp whole
    refine ⟨rest, bind_ok_iff.mpr ⟨(j, rest), tree, ?_⟩, blank⟩
    simp only [stands]

theorem parse_ok_iff_of (whole : Json.parse input = .ok j)
    : parse input = .ok o ↔ ofJson? j = some o := by
  rw [parse_ok_iff]
  constructor
  · rintro ⟨other, also, stands⟩
    rw [whole] at also
    exact Except.ok.inj also ▸ stands
  · exact fun stands => ⟨j, whole, stands⟩

end Operation

end NodeTrial
