import NodeTrial.Operation.Wire
import NodeTrial.Proofs.Json.Canonical
import NodeTrial.Proofs.Json.Normal

/-! The written forms of operations and of the entries of batches. A written form stands for what
was written, the shape of its kind takes it as it is, no other kind takes it, and the shapes take
any value as a written form.
-/

namespace NodeTrial

open Json Json.Shape

-----------------------------------------------------------------------------------------
-- Tables
-----------------------------------------------------------------------------------------

theorem RisingKeys.map {α β : Type} {entries : List (String × α)} (rising : RisingKeys entries)
    (f : String × α → β)
    : RisingKeys (entries.map fun entry => (entry.1, f entry)) :=
  List.pairwise_map.mpr rising

/-- The members of an object that is written from a table. -/
def writtenTable {β : Type} (write : β → Json) (t : Table β) : List (String × Json) :=
  t.entries.map fun entry => (entry.1, write entry.2)

section Tables

variable {β : Type}

/-- A table is made again from its members if each of its values is. -/
theorem ofList_writtenTable (write : β → Json) (back : Json → β) (t : Table β)
    (restores : ∀ value, back (write value) = value)
    : Table.ofList ((writtenTable write t).map fun m => (m.1, back m.2)) = t := by
  have same : (writtenTable write t).map (fun m => (m.1, back m.2)) = t.entries := by
    rw [writtenTable, List.map_map]
    refine (List.map_congr_left fun entry _ => ?_).trans (List.map_id t.entries)
    exact Prod.ext rfl (restores entry.2)
  rw [same]
  exact Table.ext (Table.ofList_entries t.rising)

/-- Members with rising keys are those of a table if each value is a written one. -/
theorem exists_writtenTable (write : β → Json) (back : Json → β)
    {members : List (String × Json)} (rising : RisingKeys members)
    (each : ∀ m ∈ members, write (back m.2) = m.2)
    : ∃ t : Table β, members = writtenTable write t := by
  refine ⟨⟨members.map fun m => (m.1, back m.2), rising.map _⟩, ?_⟩
  rw [writtenTable, List.map_map]
  refine (List.map_id members).symm.trans (List.map_congr_left fun m member => ?_)
  exact Prod.ext rfl (each m member).symm

/-- A shape of tables takes members as they are if it takes each of their values so. -/
theorem table_take_written {item : Shape} {write : β → Json} (t : Table β)
    (each : ∀ value, item.take (write value) = .ok (write value))
    : (table item).take (.object (writtenTable write t))
      = .ok (.object (writtenTable write t)) := by
  have taken : (writtenTable write t).mapM (fun m => do return (m.1, ← item.take m.2))
      = .ok ((writtenTable write t).map id) := by
    refine mapM_ok_of_forall fun m member => ?_
    obtain ⟨entry, -, rfl⟩ := List.mem_map.mp member
    simp only [each]
    rfl
  rw [List.map_id] at taken
  have rising : RisingKeys (writtenTable write t) := t.rising.map _
  have normal : tableOf (writtenTable write t) = .object (writtenTable write t) := by
    rw [tableOf, Table.ofList_entries rising]
  exact bind_ok_iff.mpr ⟨_, taken, congrArg Except.ok normal⟩

end Tables

/-- A delta as a number. -/
def writtenDelta (delta : Int64) : Json :=
  .number (.whole (.ofSigned delta))

theorem signed_take_written (delta : Int64)
    : signed.take (writtenDelta delta) = .ok (writtenDelta delta) :=
  if_pos delta.toInt_lt

theorem any_take_written (v : Value) : any.take v.json = .ok v.json :=
  congrArg Except.ok (v.json.canonical_eq_self v.canonical)

theorem text_take_written (t : String) : Shape.text.take (.text t) = .ok (.text t) :=
  rfl

-----------------------------------------------------------------------------------------
-- Bodies
-----------------------------------------------------------------------------------------

/-- A record of one field that must be there takes an object of that field. -/
theorem record_take_one {name key : String} {item : Shape} {value normal : Json}
    (takes : item.take value = .ok normal)
    : (record name [.required key item]).take (.object [(key, value)])
      = .ok (.object [(key, normal)]) := by
  simp [record, takeField, fieldNamed?, Field.required, lookupEntry, complete, takes, bind,
    Except.bind, pure, Except.pure]

/-- A record of one field is taken as an object of that field. -/
theorem record_yields_one {name key : String} {item : Shape} {form : Json → Prop}
    (yields : item.Yields form)
    : (record name [.required key item]).Yields fun j =>
        ∃ value, j = .object [(key, value)] ∧ form value := by
  intro depth exact j normal h within
  have one : (record name [.required key item]).Yields fun j =>
      ∃ members, j = .object members ∧ AreFields (fun _ => form) [.required key item] members :=
    record_yields name (List.forall_mem_singleton.mpr yields)
      (List.forall_mem_singleton.mpr (absentFits_required _ key item))
      (List.forall_mem_singleton.mpr (by simp [fieldNamed?]))
  obtain ⟨⟨members, rfl, are⟩, kept⟩ := one depth exact j normal h within
  match members, are with
  | [(_, value)], ⟨rfl, good, _⟩ => exact ⟨⟨value, rfl, good⟩, kept⟩

namespace SetBody

theorem take_written (b : SetBody) : shape.take (.object b.fields) = .ok (.object b.fields) := by
  have ref := text_take_written b.ref
  have value := any_take_written b.value
  simp [shape, record, fields, takeField, fieldNamed?, Field.required, lookupEntry, complete, ref,
    value, bind, Except.bind, pure, Except.pure]

theorem ofJson_written (b : SetBody) : ofJson (.object b.fields) = b := by
  simp [ofJson, fields, member, lookupEntry, asText, Value.ofJson_json]

/-- What may stand for a field of the body: a text for the ref, and a canonical value. -/
def fieldForm (f : Field) (j : Json) : Prop :=
  if f.name = "ref" then ∃ s, j = .text s else j.Canonical

theorem shape_yields : shape.Yields fun j => ∃ b : SetBody, j = .object b.fields := by
  intro depth exact j normal h within
  have body : shape.Yields fun j =>
      ∃ members, j = .object members
        ∧ AreFields fieldForm [.required "ref" .text, .required "value" .any] members := by
    refine record_yields "SetBody" ?_ ?_ ?_
    · simpa [Field.required, fieldForm] using ⟨text_yields, any_yields⟩
    · simp [absentFits_required]
    · simp [fieldNamed?, Field.required]
  obtain ⟨⟨members, rfl, are⟩, kept⟩ := body depth exact j normal h within
  match members, are with
  | [(_, ref), (_, value)], ⟨rfl, isText, rfl, canonical, _⟩ =>
    obtain ⟨s, rfl⟩ : ∃ s, ref = .text s := by simpa [fieldForm, Field.required] using isText
    have canonical : value.Canonical := by simpa [fieldForm, Field.required] using canonical
    exact ⟨⟨⟨s, value, canonical⟩, rfl⟩, kept⟩

end SetBody

namespace IncreaseBody

theorem take_written (b : IncreaseBody)
    : shape.take (.object b.fields) = .ok (.object b.fields) :=
  record_take_one (table_take_written b.diff signed_take_written)

theorem ofJson_written (b : IncreaseBody) : ofJson (.object b.fields) = b :=
  congrArg IncreaseBody.mk
    (ofList_writtenTable writtenDelta (fun j => .ofInt j.asInt) b.diff Int64.ofInt_toInt)

theorem shape_yields : shape.Yields fun j => ∃ b : IncreaseBody, j = .object b.fields := by
  refine (record_yields_one (table_yields signed_yields)).imp ?_
  rintro _ ⟨_, rfl, members, rfl, rising, each⟩
  have restored : ∀ m ∈ members, writtenDelta (.ofInt m.2.asInt) = m.2 := by
    intro m member
    obtain ⟨delta, is⟩ := each m member
    rw [is]
    exact congrArg writtenDelta (Int64.ofInt_toInt delta)
  obtain ⟨diff, rfl⟩ := exists_writtenTable writtenDelta (fun j => .ofInt j.asInt) rising restored
  exact ⟨⟨diff⟩, rfl⟩

end IncreaseBody

namespace UpdateBody

theorem take_written (b : UpdateBody) : shape.take (.object b.fields) = .ok (.object b.fields) :=
  record_take_one (table_take_written b.data any_take_written)

theorem ofJson_written (b : UpdateBody) : ofJson (.object b.fields) = b :=
  congrArg UpdateBody.mk (ofList_writtenTable Value.json Value.ofJson b.data Value.ofJson_json)

theorem shape_yields : shape.Yields fun j => ∃ b : UpdateBody, j = .object b.fields := by
  refine (record_yields_one (table_yields any_yields)).imp ?_
  rintro _ ⟨_, rfl, members, rfl, rising, each⟩
  obtain ⟨data, rfl⟩ := exists_writtenTable Value.json Value.ofJson rising
    fun m member => m.2.canonical_eq_self (each m member)
  exact ⟨⟨data⟩, rfl⟩

end UpdateBody

-----------------------------------------------------------------------------------------
-- Batches
-----------------------------------------------------------------------------------------

/-- A union takes a body behind the tag of its variant. -/
theorem tagged_take {title tagName : String} {variants : List Variant} {v : Variant}
    {members : List (String × Json)} {body : Json} (named : variantNamed variants v.tag = .ok v)
    (apart : ∀ m ∈ members, m.1 ≠ tagName) (takes : v.body.take (.object members) = .ok body)
    : (tagged title tagName variants).take (.object ((tagName, .text v.tag) :: members))
      = .ok (tagValue tagName v body) := by
  have first
      : takeTagged tagName variants (none, []) (tagName, .text v.tag) = .ok (some v, []) := by
    simp only [takeTagged, takeTag, named]
    rfl
  refine bind_ok_iff.mpr ⟨(some v, members), ?_, ?_⟩
  · rw [List.foldlM_cons, first]
    exact foldlM_takeTagged apart (some v) []
  · exact bind_ok_iff.mpr ⟨body, takes, rfl⟩

namespace BatchEntry

theorem take_written (e : BatchEntry) : shape.take e.toJson = .ok e.toJson := by
  cases e with
  | set b =>
      have apart : ∀ m ∈ b.fields, m.1 ≠ "op" := by simp [SetBody.fields]
      exact tagged_take (v := ⟨"set", SetBody.shape⟩) rfl apart b.take_written
  | increase b =>
      have apart : ∀ m ∈ b.fields, m.1 ≠ "op" := by simp [IncreaseBody.fields]
      exact tagged_take (v := ⟨"increase", IncreaseBody.shape⟩) rfl apart b.take_written
  | update b =>
      have apart : ∀ m ∈ b.fields, m.1 ≠ "op" := by simp [UpdateBody.fields]
      exact tagged_take (v := ⟨"update", UpdateBody.shape⟩) rfl apart b.take_written

theorem ofJson_written (e : BatchEntry) : ofJson e.toJson = e := by
  cases e with
  | set b => exact congrArg BatchEntry.set b.ofJson_written
  | increase b => exact congrArg BatchEntry.increase b.ofJson_written
  | update b => exact congrArg BatchEntry.update b.ofJson_written

/-- What may stand behind the tag of a variant: the fields of an entry of that name. -/
def bodyForm (v : Variant) (j : Json) : Prop :=
  ∃ e : BatchEntry, e.op = v.tag ∧ j = .object e.bodyFields

theorem shape_yields : shape.Yields fun j => ∃ e : BatchEntry, j = e.toJson := by
  have variants : ∀ v ∈ [Variant.mk "set" SetBody.shape, ⟨"increase", IncreaseBody.shape⟩,
      ⟨"update", UpdateBody.shape⟩], v.body.Yields (bodyForm v) := by
    simp only [List.forall_mem_cons]
    refine ⟨SetBody.shape_yields.imp ?_, IncreaseBody.shape_yields.imp ?_,
      UpdateBody.shape_yields.imp ?_, List.forall_mem_nil _⟩
    · exact fun _ ⟨b, is⟩ => ⟨.set b, rfl, is⟩
    · exact fun _ ⟨b, is⟩ => ⟨.increase b, rfl, is⟩
    · exact fun _ ⟨b, is⟩ => ⟨.update b, rfl, is⟩
  refine (tagged_yields _ "op" variants).imp ?_
  rintro _ ⟨v, -, _, rfl, e, named, rfl⟩
  exact ⟨e, by rw [tagValue, ← named, toJson]⟩

end BatchEntry

namespace BatchBody

theorem take_written (b : BatchBody) : shape.take (.object b.fields) = .ok (.object b.fields) := by
  refine record_take_one ?_
  have entries : (b.entries.map BatchEntry.toJson).mapM BatchEntry.shape.take
      = .ok ((b.entries.map BatchEntry.toJson).map id) := by
    refine mapM_ok_of_forall fun j member => ?_
    obtain ⟨e, -, rfl⟩ := List.mem_map.mp member
    exact e.take_written
  rw [List.map_id] at entries
  exact bind_ok_iff.mpr ⟨_, entries, rfl⟩

theorem ofJson_written (b : BatchBody) : ofJson (.object b.fields) = b := by
  have entries : (b.entries.map BatchEntry.toJson).map BatchEntry.ofJson = b.entries := by
    rw [List.map_map]
    exact (List.map_congr_left fun e _ => e.ofJson_written).trans (List.map_id b.entries)
  exact congrArg BatchBody.mk entries

theorem shape_yields : shape.Yields fun j => ∃ b : BatchBody, j = .object b.fields := by
  refine (record_yields_one (list_yields BatchEntry.shape_yields)).imp ?_
  rintro _ ⟨_, rfl, items, rfl, each⟩
  have restored : (items.map BatchEntry.ofJson).map BatchEntry.toJson = items := by
    rw [List.map_map]
    refine (List.map_congr_left fun j member => ?_).trans (List.map_id items)
    obtain ⟨e, rfl⟩ := each j member
    exact congrArg BatchEntry.toJson e.ofJson_written
  exact ⟨⟨items.map BatchEntry.ofJson⟩, by rw [fields, restored]⟩

end BatchBody

-----------------------------------------------------------------------------------------
-- Operations
-----------------------------------------------------------------------------------------

/-- A record whose first field must be there takes no object without any of its fields. -/
theorem record_take_foreign {name : String} {f : Field} {fields : List Field}
    {members : List (String × Json)} (absent : f.absent = none)
    (foreign : ∀ m ∈ members, fieldNamed? (f :: fields) m.1 = none)
    : (record name (f :: fields)).take (.object members) = .error (.missingField f.name) := by
  have passed (others : List (String × Json))
      (all : ∀ m ∈ others, fieldNamed? (f :: fields) m.1 = none)
      : others.foldlM (takeField (f :: fields)) [] = .ok [] := by
    induction others with
    | nil => rfl
    | cons m others ih =>
        obtain ⟨here, later⟩ := List.forall_mem_cons.mp all
        rw [List.foldlM_cons, takeField, here]
        exact ih later
  simp only [record, passed members foreign, complete, lookupEntry, absent, Option.or_none, bind,
    Except.bind]

namespace Operation

theorem take_written (o : Operation) : o.kind.shape.take o.toJson = .ok o.toJson := by
  cases o with
  | set b => exact b.take_written
  | increase b => exact b.take_written
  | update b => exact b.take_written
  | batch b => exact b.take_written

theorem operation_written (o : Operation) : o.kind.operation o.toJson = o := by
  cases o with
  | set b => exact congrArg Operation.set b.ofJson_written
  | increase b => exact congrArg Operation.increase b.ofJson_written
  | update b => exact congrArg Operation.update b.ofJson_written
  | batch b => exact congrArg Operation.batch b.ofJson_written

/-- No kind but its own takes the written form of an operation: it misses its first field. -/
theorem take_written_other {o : Operation} {k : OperationKind} (other : k ≠ o.kind)
    : ∃ m, k.shape.take o.toJson = .error m := by
  cases o <;> cases k
  all_goals first
    | exact absurd rfl other
    | exact ⟨_, record_take_foreign rfl (by
        simp [fieldNamed?, Field.required, fields, SetBody.fields, IncreaseBody.fields,
          UpdateBody.fields, BatchBody.fields])⟩

theorem shape_yields (k : OperationKind)
    : k.shape.Yields fun j => ∃ o : Operation, o.kind = k ∧ j = o.toJson := by
  cases k with
  | set => exact SetBody.shape_yields.imp fun _ ⟨b, is⟩ => ⟨.set b, rfl, is⟩
  | increase => exact IncreaseBody.shape_yields.imp fun _ ⟨b, is⟩ => ⟨.increase b, rfl, is⟩
  | update => exact UpdateBody.shape_yields.imp fun _ ⟨b, is⟩ => ⟨.update b, rfl, is⟩
  | batch => exact BatchBody.shape_yields.imp fun _ ⟨b, is⟩ => ⟨.batch b, rfl, is⟩

/-- The written form of an operation stands for it and for nothing else. -/
theorem ofKind?_written (o : Operation) (k : OperationKind)
    : ofKind? o.toJson k = if k = o.kind then some o else none := by
  by_cases same : k = o.kind
  · subst same
    rw [if_pos rfl, ofKind?, take_written]
    exact congrArg some o.operation_written
  · obtain ⟨m, refused⟩ := take_written_other same
    rw [if_neg same, ofKind?, refused]

end Operation

end NodeTrial
