import NodeTrial.Proofs.Operation.RoundTrip
import NodeTrial.Proofs.Table.Pairs

/-! Repeated refs. An operation that is built from pairs keeps the last pair of each ref, and so does
one that is read from a text with the same pairs in the same order, however the text spells them.
-/

namespace NodeTrial

open Json Json.Shape Text

/-- A shape of tables takes members with repeated keys: their values are taken one by one, and of
those with one key the last is kept.
-/
theorem Json.Shape.table_take_members {item : Shape} (normal : Json → Json)
    {members : List (String × Json)} (each : ∀ m ∈ members, item.take m.2 = .ok (normal m.2))
    : (table item).take (.object members)
      = .ok (tableOf (members.map fun m => (m.1, normal m.2))) := by
  have taken : members.mapM (fun m => do return (m.1, ← item.take m.2))
      = .ok (members.map fun m => (m.1, normal m.2)) := by
    refine mapM_ok_of_forall fun m member => ?_
    simp only [each m member]
    rfl
  exact bind_ok_iff.mpr ⟨_, taken, rfl⟩

namespace Operation

/-- The value of a text that lists deltas as they are given. -/
def listedDeltas (pairs : List (String × Int64)) : Json :=
  .object [("diff", .object (pairs.map fun pair => (pair.1, writtenDelta pair.2)))]

/-- The value of a text that lists data as they are given. -/
def listedData (members : List (String × Json)) : Json :=
  .object [("data", .object members)]

/-- The pairs of refs and values that members stand for. -/
def valuesOf (members : List (String × Json)) : List (String × Value) :=
  members.map fun m => (m.1, .ofJson m.2)

theorem ofKind?_of_refused {j : Json} {k : OperationKind} {m : Mismatch}
    (refused : k.shape.take j = .error m)
    : ofKind? j k = none := by
  rw [ofKind?, refused]

/-- Listed deltas stand for the operation that is built from them. -/
theorem ofJson?_listedDeltas (pairs : List (String × Int64))
    : ofJson? (listedDeltas pairs) = some (ofIncrease pairs) := by
  have set : ofKind? (listedDeltas pairs) .set = none :=
    ofKind?_of_refused (record_take_foreign rfl (by simp [fieldNamed?, Field.required]))
  have takes : IncreaseBody.shape.take (listedDeltas pairs)
      = .ok (.object [("diff", tableOf (pairs.map fun pair => (pair.1, writtenDelta pair.2)))]) := by
    refine record_take_one ?_
    rw [table_take_members id]
    · simp only [id, List.map_map, Function.comp_def]
    · intro m member
      obtain ⟨pair, -, rfl⟩ := List.mem_map.mp member
      exact signed_take_written pair.2
  have increase : ofKind? (listedDeltas pairs) .increase = some (ofIncrease pairs) := by
    refine ofKind?_eq_some.mpr ⟨_, takes, congrArg (Operation.increase ∘ IncreaseBody.mk) ?_⟩
    refine (Table.ofList_entries_map (fun j : Json => Int64.ofInt j.asInt) _).trans ?_
    rw [List.map_map]
    refine congrArg Table.ofList (Eq.trans ?_ (List.map_id pairs))
    exact List.map_congr_left fun pair _ => Prod.ext rfl (Int64.ofInt_toInt pair.2)
  rw [ofJson?, OperationKind.all, List.findSome?_cons, set, List.findSome?_cons, increase]

/-- Listed data stand for the operation that is built from their values. -/
theorem ofJson?_listedData (members : List (String × Json))
    : ofJson? (listedData members) = some (ofUpdate (valuesOf members)) := by
  have set : ofKind? (listedData members) .set = none :=
    ofKind?_of_refused (record_take_foreign rfl (by simp [fieldNamed?, Field.required]))
  have increase : ofKind? (listedData members) .increase = none :=
    ofKind?_of_refused (record_take_foreign rfl (by simp [fieldNamed?, Field.required]))
  have takes : UpdateBody.shape.take (listedData members)
      = .ok (.object [("data", tableOf (members.map fun m => (m.1, m.2.canonical)))]) :=
    record_take_one (table_take_members canonical fun _ _ => rfl)
  have update : ofKind? (listedData members) .update = some (ofUpdate (valuesOf members)) := by
    refine ofKind?_eq_some.mpr ⟨_, takes, congrArg (Operation.update ∘ UpdateBody.mk) ?_⟩
    refine (Table.ofList_entries_map Value.ofJson _).trans ?_
    rw [List.map_map]
    exact congrArg Table.ofList (List.map_congr_left fun m _ =>
      Prod.ext rfl (Value.ofJson_canonical m.2))
  rw [ofJson?, OperationKind.all, List.findSome?_cons, set, List.findSome?_cons, increase,
    List.findSome?_cons, update]

/-- The text of listed deltas is read as such, whatever its refs are. -/
theorem parse_render_listedDeltas (pairs : List (String × Int64))
    : Json.parse (symbols (listedDeltas pairs).render) = .ok (listedDeltas pairs) := by
  have flat : ∀ m ∈ pairs.map fun pair => (pair.1, writtenDelta pair.2), Within 0 True m.2 := by
    intro m member
    obtain ⟨pair, -, rfl⟩ := List.mem_map.mp member
    exact ⟨Nat.le_refl 0, fun _ => by rw [writtenDelta, NoReals]; trivial⟩
  have listed : Within 2 True (listedDeltas pairs) :=
    within_object.mpr (List.forall_mem_singleton.mpr (within_object.mpr flat))
  exact Json.parse_render (listed.2 trivial) (Nat.le_trans listed.1 (by decide))

/-- Builders and the parser on repeated refs. An increase that is built from pairs has the delta of
each ref's last pair and nothing else; the text that lists the pairs in order is read, and it and
every other text with that value, with blanks and escapes of any kind, is parsed as the increase
that is built, so both are written alike. The same holds for updates: of their texts, which may
nest at most 127 brackets, each value may be given by members in any order and number.
-/
theorem parse_listed_pairs
    : (∀ pairs : List (String × Int64),
        (∃ diff, ofIncrease pairs = .increase ⟨diff⟩ ∧ KeepsLast pairs diff)
        ∧ Json.parse (symbols (listedDeltas pairs).render) = .ok (listedDeltas pairs)
        ∧ ∀ input, Json.parse input = .ok (listedDeltas pairs) →
            parse input = .ok (ofIncrease pairs))
      ∧ ∀ pairs : List (String × Value),
        (∃ data, ofUpdate pairs = .update ⟨data⟩ ∧ KeepsLast pairs data)
        ∧ ∀ members, valuesOf members = pairs →
            ((listedData members).NoReals → (listedData members).nesting ≤ maxDepth →
              Json.parse (symbols (listedData members).render) = .ok (listedData members))
            ∧ ∀ input, Json.parse input = .ok (listedData members) →
                parse input = .ok (ofUpdate pairs) := by
  constructor
  · intro pairs
    refine ⟨⟨_, rfl, Table.keepsLast_ofList pairs⟩, parse_render_listedDeltas pairs, ?_⟩
    exact fun input whole => (parse_ok_iff_of whole).mpr (ofJson?_listedDeltas pairs)
  · intro pairs
    refine ⟨⟨_, rfl, Table.keepsLast_ofList pairs⟩, ?_⟩
    rintro members rfl
    refine ⟨Json.parse_render, fun input whole => ?_⟩
    exact (parse_ok_iff_of whole).mpr (ofJson?_listedData members)

/-- Deltas with a repeated ref, the second time written with an escape. -/
def repeatedDeltas : String :=
  "\x7b \"diff\":\x7b\"a\":1,\"b\":-2,\"\\u0061\":3\x7d\x7d"

/-- Data with a repeated ref, whose last value has a repeated name. -/
def repeatedData : String :=
  "\x7b\"data\":\x7b\"a\":null,\"a\":\x7b\"n\":1,\"n\":2\x7d\x7d\x7d"

/-- The members that the repeated data are read as. -/
def repeatedMembers : List (String × Json) :=
  [("a", .null),
    ("a", .object [("n", .number (.whole (.ofWord 1))), ("n", .number (.whole (.ofWord 2)))])]

theorem parse_listed_pairs_repeated
    : parse (symbols repeatedDeltas) = .ok (ofIncrease [("b", -2), ("a", 3)])
      ∧ Json.parse (symbols (listedData repeatedMembers).render) = .ok (listedData repeatedMembers)
      ∧ parse (symbols repeatedData)
        = .ok (ofUpdate [("a", .ofJson (.object [("n", .number (.whole (.ofWord 2)))]))]) := by
  have deltas := parse_listed_pairs.1 [("a", 1), ("b", -2), ("a", 3)]
  have data := (parse_listed_pairs.2 (valuesOf repeatedMembers)).2 repeatedMembers rfl
  have whole : (listedData repeatedMembers).NoReals := by
    simp [listedData, repeatedMembers, NoReals, NoRealMembers]
  have increase := deltas.2.2 (symbols repeatedDeltas) (toOption_eq_some.mp (by decide +kernel))
  have update := data.2 (symbols repeatedData) (toOption_eq_some.mp (by decide +kernel))
  refine ⟨?_, data.1 whole (by decide), ?_⟩
  · rw [increase]
    decide +kernel
  · rw [update]
    decide +kernel

end Operation

end NodeTrial
