import NodeTrial.Proofs.Envelope
import NodeTrial.Proofs.Json.Place

/-! Where the result of an envelope stands in its text. Unless an envelope leaves its result out or
gives `null`, the text of the result stands in one place, and with any other value's text there the
envelope wraps that value under the same code.
-/

namespace NodeTrial

open Text (Symbol)

namespace Json.Shape

variable {depth index : Nat} {expected name : String} {absent : Json}

theorem scalar_advances (accept : Json → Except Mismatch Json) (depth : Nat) (j : Json)
    : Advances fun input rest => (scalar accept).read depth input = .ok (j, rest) := by
  intro input rest read
  rcases scalar_ok_iff.mp read with ⟨-, start⟩ | ⟨-, start⟩ | ⟨raw, -, s, after, start, -, scanned⟩
  · exact skipSpace_lt start
  · exact skipSpace_lt start
  · have less := readScalar_advances _ _ _ scanned
    have short := skipSpace_length input
    rw [start] at short
    omega

/-- A value of any kind may be an item of a list: no value starts as a list ends. -/
theorem item_any_iff {value : Json} {input rest : List Symbol}
    : Item (any.read depth) value input rest ↔ any.read depth input = .ok (value, rest) := by
  have same : any.read depth (skipSpace input) = any.read depth input := by
    simp only [any, readTree_skipSpace]
  constructor
  · rintro ⟨s, after, start, -, read⟩
    rwa [← same, start]
  · intro read
    obtain ⟨tree, -, whole⟩ := any_ok_iff.mp read
    obtain ⟨_, _, -, after, start, -⟩ | ⟨_, _, -, after, start, -⟩ | ⟨s, after, start, -, scalar⟩ :=
      readTree_ok_iff.mp whole
    · exact ⟨_, after, start, by decide, by rwa [← start, same]⟩
    · exact ⟨_, after, start, by decide, by rwa [← start, same]⟩
    · refine ⟨s, after, start, ?_, by rwa [← start, same]⟩
      rintro rfl
      cases scalar

/-- The last field of a record given as a list has its value for absence, or the text of its value
stands behind a comma.
-/
theorem readClosed_last_place {found : List (String × Json)} {input rest : List Symbol}
    (h : readClosed expected depth [⟨name, any, some absent⟩] (index + 1) input = .ok (found, rest))
    : found = [(name, absent)]
      ∨ ∃ text value,
          found = [(name, value)]
          ∧ Denotes (any.read depth) text value
          ∧ Place (any.read depth) (readClosed expected depth [⟨name, any, some absent⟩] (index + 1))
              text input fun value => ([(name, value)], rest) := by
  rcases readClosed_cons_iff.mp h with
    ⟨value, others, rfl, middle, next, closed⟩ | ⟨value, others, ⟨left, rfl⟩, start, -, closed⟩
  · obtain ⟨rfl, close⟩ := readClosed_nil_iff.mp closed
    have ends : EndsNumber middle := endsNumber_of_skipSpace close (.mark _ (.inr (.inl rfl)))
    obtain ⟨impossible, -⟩ | ⟨-, after, comma, item⟩ := next
    · cases impossible
    · obtain ⟨blanks, rfl, blank⟩ := exists_blanks comma
      obtain ⟨text, rfl, denotes⟩ := (any_local depth value).denotes (item_any_iff.mp item)
      refine .inr ⟨text, value, rfl, denotes, blanks ++ [.char ','], middle, by simp, by simp,
        fun other value' reads => ?_⟩
      have comma' : skipSpace (blanks ++ [.char ','] ++ (other ++ middle))
          = .char ',' :: (other ++ middle) := by
        rw [List.append_assoc]
        exact blank.skipSpace rfl _
      have item' := item_any_iff.mpr (reads middle ends)
      exact readClosed_cons_iff.mpr
        (.inl ⟨value', [], rfl, middle, .inr ⟨rfl, _, comma', item'⟩, closed⟩)
  · obtain ⟨rfl, -⟩ := readClosed_nil_iff.mp closed
    exact .inl (by rw [Option.some.inj left])

end Json.Shape

namespace Envelope

open Json Json.Shape

variable {depth : Nat}

/-- The fields of an envelope. -/
def fields : List Field :=
  [⟨"code", .optionalSigned, some .null⟩, ⟨"result", .any, some .null⟩]

theorem fields_local (depth : Nat) : ∀ f ∈ fields, f.shape.IsLocal depth := by
  simp only [fields, List.forall_mem_cons]
  exact ⟨scalar_local _ depth, any_local depth, List.forall_mem_nil _⟩

/-- In a list of the fields of an envelope the text of the result comes behind that of the code. -/
theorem closed_place {expected : String} {found : List (String × Json)} {opened rest : List Symbol}
    (h : readClosed expected depth fields 0 opened = .ok (found, rest))
    : ∃ code result,
        found = [("code", code), ("result", result)]
        ∧ (result = .null
          ∨ ∃ text, Denotes (any.read depth) text result
              ∧ Place (any.read depth) (readClosed expected depth fields 0) text opened
                  fun value => ([("code", code), ("result", value)], rest)) := by
  rcases readClosed_cons_iff.mp h with
    ⟨code, others, rfl, middle, next, further⟩ | ⟨code, others, ⟨-, rfl⟩, start, -, further⟩
  · rcases readClosed_last_place further with rfl | ⟨text, result, rfl, denotes, place⟩
    · exact ⟨code, .null, rfl, .inl rfl⟩
    · have first : Local (NextItem (optionalSigned.read depth) true code) :=
        Local.nextItem (scalar_local _ depth) (scalar_advances _ depth) true code
      obtain ⟨codeText, rfl, again⟩ := first _ _ next
      refine ⟨code, result, rfl, .inr ⟨text, denotes, ?_⟩⟩
      exact place.append codeText fun other value replaces read =>
        readClosed_cons_iff.mpr (.inl ⟨code, _, rfl, other, again other replaces, read⟩)
  · rcases readClosed_cons_iff.mp further with
      ⟨_, _, -, _, ⟨-, s, after, close, unclosed, -⟩ | ⟨impossible, -⟩, -⟩
      | ⟨result, none, ⟨left, rfl⟩, _, -, ended⟩
    · rw [skipSpace_cons _ rfl] at close
      exact absurd (List.cons.inj close).1.symm unclosed
    · cases impossible
    · obtain ⟨rfl, -⟩ := readClosed_nil_iff.mp ended
      exact ⟨code, result, rfl, .inl (Option.some.inj left).symm⟩

/-- Both fields of an envelope are `null` when they are left out. -/
theorem complete_fields (found : List (String × Json))
    : complete found fields
      = .ok [("code", (lookupEntry "code" found).getD .null),
          ("result", (lookupEntry "result" found).getD .null)] := by
  simp only [complete, fields]
  cases lookupEntry "code" found <;> cases lookupEntry "result" found <;> rfl

/-- In an object of the fields of an envelope the text of the result stands behind its name. -/
theorem members_place {found : List (String × Json)} {opened rest : List Symbol}
    (h : readMembers (readField fields depth) (opened.length + 1) true [] opened = .ok (found, rest))
    : ∃ code result,
        complete found fields = .ok [("code", code), ("result", result)]
        ∧ (result = .null
          ∨ ∃ text, ∃ answer : Json → List (String × Json), Denotes (any.read depth) text result
              ∧ (∀ value, complete (answer value) fields = .ok [("code", code), ("result", value)])
              ∧ Place (any.read depth)
                  (fun input => readMembers (readField fields depth) (input.length + 1) true [] input)
                  text opened fun value => (answer value, rest)) := by
  refine ⟨_, _, complete_fields found, ?_⟩
  cases given : lookupEntry "result" found with
  | none => exact .inl rfl
  | some result =>
      have named : fieldNamed? fields "result" = some ⟨"result", .any, some .null⟩ := rfl
      have there : lookupEntry "result" found ≠ none := by simp [given]
      obtain ⟨text, before, value, after, fresh, rfl, denotes, place⟩ :=
        readMembers_place (fields_local depth) named h rfl there
      have found (value : Json)
          : lookupEntry "result" (before ++ ("result", value) :: after) = some value := by
        rw [lookupEntry_append, fresh]
        rfl
      obtain rfl : value = result := Option.some.inj ((found value).symm.trans given)
      refine .inr ⟨text, fun value => before ++ ("result", value) :: after, denotes, ?_, ?_⟩
      · intro other
        rw [complete_fields, found]
        simp only [lookupEntry_append]
        rfl
      · exact place.append [] fun other value' _ read =>
          readMembers_bound (readField_local (fields_local depth)) read (Nat.lt_succ_self _)

/-- An envelope that is read leaves out its result, gives `null`, or has the text of the result in
one place.
-/
theorem shape_place {input rest : List Symbol} {j : Json}
    (h : shape.read (depth + 1) input = .ok (j, rest))
    : ∃ code result,
        j = .object [("code", code), ("result", result)]
        ∧ (result = .null
          ∨ ∃ text, Denotes (any.read depth) text result
              ∧ Place (any.read depth) (shape.read (depth + 1)) text input
                  fun value => (.object [("code", code), ("result", value)], rest)) := by
  rcases record_ok_iff.mp h with
    ⟨opened, start, found, rfl, closed⟩ | ⟨opened, start, found, members, rfl, completed, read⟩
  · obtain ⟨blanks, rfl, blank⟩ := exists_blanks start
    obtain ⟨code, result, rfl, left | ⟨text, denotes, place⟩⟩ := closed_place closed
    · exact ⟨code, result, rfl, .inl left⟩
    · refine ⟨code, result, rfl, .inr ⟨text, denotes, ?_⟩⟩
      rw [List.append_cons]
      refine place.append _ fun other value _ closed' => ?_
      rw [← List.append_cons]
      exact record_ok_iff.mpr (.inl ⟨other, blank.skipSpace rfl _, _, rfl, closed'⟩)
  · obtain ⟨blanks, rfl, blank⟩ := exists_blanks start
    obtain ⟨code, result, same, placed⟩ := members_place read
    obtain rfl := Except.ok.inj (completed.symm.trans same)
    rcases placed with left | ⟨text, answer, denotes, completes, place⟩
    · exact ⟨code, result, rfl, .inl left⟩
    · refine ⟨code, result, rfl, .inr ⟨text, denotes, ?_⟩⟩
      rw [List.append_cons]
      refine place.append _ fun other value _ read' => ?_
      rw [← List.append_cons]
      exact record_ok_iff.mpr
        (.inr ⟨other, blank.skipSpace rfl _, _, _, rfl, completes value, read'⟩)

/-- A text stands as the result of an envelope with a code: with any other value's text in its place
the envelope wraps that value.
-/
def Wraps (input : List Symbol) (code : Option Int64) (text : List Symbol) : Prop :=
  Place (readTree (maxDepth - 1)) parse text input fun j => ⟨code, .ofJson j⟩

/-- An envelope that is read leaves out its result, gives `null`, or wraps the text of the result. -/
theorem exists_wraps {input : List Symbol} {e : Envelope} (h : parse input = .ok e)
    : e.result = .null
      ∨ ∃ text j, Denotes (readTree (maxDepth - 1)) text j ∧ e.result = .ofJson j
          ∧ Wraps input e.code text := by
  obtain ⟨normal, read, rfl⟩ := map_ok_iff.mp h
  obtain ⟨rest, shaped, ended⟩ := readWhole_ok_iff.mp read
  obtain ⟨code, result, rfl, left | ⟨text, denotes, place⟩⟩ := shape_place shaped
  · subst left
    exact .inl rfl
  · obtain ⟨tree, rfl, whole⟩ := any_ok_iff.mp (denotes [] .nil)
    obtain ⟨taken, same, denotesTree⟩ := (Local.readTree (maxDepth - 1) tree).denotes whole
    obtain rfl : text = taken := by simpa using same
    refine .inr ⟨text, tree, denotesTree, Value.ofJson_canonical tree, ?_⟩
    obtain ⟨front, back, some, rfl, exchange⟩ := place
    refine ⟨front, back, some, rfl, fun other value reads => ?_⟩
    have denotesAny : Denotes (any.read (maxDepth - 1)) other value.canonical :=
      fun rest ends => any_ok_iff.mpr ⟨value, rfl, reads rest ends⟩
    refine map_ok_iff.mpr ⟨_, readWhole_ok_iff.mpr ⟨rest, exchange other _ denotesAny, ended⟩, ?_⟩
    rw [ofJson]
    exact congrArg (Envelope.mk _) (Value.ofJson_canonical value)

end Envelope

end NodeTrial
