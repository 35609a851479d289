import NodeTrial.Proofs.Json.Nesting

/-! JSON values of any kind read back from their own text. Floating-point numbers are left out:
only whole numbers are written and read exactly.
-/

namespace NodeTrial.Json

open Text (Symbol)

variable {α β : Type}

theorem colon_cons (rest : List Symbol) : colon (.char ':' :: rest) = .ok rest := by
  unfold colon
  rw [skipSpace_cons rest rfl]
  rfl

def addMember (value : β → α) (read : List (String × α)) (member : String × β)
    : Except ReadError (List (String × α)) :=
  .ok (read ++ [(member.1, value member.2)])

/-- Members whose values are read are put one behind the other. -/
theorem collect_takesIn {reader : Reader α} {text : β → List Char} {value : β → α}
    {member : String × β} (reads : Reads reader (text member.2) (value member.2))
    : TakesIn (collect reader) text (addMember value) member := by
  intro state rest ends
  simp only [collect, List.map_cons, List.cons_append, colon_cons, bind, Except.bind,
    reads rest ends]
  rfl

theorem foldlM_addMember (value : β → α) (members : List (String × β))
    : ∀ (read : List (String × α)),
        members.foldlM (addMember value) read
          = .ok (read ++ members.map fun m => (m.1, value m.2)) := by
  induction members with
  | nil => exact fun read => by rw [List.foldlM_nil, List.map_nil, List.append_nil]; rfl
  | cons m members ih =>
      intro read
      have others := ih (read ++ [(m.1, value m.2)])
      rw [List.append_assoc, List.singleton_append] at others
      rw [List.foldlM_cons, List.map_cons]
      exact others

/-- A list is written as its items between brackets. -/
theorem write_list (items : List Json)
    : write (.list items) = '[' :: writtenItems write items ++ [']'] := by
  have further (others : List Json)
      : writeItems others = others.flatMap fun item => ',' :: item.write := by
    induction others with
    | nil => rfl
    | cons item others ih => rw [writeItems, ih, List.flatMap_cons]
  cases items with
  | nil => rfl
  | cons item items =>
      rw [write, further, writtenItems]
      simp only [List.cons_append]

/-- An object is written as its members between braces. -/
theorem write_object (members : List (String × Json))
    : write (.object members) = '\x7b' :: writtenMembers write members ++ ['\x7d'] := by
  have further (others : List (String × Json))
      : writeMembers others = others.flatMap fun m => ',' :: writtenMember write m := by
    induction others with
    | nil => rfl
    | cons m others ih =>
        rw [writeMembers, ih, List.flatMap_cons, writtenMember]
        simp only [List.cons_append, List.append_assoc]
  cases members with
  | nil => rfl
  | cons m members =>
      rw [write, further, writtenMembers, writtenMember]
      simp only [List.cons_append, List.append_assoc]

/-- A text that is no list and no object is read as a scalar. -/
theorem readTree_scalar {c : Char} (depth : Nat) (rest : List Symbol)
    (solid : isSpace (.char c) = false) (noList : c ≠ '[') (noObject : c ≠ '\x7b')
    : readTree depth (.char c :: rest) = orMalformed (readScalar (.char c :: rest)) := by
  unfold readTree
  rw [skipSpace_cons rest solid]
  split
  · next open' => exact absurd (Symbol.char.inj (List.cons.inj open').1) noList
  · next open' => exact absurd (Symbol.char.inj (List.cons.inj open').1) noObject
  · next open' => exact absurd (Symbol.char.inj (List.cons.inj open').1) noList
  · next open' => exact absurd (Symbol.char.inj (List.cons.inj open').1) noObject
  · rfl

/-- A minus sign or a digit starts nothing but a number. -/
theorem numberStart {c : Char} (start : c = '-' ∨ c.isDigit)
    : isSpace (.char c) = false ∧ c ≠ '[' ∧ c ≠ '\x7b' ∧ c ≠ ']'
      ∧ c ≠ 'n' ∧ c ≠ 't' ∧ c ≠ 'f' ∧ c ≠ '"' := by
  have different (d : Char) (other : ¬ (d = '-' ∨ d.isDigit)) : c ≠ d :=
    fun same => other (same ▸ start)
  refine ⟨?_, different _ (by decide), different _ (by decide), different _ (by decide),
    different _ (by decide), different _ (by decide), different _ (by decide),
    different _ (by decide)⟩
  unfold isSpace
  split
  · next same => exact absurd (Symbol.char.inj same) (different _ (by decide))
  · next same => exact absurd (Symbol.char.inj same) (different _ (by decide))
  · next same => exact absurd (Symbol.char.inj same) (different _ (by decide))
  · next same => exact absurd (Symbol.char.inj same) (different _ (by decide))
  · rfl

theorem readTree_whole (depth : Nat) (n : Whole)
    : Reads (readTree depth) (writtenNumber (.whole n)) (.number (.whole n)) := by
  intro rest ends
  have read := readNumber_written n ends
  obtain ⟨c, cs, shape, start⟩ := writtenNumber_starts n
  rw [shape, List.map_cons, List.cons_append] at read ⊢
  obtain ⟨solid, noList, noObject, -, noNull, noTrue, noFalse, noText⟩ := numberStart start
  have numeric : Symbol.char c = .char '-' ∨ (digitOf? (.char c)).isSome := by
    rcases start with rfl | digit
    · exact .inl rfl
    · rw [digitOf?, Text.digitValue?_of_isDigit digit]
      exact .inr rfl
  rw [readTree_scalar depth _ solid noList noObject]
  unfold readScalar
  split
  · next same => exact absurd (Symbol.char.inj (List.cons.inj same).1) noNull
  · next same => exact absurd (Symbol.char.inj (List.cons.inj same).1) noTrue
  · next same => exact absurd (Symbol.char.inj (List.cons.inj same).1) noFalse
  · next same => exact absurd (Symbol.char.inj (List.cons.inj same).1) noText
  · next same => exact absurd same (List.cons_ne_nil _ _)
  · next s after _ _ _ _ same =>
    obtain ⟨rfl, rfl⟩ := List.cons.inj same
    rw [if_pos numeric, read]
    rfl

/-- The text of a value starts with no blank and no closing bracket, and with an opening one only
if the value nests.
-/
theorem write_head {j : Json} (whole : j.NoReals)
    : ∃ c cs,
        j.write = c :: cs
        ∧ isSpace (.char c) = false
        ∧ c ≠ ']'
        ∧ (j.nesting = 0 → c ≠ '[' ∧ c ≠ '\x7b') := by
  cases j with
  | null => exact ⟨'n', _, rfl, rfl, by decide, fun _ => by decide⟩
  | bool b =>
      cases b with
      | false => exact ⟨'f', _, rfl, rfl, by decide, fun _ => by decide⟩
      | true => exact ⟨'t', _, rfl, rfl, by decide, fun _ => by decide⟩
  | number n =>
      cases n with
      | real x => exact absurd whole (by simp [NoReals])
      | whole n =>
          obtain ⟨c, cs, shape, start⟩ := writtenNumber_starts n
          obtain ⟨solid, noList, noObject, noClose, -⟩ := numberStart start
          exact ⟨c, cs, shape, solid, noClose, fun _ => ⟨noList, noObject⟩⟩
  | text s => exact ⟨'"', _, rfl, rfl, by decide, fun _ => by decide⟩
  | list items =>
      have nested : nesting (.list items) ≠ 0 := by simp [nesting]
      exact ⟨'[', _, write_list items, rfl, by decide, fun flat => absurd flat nested⟩
  | object members =>
      have nested : nesting (.object members) ≠ 0 := by simp [nesting]
      exact ⟨'\x7b', _, write_object members, rfl, by decide, fun flat => absurd flat nested⟩

theorem startsItem_write {j : Json} (whole : j.NoReals) : StartsItem j.write := by
  obtain ⟨c, cs, shape, solid, noClose, _⟩ := write_head whole
  exact ⟨c, cs, shape, solid, noClose⟩

/-- A list is read by its items once its bracket is open. -/
theorem readTree_openList (depth : Nat) (rest : List Symbol)
    : readTree (depth + 1) (.char '[' :: rest)
      = (readItems (readTree depth) (rest.length + 1) true rest).map
          fun (items, after) => (.list items, after) := by
  conv => lhs; unfold readTree
  rw [skipSpace_cons rest rfl]
  simp only [bind, Except.bind]
  cases readItems (readTree depth) (rest.length + 1) true rest with
  | error e => rfl
  | ok found => rfl

theorem readTree_openObject (depth : Nat) (rest : List Symbol)
    : readTree (depth + 1) (.char '\x7b' :: rest)
      = (readMembers (collect (readTree depth)) (rest.length + 1) true [] rest).map
          fun (members, after) => (.object members, after) := by
  conv => lhs; unfold readTree
  rw [skipSpace_cons rest rfl]
  simp only [bind, Except.bind]
  cases readMembers (collect (readTree depth)) (rest.length + 1) true [] rest with
  | error e => rfl
  | ok found => rfl

theorem readTree_list {depth : Nat} {items : List Json}
    (good : ∀ item ∈ items, StartsItem item.write ∧ Reads (readTree depth) item.write item)
    : Reads (readTree (depth + 1)) (write (.list items)) (.list items) := by
  intro rest _
  have asThey : ∀ item ∈ items,
      StartsItem item.write ∧ Reads (readTree depth) item.write (id item) := good
  have read := readItems_written asThey rest rfl
  rw [write_list, List.cons_append, List.map_cons, List.map_append, List.cons_append,
    List.append_assoc, List.map_singleton, List.singleton_append, readTree_openList, read,
    List.map_id]
  rfl

theorem readTree_object {depth : Nat} {members : List (String × Json)}
    (good : ∀ m ∈ members, Reads (readTree depth) m.2.write m.2)
    : Reads (readTree (depth + 1)) (write (.object members)) (.object members) := by
  intro rest _
  have takes : ∀ m ∈ members,
      TakesIn (collect (readTree depth)) write (addMember id) m :=
    fun m member => collect_takesIn (good m member)
  have read := readMembers_written takes rest rfl []
  rw [foldlM_addMember, List.nil_append] at read
  rw [write_object, List.cons_append, List.map_cons, List.map_append, List.cons_append,
    List.append_assoc, List.map_singleton, List.singleton_append, readTree_openObject, read]
  simp only [id, List.map_id']
  rfl

mutual

/-- A value is read back from its own text at any depth that it does not nest below. -/
theorem readTree_written : (j : Json) → j.NoReals → ∀ depth, j.nesting ≤ depth →
    Reads (readTree depth) j.write j
  | .null, _, depth, _ => by
    intro rest _
    have letters := literal_append ['u', 'l', 'l'] rest
    rw [write, List.map_cons, List.cons_append,
      readTree_scalar depth _ rfl (by decide) (by decide), readScalar, letters]
    rfl
  | .bool true, _, depth, _ => by
    intro rest _
    have letters := literal_append ['r', 'u', 'e'] rest
    rw [write, List.map_cons, List.cons_append,
      readTree_scalar depth _ rfl (by decide) (by decide), readScalar, letters]
    rfl
  | .bool false, _, depth, _ => by
    intro rest _
    have letters := literal_append ['a', 'l', 's', 'e'] rest
    rw [write, List.map_cons, List.cons_append,
      readTree_scalar depth _ rfl (by decide) (by decide), readScalar, letters]
    rfl
  | .number (.whole n), _, depth, _ => readTree_whole depth n
  | .number (.real _), whole, _, _ => absurd whole (by simp [NoReals])
  | .text s, _, depth, _ => by
    intro rest _
    have read := readString_written s rest
    rw [write, writtenString, List.cons_append, List.map_cons, List.cons_append, List.map_append,
      List.append_assoc, List.map_singleton, List.singleton_append,
      readTree_scalar depth _ rfl (by decide) (by decide), readScalar, read]
    rfl
  | .list items, whole, 0, fits => absurd fits (by simp [nesting])
  | .list items, whole, depth + 1, fits => by
    rw [nesting] at fits
    rw [NoReals] at whole
    have read := readTree_items items whole depth (Nat.le_of_succ_le_succ fits)
    exact readTree_list fun item member =>
      ⟨startsItem_write (noRealItems_iff.mp whole item member), read item member⟩
  | .object members, whole, 0, fits => absurd fits (by simp [nesting])
  | .object members, whole, depth + 1, fits => by
    rw [nesting] at fits
    rw [NoReals] at whole
    exact readTree_object (readTree_members members whole depth (Nat.le_of_succ_le_succ fits))

theorem readTree_items : (items : List Json) → NoRealItems items → ∀ depth,
    nestingItems items ≤ depth → ∀ item ∈ items, Reads (readTree depth) item.write item
  | [], _, _, _, _, member => absurd member List.not_mem_nil
  | first :: items, whole, depth, fits, item, member => by
    rw [nestingItems] at fits
    rw [NoRealItems] at whole
    have head := readTree_written first whole.1 depth (by omega)
    have others := readTree_items items whole.2 depth (by omega)
    rcases List.mem_cons.mp member with rfl | later
    · exact head
    · exact others item later

theorem readTree_members : (members : List (String × Json)) → NoRealMembers members → ∀ depth,
    nestingMembers members ≤ depth → ∀ m ∈ members, Reads (readTree depth) m.2.write m.2
  | [], _, _, _, _, member => absurd member List.not_mem_nil
  | (key, first) :: members, whole, depth, fits, m, member => by
    rw [nestingMembers] at fits
    rw [NoRealMembers] at whole
    have head := readTree_written first whole.1 depth (by omega)
    have others := readTree_members members whole.2 depth (by omega)
    rcases List.mem_cons.mp member with rfl | later
    · exact head
    · exact others m later

end

end NodeTrial.Json
