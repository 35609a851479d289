import NodeTrial.Json.Tagged
import NodeTrial.Proofs.Json.Canonical
import NodeTrial.Proofs.Json.Tree

/-! Shapes read back from the text of a value that fits them. A record is read back from an object
that holds its fields, in whatever order they stand.
-/

namespace NodeTrial.Json

open Text (Symbol)

/-- A text is read whole if only blanks follow the value. -/
theorem readWhole_of_reads {α : Type} {reader : Reader α} {text : List Char} {value : α}
    (reads : Reads reader text value) {blanks : List Symbol}
    (blank : ∀ s ∈ blanks, isSpace s = true)
    : readWhole reader (text.map .char ++ blanks) = .ok value := by
  have ends : EndsNumber blanks := by
    cases blanks with
    | nil => exact .nil
    | cons s rest =>
        have space := blank s List.mem_cons_self
        refine .cons rest ?_
        unfold isSpace at space
        split at space
        · decide
        · decide
        · decide
        · decide
        · exact absurd space (by decide)
  have skipped : skipSpace blanks = [] := by
    rw [← List.append_nil blanks, skipSpace, List.dropWhile_append_of_pos blank]
    rfl
  simp only [readWhole, reads blanks ends, bind, Except.bind, skipped]
  rfl

/-- A value is read back from its own text if it does not nest too deep. -/
theorem parse_written {j : Json} (whole : j.NoReals) (fits : j.nesting ≤ maxDepth)
    {blanks : List Symbol} (blank : ∀ s ∈ blanks, isSpace s = true)
    : parse (j.write.map .char ++ blanks) = .ok j :=
  readWhole_of_reads (readTree_written j whole maxDepth fits) blank

namespace Shape

-----------------------------------------------------------------------------------------
-- Scalars and values of any kind
-----------------------------------------------------------------------------------------

/-- A shape of scalars reads a scalar that it accepts. -/
theorem scalar_reads {accept : Json → Except Mismatch Json} {j normal : Json}
    (whole : j.NoReals) (flat : j.nesting = 0) (accepted : accept j = .ok normal) (depth : Nat)
    : Reads ((scalar accept).read depth) j.write normal := by
  intro rest ends
  have read := readTree_written j whole 0 (Nat.le_of_eq flat) rest ends
  obtain ⟨c, cs, shape, solid, _, unopened⟩ := write_head whole
  obtain ⟨noList, noObject⟩ := unopened flat
  rw [shape, List.map_cons, List.cons_append] at read ⊢
  rw [readTree_scalar 0 _ solid noList noObject] at read
  unfold scalar
  simp only [skipSpace_cons _ solid]
  split
  · next open' => exact absurd (Symbol.char.inj (List.cons.inj open').1) noList
  · next open' => exact absurd (Symbol.char.inj (List.cons.inj open').1) noObject
  · simp only [read, bind, Except.bind, accepted]
    rfl

theorem text_reads (s : String) (depth : Nat)
    : Reads (text.read depth) (write (.text s)) (.text s) := by
  have whole : (Json.text s).NoReals := by simp [NoReals]
  unfold text
  refine scalar_reads whole (by rw [nesting]) ?_ depth
  rfl

theorem unsigned_reads (w : UInt64) (depth : Nat)
    : Reads (unsigned.read depth) (write (.number (.whole (.ofWord w))))
        (.number (.whole (.ofWord w))) := by
  have whole : (Json.number (.whole (.ofWord w))).NoReals := by simp [NoReals]
  unfold unsigned
  refine scalar_reads whole (by rw [nesting]) ?_ depth
  exact if_pos (Int.natCast_nonneg w.toNat)

theorem optionalSigned_reads (w : Int64) (depth : Nat)
    : Reads (optionalSigned.read depth) (write (.number (.whole (.ofSigned w))))
        (.number (.whole (.ofSigned w))) := by
  have whole : (Json.number (.whole (.ofSigned w))).NoReals := by simp [NoReals]
  unfold optionalSigned
  refine scalar_reads whole (by rw [nesting]) ?_ depth
  exact if_pos w.toInt_lt

/-- A value of any kind is read as its canonical form. -/
theorem any_reads {j : Json} (whole : j.NoReals) {depth : Nat} (fits : j.nesting ≤ depth)
    : Reads (any.read depth) j.write j.canonical := by
  intro rest ends
  have read := readTree_written j whole depth fits rest ends
  simp only [any, read]
  rfl

-----------------------------------------------------------------------------------------
-- Records
-----------------------------------------------------------------------------------------

/-- Takes in a field that was read, unless it was read before. -/
def addField (found : List (String × Json)) (member : String × (Json × Json))
    : Except ReadError (List (String × Json)) :=
  if (lookupEntry member.1 found).isSome then .error (.unfit (.duplicateField member.1))
  else .ok (found ++ [(member.1, member.2.2)])

/-- A member is a field of a record: its text is read as its normal form. -/
def IsField (fields : List Field) (depth : Nat) (member : String × (Json × Json)) : Prop :=
  ∃ f, fieldNamed? fields member.1 = some f
    ∧ Reads (f.shape.read depth) member.2.1.write member.2.2

theorem readField_takesIn {fields : List Field} {depth : Nat} {member : String × (Json × Json)}
    (field : IsField fields depth member)
    : TakesIn (readField fields depth) (fun b => b.1.write) addField member := by
  obtain ⟨f, named, reads⟩ := field
  intro state rest ends
  have taken : TakesIn (collect (f.shape.read depth)) (fun b : Json × Json => b.1.write)
      (fun read m => .ok (read ++ [(m.1, m.2.2)])) member := collect_takesIn reads
  have added := taken state rest ends
  simp only [readField, named, addField]
  split
  · rfl
  · exact added

/-- Fields with different names are all taken in, in the order in which they stand; by induction
on them.
-/
theorem foldlM_addField (members : List (String × (Json × Json)))
    : ∀ (found : List (String × Json)),
        (found.map (·.1) ++ members.map (·.1)).Nodup →
        members.foldlM addField found = .ok (found ++ members.map fun m => (m.1, m.2.2)) := by
  induction members with
  | nil =>
      intro found _
      rw [List.foldlM_nil, List.map_nil, List.append_nil]
      rfl
  | cons m members ih =>
      intro found distinct
      have fresh : lookupEntry m.1 found = none := by
        refine lookupEntry_eq_none fun entry member same => ?_
        have apart := (List.nodup_append.mp distinct).2.2
        exact apart entry.1 (List.mem_map_of_mem member) m.1 List.mem_cons_self same
      have added : addField found m = .ok (found ++ [(m.1, m.2.2)]) := by
        rw [addField, fresh]
        rfl
      have others := ih (found ++ [(m.1, m.2.2)]) (by
        rw [List.map_append, List.map_singleton, List.append_assoc, List.singleton_append]
        exact distinct)
      rw [List.append_assoc, List.singleton_append] at others
      rw [List.foldlM_cons, added, List.map_cons]
      exact others

/-- A record is read by its members once its brace is open. -/
theorem record_open (name : String) (fields : List Field) (depth : Nat) (rest : List Symbol)
    : (record name fields).read (depth + 1) (.char '\x7b' :: rest)
      = (do
          let (found, after) ←
            readMembers (readField fields depth) (rest.length + 1) true [] rest
          .ok (.object (← (complete found fields).mapError .unfit), after)) := by
  unfold record
  have solid : isSpace (.char '\x7b') = false := rfl
  simp only [skipSpace_cons rest solid]

/-- A record is read back from an object of its fields. -/
theorem record_reads {name : String} {fields : List Field} {depth : Nat}
    {members : List (String × (Json × Json))} {completed : List (String × Json)}
    (areFields : ∀ m ∈ members, IsField fields depth m) (distinct : (members.map (·.1)).Nodup)
    (all : complete (members.map fun m => (m.1, m.2.2)) fields = .ok completed)
    : Reads ((record name fields).read (depth + 1))
        (write (.object (members.map fun m => (m.1, m.2.1)))) (.object completed) := by
  intro rest _
  have takes : ∀ m ∈ members,
      TakesIn (readField fields depth) (fun b => b.1.write) addField m :=
    fun m member => readField_takesIn (areFields m member)
  have read := readMembers_written takes rest rfl []
  rw [foldlM_addField members [] distinct, List.nil_append] at read
  have same : writtenMembers write (members.map fun m => (m.1, m.2.1))
      = writtenMembers (fun b : Json × Json => b.1.write) members := by
    cases members with
    | nil => rfl
    | cons m members =>
        rw [List.map_cons, writtenMembers, writtenMembers, List.flatMap_map]
        rfl
  rw [write_object, same, List.cons_append, List.map_cons, List.map_append, List.cons_append,
    List.append_assoc, List.map_singleton, List.singleton_append, record_open, read]
  simp only [bind, Except.bind, Except.map, all]
  rfl

end Shape

end NodeTrial.Json
