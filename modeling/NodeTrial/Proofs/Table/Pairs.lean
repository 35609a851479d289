import Mathlib.Data.List.Induction
import NodeTrial.Proofs.Table.Lookup

/-! Tables of pairs with repeated keys: each key has the value of its last pair, and a change of the
values alone may come before or after the table is made.
-/

namespace NodeTrial

variable {α β : Type}

/-- A pair that stands in a list is the last one of its key there. -/
def IsLast (pairs : List (String × α)) (key : String) (value : α) : Prop :=
  ∃ before after, pairs = before ++ (key, value) :: after ∧ ∀ later ∈ after, later.1 ≠ key

theorem not_isLast_nil (key : String) (value : α) : ¬ IsLast [] key value := by
  rintro ⟨before, after, place, -⟩
  simp at place

/-- A pair that is put behind a list is the last of its key, and those of other keys stay last. -/
theorem isLast_append_iff {pairs : List (String × α)} {pair : String × α} {key : String} {value : α}
    : IsLast (pairs ++ [pair]) key value
      ↔ if pair.1 = key then pair.2 = value else IsLast pairs key value := by
  constructor
  · rintro ⟨before, after, place, last⟩
    rcases List.eq_nil_or_concat after with rfl | ⟨after, final, rfl⟩
    · obtain ⟨rfl, same⟩ := List.append_inj' place rfl
      obtain rfl := List.singleton_inj.mp same
      rw [if_pos rfl]
    · rw [List.concat_eq_append, ← List.cons_append, ← List.append_assoc] at place
      obtain ⟨rfl, same⟩ := List.append_inj' place rfl
      obtain rfl := List.singleton_inj.mp same
      rw [if_neg (last pair (by simp))]
      exact ⟨before, after, rfl, fun later member => last later (by simp [member])⟩
  · split
    · next same =>
      intro stands
      exact ⟨pairs, [], by rw [← same, ← stands], List.forall_mem_nil _⟩
    · next other =>
      rintro ⟨before, after, rfl, last⟩
      refine ⟨before, after ++ [pair], by simp, fun later member => ?_⟩
      rcases List.mem_append.mp member with early | final
      · exact last later early
      · exact List.mem_singleton.mp final ▸ other

theorem IsLast.occurs {pairs : List (String × α)} {key : String} {value : α}
    (last : IsLast pairs key value)
    : key ∈ pairs.map (·.1) := by
  obtain ⟨before, after, rfl, -⟩ := last
  simp

/-- A key that occurs in a list has a last pair there, by induction from the end of the list. -/
theorem exists_isLast {pairs : List (String × α)} {key : String} (occurs : key ∈ pairs.map (·.1))
    : ∃ value, IsLast pairs key value := by
  induction pairs using List.reverseRecOn with
  | nil => cases occurs
  | append_singleton pairs pair ih =>
      by_cases same : pair.1 = key
      · exact ⟨pair.2, isLast_append_iff.mpr (by rw [if_pos same])⟩
      · have earlier : key ∈ pairs.map (·.1) := by simpa [Ne.symm same] using occurs
        obtain ⟨value, last⟩ := ih earlier
        exact ⟨value, isLast_append_iff.mpr (by rwa [if_neg same])⟩

/-- A table has the keys of a list of pairs and no others, each with the value of its last pair. -/
def KeepsLast (pairs : List (String × α)) (t : Table α) : Prop :=
  (∀ key, key ∈ t.keys ↔ key ∈ pairs.map (·.1))
  ∧ ∀ key value, t.get? key = some value ↔ IsLast pairs key value

/-- An insertion of a changed value among changed values, by induction on the list. -/
theorem insertEntry_map (f : α → β) (key : String) (value : α) (entries : List (String × α))
    : insertEntry key (f value) (entries.map fun entry => (entry.1, f entry.2))
      = (insertEntry key value entries).map fun entry => (entry.1, f entry.2) := by
  induction entries with
  | nil => rfl
  | cons entry rest ih =>
      simp only [List.map_cons, insertEntry]
      split
      · rfl
      · split
        · rfl
        · rw [ih, List.map_cons]

namespace Table

theorem ofList_concat (pairs : List (String × α)) (pair : String × α)
    : ofList (pairs ++ [pair]) = (ofList pairs).insert pair.1 pair.2 :=
  List.foldl_append

/-- The table of a list of pairs has under each key the value of the key's last pair, and nothing
else; by induction from the end of the list.
-/
theorem get?_ofList_iff {pairs : List (String × α)} {key : String} {value : α}
    : (ofList pairs).get? key = some value ↔ IsLast pairs key value := by
  induction pairs using List.reverseRecOn with
  | nil => exact iff_of_false nofun (not_isLast_nil key value)
  | append_singleton pairs pair ih =>
      rw [ofList_concat, get?_insert, isLast_append_iff]
      split
      · exact Option.some_inj
      · exact ih

theorem keepsLast_ofList (pairs : List (String × α)) : KeepsLast pairs (ofList pairs) := by
  refine ⟨fun key => ?_, fun _ _ => get?_ofList_iff⟩
  rw [mem_keys_iff]
  constructor
  · rintro ⟨value, found⟩
    exact (get?_ofList_iff.mp found).occurs
  · intro occurs
    obtain ⟨value, last⟩ := exists_isLast occurs
    exact ⟨value, get?_ofList_iff.mpr last⟩

/-- The entries of a table of changed values are those of the table, changed. -/
theorem entries_ofList_map (f : α → β) (pairs : List (String × α))
    : (ofList (pairs.map fun pair => (pair.1, f pair.2))).entries
      = (ofList pairs).entries.map fun entry => (entry.1, f entry.2) := by
  induction pairs using List.reverseRecOn with
  | nil => rfl
  | append_singleton pairs pair ih =>
      rw [List.map_append, List.map_singleton, ofList_concat, ofList_concat]
      exact (congrArg (insertEntry pair.1 (f pair.2)) ih).trans (insertEntry_map f pair.1 pair.2 _)

/-- A table made again from the changed entries of one is the table of the changed pairs. -/
theorem ofList_entries_map (f : α → β) (pairs : List (String × α))
    : ofList ((ofList pairs).entries.map fun entry => (entry.1, f entry.2))
      = ofList (pairs.map fun pair => (pair.1, f pair.2)) := by
  rw [← entries_ofList_map]
  exact ext (ofList_entries (ofList _).rising)

end Table

end NodeTrial
