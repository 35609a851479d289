import NodeTrial.Table

/-! Looking up keys in tables: what an insertion changes, which entries a table has, and how the
sum of a weight over all values moves with one insertion.
-/

namespace NodeTrial

variable {α : Type}

-----------------------------------------------------------------------------------------
-- Lists of entries
-----------------------------------------------------------------------------------------

/-- An insertion changes what is found under its key alone, by induction on the list. -/
theorem lookupEntry_insertEntry (key other : String) (value : α) (entries : List (String × α))
    : lookupEntry other (insertEntry key value entries)
      = if key = other then some value else lookupEntry other entries := by
  induction entries with
  | nil => simp [insertEntry, lookupEntry]
  | cons entry rest ih =>
      obtain ⟨name, old⟩ := entry
      unfold insertEntry
      split
      · simp [lookupEntry]
      · split
        · next same =>
          have same : key = name := same
          subst same
          by_cases h : key = other <;> simp [lookupEntry, h]
        · next different =>
          have different : ¬ key = name := different
          by_cases h : name = other
          · subst h
            simp [lookupEntry, different]
          · simp [lookupEntry, h, ih]

theorem lookupEntry_append (key : String) (entries more : List (String × α))
    : lookupEntry key (entries ++ more) = (lookupEntry key entries).or (lookupEntry key more) := by
  induction entries with
  | nil => rfl
  | cons entry entries ih =>
      rw [List.cons_append, lookupEntry, lookupEntry]
      split
      · rfl
      · exact ih

theorem mem_of_lookupEntry {key : String} {value : α} {entries : List (String × α)}
    (found : lookupEntry key entries = some value)
    : (key, value) ∈ entries := by
  induction entries with
  | nil => simp [lookupEntry] at found
  | cons entry rest ih =>
      by_cases same : entry.1 = key
      · simp only [lookupEntry, same, if_true, Option.some.injEq] at found
        subst found
        subst same
        exact List.mem_cons_self
      · simp only [lookupEntry, same, if_false] at found
        exact List.mem_cons_of_mem _ (ih found)

theorem lookupEntry_eq_none {key : String} {entries : List (String × α)}
    (absent : ∀ entry ∈ entries, entry.1 ≠ key)
    : lookupEntry key entries = none := by
  induction entries with
  | nil => rfl
  | cons entry rest ih =>
      rw [lookupEntry, if_neg (absent entry List.mem_cons_self)]
      exact ih fun other member => absent other (List.mem_cons_of_mem _ member)

/-- In a rising list every entry is found under its key: no other entry has that key. -/
theorem RisingKeys.lookupEntry_eq {key : String} {value : α} {entries : List (String × α)}
    (rising : RisingKeys entries) (member : (key, value) ∈ entries)
    : lookupEntry key entries = some value := by
  induction entries with
  | nil => cases member
  | cons entry rest ih =>
      obtain ⟨above, rising⟩ := List.pairwise_cons.mp rising
      rcases List.mem_cons.mp member with same | later
      · simp [lookupEntry, ← same]
      · have less : entry.1 < key := above _ later
        have different : entry.1 ≠ key := fun same => String.lt_irrefl key (same ▸ less)
        rw [lookupEntry, if_neg different]
        exact ih rising later

/-- The sum of a weight over the values of a list of entries. -/
def weightOf (weight : α → Nat) (entries : List (String × α)) : Nat :=
  entries.foldr (fun entry sum => weight entry.2 + sum) 0

/-- An insertion into a rising list puts the weight of its value in the place of the weight of
the value found before, by induction on the list.
-/
theorem RisingKeys.weightOf_insertEntry (weight : α → Nat) (key : String) (value : α)
    {entries : List (String × α)} (rising : RisingKeys entries)
    : weightOf weight (NodeTrial.insertEntry key value entries)
        + ((lookupEntry key entries).map weight).getD 0
      = weightOf weight entries + weight value := by
  induction entries with
  | nil => simp [NodeTrial.insertEntry, lookupEntry, weightOf]
  | cons entry rest ih =>
      obtain ⟨above, tail⟩ := List.pairwise_cons.mp rising
      unfold NodeTrial.insertEntry
      split
      · next less =>
        -- The key comes before all others, so nothing is found under it.
        have absent : lookupEntry key (entry :: rest) = none := by
          refine lookupEntry_eq_none fun other member same => ?_
          rcases List.mem_cons.mp member with rfl | later
          · rw [same] at less
            exact String.lt_irrefl key less
          · have more := String.lt_trans less (above other later)
            rw [same] at more
            exact String.lt_irrefl key more
        rw [absent]
        simp only [weightOf, List.foldr_cons, Option.map_none, Option.getD_none]
        omega
      · split
        · next same =>
          simp only [weightOf, lookupEntry, same, if_true, List.foldr_cons, Option.map_some,
            Option.getD_some]
          omega
        · next different =>
          have different : ¬ entry.1 = key := fun same => different same.symm
          have rest := ih tail
          simp only [weightOf, lookupEntry, different, if_false, List.foldr_cons] at rest ⊢
          omega

theorem weight_le_weightOf (weight : α → Nat) {key : String} {value : α}
    {entries : List (String × α)} (found : lookupEntry key entries = some value)
    : weight value ≤ weightOf weight entries := by
  have member := mem_of_lookupEntry found
  induction entries with
  | nil => cases member
  | cons entry rest ih =>
      simp only [weightOf, List.foldr_cons] at ih ⊢
      by_cases same : entry.1 = key
      · simp only [lookupEntry, same, if_true, Option.some.injEq] at found
        subst found
        exact Nat.le_add_right _ _
      · simp only [lookupEntry, same, if_false] at found
        exact Nat.le_add_left_of_le (ih found (mem_of_lookupEntry found))

/-- Values found under two different keys weigh together no more than all values. -/
theorem weight_add_le_weightOf (weight : α → Nat) {key other : String} {value next : α}
    {entries : List (String × α)} (different : key ≠ other)
    (found : lookupEntry key entries = some value) (also : lookupEntry other entries = some next)
    : weight value + weight next ≤ weightOf weight entries := by
  induction entries with
  | nil => simp [lookupEntry] at found
  | cons entry rest ih =>
      simp only [lookupEntry] at found also
      simp only [weightOf, List.foldr_cons] at ih ⊢
      split at found
      · next same =>
        have apart : ¬ entry.1 = other := fun h => different (same.symm.trans h)
        rw [if_neg apart] at also
        have bound : weight next ≤ weightOf weight rest := weight_le_weightOf weight also
        have here : entry.2 = value := Option.some.inj found
        simp only [weightOf] at bound
        rw [here]
        omega
      · split at also
        · have bound : weight value ≤ weightOf weight rest := weight_le_weightOf weight found
          have here : entry.2 = next := Option.some.inj also
          simp only [weightOf] at bound
          rw [here]
          omega
        · exact Nat.le_add_left_of_le (ih found also)

/-- An entry above all others is put behind them, by induction on the list. -/
theorem insertEntry_of_above {key : String} (value : α) {entries : List (String × α)}
    (above : ∀ entry ∈ entries, entry.1 < key)
    : insertEntry key value entries = entries ++ [(key, value)] := by
  induction entries with
  | nil => rfl
  | cons head rest ih =>
      have below := above head List.mem_cons_self
      have notLess : ¬ key < head.1 := fun less => String.lt_irrefl _ (String.lt_trans less below)
      have other : key ≠ head.1 := fun same => String.lt_irrefl key (same ▸ below)
      rw [insertEntry, if_neg notLess, if_neg other,
        ih fun entry member => above entry (List.mem_cons_of_mem head member), List.cons_append]

/-- An insertion under a new key adds an entry and loses none, by induction on the list. -/
theorem insertEntry_perm {key : String} (value : α) {entries : List (String × α)}
    (fresh : ∀ entry ∈ entries, entry.1 ≠ key)
    : (insertEntry key value entries).Perm ((key, value) :: entries) := by
  induction entries with
  | nil => exact .refl _
  | cons head rest ih =>
      obtain ⟨other, fresh⟩ := List.forall_mem_cons.mp fresh
      unfold insertEntry
      split
      · exact .refl _
      · split
        · next same => exact absurd same.symm other
        · exact ((ih fresh).cons head).trans (.swap _ _ _)

/-- The keys of a list decide the order of its entries. -/
theorem RisingKeys.eq_of_perm {entries more : List (String × α)} (rising : RisingKeys entries)
    (risingToo : RisingKeys more) (same : entries.Perm more)
    : entries = more := by
  refine same.eq_of_pairwise ?_ rising risingToo
  intro a b _ _ less greater
  exact absurd (String.lt_trans less greater) (String.lt_irrefl a.1)

-----------------------------------------------------------------------------------------
-- Tables
-----------------------------------------------------------------------------------------

namespace Table

@[simp]
theorem get?_empty (key : String) : (empty : Table α).get? key = none :=
  rfl

theorem get?_insert (t : Table α) (key other : String) (value : α)
    : (t.insert key value).get? other = if key = other then some value else t.get? other :=
  lookupEntry_insertEntry key other value t.entries

@[simp]
theorem get?_insert_self (t : Table α) (key : String) (value : α)
    : (t.insert key value).get? key = some value := by
  rw [get?_insert, if_pos rfl]

theorem get?_insert_of_ne (t : Table α) {key other : String} (value : α) (h : key ≠ other)
    : (t.insert key value).get? other = t.get? other := by
  rw [get?_insert, if_neg h]

theorem mem_entries_iff {t : Table α} {key : String} {value : α}
    : (key, value) ∈ t.entries ↔ t.get? key = some value :=
  ⟨t.rising.lookupEntry_eq, mem_of_lookupEntry⟩

theorem mem_keys_iff {t : Table α} {key : String}
    : key ∈ t.keys ↔ ∃ value, t.get? key = some value := by
  constructor
  · intro member
    obtain ⟨⟨name, value⟩, stands, rfl⟩ := List.mem_map.mp member
    exact ⟨value, mem_entries_iff.mp stands⟩
  · rintro ⟨value, found⟩
    exact List.mem_map.mpr ⟨(key, value), mem_entries_iff.mpr found, rfl⟩

theorem keys_nodup (t : Table α) : t.keys.Nodup := by
  refine (List.pairwise_map.mpr t.rising).imp ?_
  intro a b less same
  exact String.lt_irrefl a (same ▸ less)

theorem mem_values_iff {t : Table α} {value : α}
    : value ∈ t.values ↔ ∃ key, t.get? key = some value := by
  constructor
  · intro member
    obtain ⟨⟨key, held⟩, stands, rfl⟩ := List.mem_map.mp member
    exact ⟨key, mem_entries_iff.mp stands⟩
  · rintro ⟨key, found⟩
    exact List.mem_map.mpr ⟨(key, value), mem_entries_iff.mpr found, rfl⟩

theorem eq_of_perm {t u : Table α} (same : t.entries.Perm u.entries) : t = u :=
  ext (t.rising.eq_of_perm u.rising same)

/-- Pairs whose keys rise are the entries of their table, in the same order. -/
theorem ofList_entries {pairs : List (String × α)} (rising : RisingKeys pairs)
    : (ofList pairs).entries = pairs := by
  have build (rest : List (String × α))
      : ∀ (t : Table α), RisingKeys (t.entries ++ rest) →
          (rest.foldl (fun t pair => t.insert pair.1 pair.2) t).entries = t.entries ++ rest := by
    induction rest with
    | nil => exact fun t _ => by rw [List.foldl_nil, List.append_nil]
    | cons pair rest ih =>
        intro t ordered
        have above : ∀ entry ∈ t.entries, entry.1 < pair.1 := fun entry member =>
          (List.pairwise_append.mp ordered).2.2 entry member pair List.mem_cons_self
        have placed : (t.insert pair.1 pair.2).entries = t.entries ++ [pair] :=
          insertEntry_of_above pair.2 above
        rw [List.append_cons, ← placed] at ordered
        rw [List.foldl_cons, ih _ ordered, placed, ← List.append_cons]
  exact build pairs empty rising

end Table

end NodeTrial
