/-! Tables keyed by text, kept in rising key order. Two tables with the same entries are equal,
an insertion replaces the entry of its key, and the order of the keys is that of their code
points.
-/

namespace NodeTrial

variable {α : Type}

/-- Puts an entry at its place in a list that rises by key, replacing the entry of that key. -/
def insertEntry (key : String) (value : α) : List (String × α) → List (String × α)
  | [] => [(key, value)]
  | entry :: rest =>
    if key < entry.1 then (key, value) :: entry :: rest
    else if key = entry.1 then (key, value) :: rest
    else entry :: insertEntry key value rest

/-- The value of a key in a list of entries, the first one if there are several. -/
def lookupEntry (key : String) : List (String × α) → Option α
  | [] => none
  | entry :: rest => if entry.1 = key then some entry.2 else lookupEntry key rest

/-- The keys of a list of entries rise strictly, so none occurs twice. -/
def RisingKeys (entries : List (String × α)) : Prop :=
  entries.Pairwise fun a b => a.1 < b.1

/-- An inserted entry or an old one: an insertion brings in no other entry. -/
theorem mem_insertEntry {key : String} {value : α} {entries : List (String × α)}
    {entry : String × α} (h : entry ∈ insertEntry key value entries)
    : entry = (key, value) ∨ entry ∈ entries := by
  induction entries with
  | nil => simpa [insertEntry] using h
  | cons head rest ih =>
    unfold insertEntry at h
    split at h
    · simpa using h
    · split at h
      · rcases List.mem_cons.mp h with rfl | h
        · exact .inl rfl
        · exact .inr (List.mem_cons_of_mem _ h)
      · rcases List.mem_cons.mp h with rfl | h
        · exact .inr List.mem_cons_self
        · exact (ih h).imp id (List.mem_cons_of_mem _)

/-- An insertion keeps the keys rising, by induction on the list. -/
theorem RisingKeys.insertEntry {key : String} {value : α} {entries : List (String × α)}
    (h : RisingKeys entries)
    : RisingKeys (NodeTrial.insertEntry key value entries) := by
  induction entries with
  | nil => exact List.pairwise_singleton _ _
  | cons head rest ih =>
    have ⟨above, tail⟩ := List.pairwise_cons.mp h
    unfold NodeTrial.insertEntry
    split
    · next less =>
      refine List.pairwise_cons.mpr ⟨?_, h⟩
      intro entry mem
      rcases List.mem_cons.mp mem with rfl | mem
      · exact less
      · exact String.lt_trans less (above entry mem)
    · next notLess =>
      split
      · next same => exact List.pairwise_cons.mpr ⟨fun entry mem => same ▸ above entry mem, tail⟩
      · next other =>
        refine List.pairwise_cons.mpr ⟨?_, ih tail⟩
        intro entry mem
        rcases mem_insertEntry mem with rfl | mem
        · exact Std.lt_of_le_of_ne (String.not_lt.mp notLess) (Ne.symm other)
        · exact above entry mem

/-- A table from texts to values, in rising key order. -/
structure Table (α : Type) where
  entries : List (String × α)
  rising : RisingKeys entries

namespace Table

/-- The table without entries. -/
def empty : Table α :=
  ⟨[], List.Pairwise.nil⟩

instance : EmptyCollection (Table α) := ⟨empty⟩
instance : Inhabited (Table α) := ⟨empty⟩

instance [DecidableEq α] : DecidableEq (Table α) := fun a b =>
  if h : a.entries = b.entries then
    .isTrue (by cases a; cases b; cases h; rfl)
  else
    .isFalse fun e => h (e ▸ rfl)

/-- Two tables are equal when their entries are. -/
@[ext] theorem ext {a b : Table α} (h : a.entries = b.entries) : a = b := by
  cases a; cases b; cases h; rfl

def get? (t : Table α) (key : String) : Option α :=
  lookupEntry key t.entries

def insert (t : Table α) (key : String) (value : α) : Table α :=
  ⟨insertEntry key value t.entries, t.rising.insertEntry⟩

/-- The table of a list of pairs; of pairs with one key the last counts. -/
def ofList (pairs : List (String × α)) : Table α :=
  pairs.foldl (fun t pair => t.insert pair.1 pair.2) empty

/-- The keys in rising order. -/
def keys (t : Table α) : List String :=
  t.entries.map (·.1)

/-- The values in the order of their keys. -/
def values (t : Table α) : List α :=
  t.entries.map (·.2)

/-- The number of entries. -/
def size (t : Table α) : Nat :=
  t.entries.length

end Table

end NodeTrial
