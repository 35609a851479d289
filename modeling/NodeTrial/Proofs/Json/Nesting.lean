import NodeTrial.Proofs.Json.Reader
import NodeTrial.Proofs.Table.Lookup

/-! How deep values nest, and whether they hold floating-point numbers. A value that is read nests
no more brackets than were left to open, and the canonical form adds neither brackets nor numbers.
-/

namespace NodeTrial

/-- A table has no entries but the pairs that it is built from, by induction on the pairs. -/
theorem Table.mem_of_mem_ofList {α : Type} {pairs : List (String × α)} {entry : String × α}
    (h : entry ∈ (Table.ofList pairs).entries)
    : entry ∈ pairs := by
  have build (rest : List (String × α))
      : ∀ (t : Table α), entry ∈ (rest.foldl (fun t pair => t.insert pair.1 pair.2) t).entries →
          entry ∈ t.entries ∨ entry ∈ rest := by
    induction rest with
    | nil => exact fun _ member => .inl member
    | cons pair rest ih =>
        intro t member
        rcases ih _ member with early | late
        · rcases mem_insertEntry early with rfl | old
          · exact .inr List.mem_cons_self
          · exact .inl old
        · exact .inr (List.mem_cons_of_mem _ late)
  rcases build pairs _ h with none | member
  · cases none
  · exact member

namespace Json

open Text (Symbol)

/-- A value nests at most so many brackets, and holds no floating-point number if a condition holds.
-/
def Within (depth : Nat) (exact : Prop) (j : Json) : Prop :=
  j.nesting ≤ depth ∧ (exact → j.NoReals)

variable {depth : Nat} {exact : Prop}

theorem nestingItems_le_iff {items : List Json}
    : nestingItems items ≤ depth ↔ ∀ item ∈ items, item.nesting ≤ depth := by
  induction items with
  | nil => simp [nestingItems]
  | cons item items ih => rw [nestingItems, Nat.max_le, ih, List.forall_mem_cons]

theorem nestingMembers_le_iff {members : List (String × Json)}
    : nestingMembers members ≤ depth ↔ ∀ m ∈ members, m.2.nesting ≤ depth := by
  induction members with
  | nil => simp [nestingMembers]
  | cons m members ih => rw [nestingMembers, Nat.max_le, ih, List.forall_mem_cons]

theorem noRealItems_iff {items : List Json}
    : NoRealItems items ↔ ∀ item ∈ items, item.NoReals := by
  induction items with
  | nil => simp [NoRealItems]
  | cons item items ih => rw [NoRealItems, ih, List.forall_mem_cons]

theorem noRealMembers_iff {members : List (String × Json)}
    : NoRealMembers members ↔ ∀ m ∈ members, m.2.NoReals := by
  induction members with
  | nil => simp [NoRealMembers]
  | cons m members ih => rw [NoRealMembers, ih, List.forall_mem_cons]

theorem within_text (s : String) : Within depth exact (.text s) :=
  ⟨by rw [nesting]; exact Nat.zero_le depth, fun _ => by rw [NoReals]; trivial⟩

theorem within_list {items : List Json}
    : Within (depth + 1) exact (.list items) ↔ ∀ item ∈ items, Within depth exact item := by
  rw [Within, nesting, NoReals, Nat.add_le_add_iff_right, nestingItems_le_iff, noRealItems_iff]
  exact ⟨fun h item member => ⟨h.1 item member, fun e => h.2 e item member⟩,
    fun h => ⟨fun item member => (h item member).1, fun e item member => (h item member).2 e⟩⟩

theorem within_object {members : List (String × Json)}
    : Within (depth + 1) exact (.object members) ↔ ∀ m ∈ members, Within depth exact m.2 := by
  rw [Within, nesting, NoReals, Nat.add_le_add_iff_right, nestingMembers_le_iff, noRealMembers_iff]
  exact ⟨fun h m member => ⟨h.1 m member, fun e => h.2 e m member⟩,
    fun h => ⟨fun m member => (h m member).1, fun e m member => (h m member).2 e⟩⟩

/-- A list leaves a bracket less to its items. -/
theorem Within.items {items : List Json} (h : Within depth exact (.list items))
    : ∃ less, depth = less + 1 ∧ ∀ item ∈ items, Within less exact item := by
  cases depth with
  | zero => exact absurd h.1 (by simp [nesting])
  | succ less => exact ⟨less, rfl, within_list.mp h⟩

theorem Within.members {members : List (String × Json)} (h : Within depth exact (.object members))
    : ∃ less, depth = less + 1 ∧ ∀ m ∈ members, Within less exact m.2 := by
  cases depth with
  | zero => exact absurd h.1 (by simp [nesting])
  | succ less => exact ⟨less, rfl, within_object.mp h⟩

/-- Items read one by one have a property that every item read has, by induction on the bound. -/
theorem readItems_forall {α : Type} {item : Reader α} {P : α → Prop}
    (each : ∀ {input value rest}, item input = .ok (value, rest) → P value) {bound : Nat}
    : ∀ {first : Bool} {input rest : List Symbol} {values : List α},
        readItems item bound first input = .ok (values, rest) → ∀ v ∈ values, P v := by
  induction bound with
  | zero =>
      intro _ _ _ _ h
      cases h
  | succ bound ih =>
      intro first input rest values h
      rcases readItems_ok_iff.mp h with
        ⟨-, -, -, rfl⟩ | ⟨start, head, middle, tail, -, read, others, rfl⟩
      · exact fun _ none => absurd none List.not_mem_nil
      · exact List.forall_mem_cons.mpr ⟨each read, ih others⟩

/-- What the taking in of every member keeps, the members of an object keep; by induction on the
bound.
-/
theorem readMembers_invariant {σ : Type} {step : σ → String → Reader σ} (Invariant : σ → Prop)
    (keeps
      : ∀ {state key input next rest}, step state key input = .ok (next, rest) →
          Invariant state → Invariant next)
    {bound : Nat}
    : ∀ {first : Bool} {input rest : List Symbol} {state final : σ},
        readMembers step bound first state input = .ok (final, rest) → Invariant state →
          Invariant final := by
  induction bound with
  | zero =>
      intro _ _ _ _ _ h
      cases h
  | succ bound ih =>
      intro first input rest state final h early
      rcases readMembers_ok_iff.mp h with
        ⟨-, rfl⟩ | ⟨start, key, value, next, middle, -, -, taken, others⟩
      · exact early
      · exact ih others (keeps taken early)

/-- Members collected one by one have values with a property that every value read has. -/
theorem readMembers_forall {α : Type} {value : Reader α} {P : α → Prop}
    (each : ∀ {input found rest}, value input = .ok (found, rest) → P found) {bound : Nat}
    {first : Bool} {input rest : List Symbol} {before members : List (String × α)}
    (h : readMembers (collect value) bound first before input = .ok (members, rest))
    (early : ∀ m ∈ before, P m.2)
    : ∀ m ∈ members, P m.2 := by
  refine readMembers_invariant (fun members => ∀ m ∈ members, P m.2) ?_ h early
  intro state key input next rest taken early
  obtain ⟨_, v, -, read, rfl⟩ := collect_ok taken
  exact List.forall_mem_append.mpr ⟨early, List.forall_mem_singleton.mpr (each read)⟩

/-- A value that is read nests no more brackets than were left to open, by induction on these. -/
theorem readTree_nesting {depth : Nat}
    : ∀ {input rest : List Symbol} {j : Json},
        readTree depth input = .ok (j, rest) → j.nesting ≤ depth := by
  induction depth with
  | zero =>
      intro input rest j h
      obtain ⟨_, _, _, impossible, -⟩ | ⟨_, _, _, impossible, -⟩ | ⟨read, -⟩ := readTree_ok h
      · cases impossible
      · cases impossible
      · exact Nat.le_of_eq (readScalar_flat read)
  | succ depth ih =>
      intro input rest j h
      obtain ⟨less, opened, items, same, -, read, rfl⟩
        | ⟨less, opened, members, same, -, read, rfl⟩ | ⟨read, -⟩ := readTree_ok h
      · obtain rfl := Nat.succ.inj same
        rw [nesting]
        exact Nat.succ_le_succ (nestingItems_le_iff.mpr (readItems_forall ih read))
      · obtain rfl := Nat.succ.inj same
        rw [nesting]
        exact Nat.succ_le_succ
          (nestingMembers_le_iff.mpr (readMembers_forall ih read (List.forall_mem_nil _)))
      · exact readScalar_flat read ▸ Nat.zero_le _

mutual

/-- The canonical form holds nothing that the value does not, by induction on the value. -/
theorem Within.canonical : {j : Json} → ∀ {depth}, Within depth exact j →
    Within depth exact j.canonical
  | .null, _, h | .bool _, _, h | .number _, _, h | .text _, _, h => by
    rw [Json.canonical]
    exact h
  | .list items, depth, h => by
    obtain ⟨less, rfl, each⟩ := h.items
    rw [Json.canonical]
    exact within_list.mpr (within_canonicalItems each)
  | .object members, depth, h => by
    obtain ⟨less, rfl, each⟩ := h.members
    have kept := within_canonicalMembers each
    rw [Json.canonical]
    exact within_object.mpr fun m member => kept m (Table.mem_of_mem_ofList member)

theorem within_canonicalItems : {items : List Json} → ∀ {depth},
    (∀ item ∈ items, Within depth exact item) →
    ∀ item ∈ canonicalItems items, Within depth exact item
  | [], _, _ => fun _ none => absurd none List.not_mem_nil
  | _ :: _, _, each =>
    have ⟨head, tail⟩ := List.forall_mem_cons.mp each
    List.forall_mem_cons.mpr ⟨head.canonical, within_canonicalItems tail⟩

theorem within_canonicalMembers : {members : List (String × Json)} → ∀ {depth},
    (∀ m ∈ members, Within depth exact m.2) →
    ∀ m ∈ canonicalMembers members, Within depth exact m.2
  | [], _, _ => fun _ none => absurd none List.not_mem_nil
  | (_, _) :: _, _, each =>
    have ⟨head, tail⟩ := List.forall_mem_cons.mp each
    List.forall_mem_cons.mpr ⟨head.canonical, within_canonicalMembers tail⟩

end

end Json

end NodeTrial
