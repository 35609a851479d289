import NodeTrial.Json.Tagged
import NodeTrial.Proofs.Json.Nesting

/-! How deep the values nest that shapes read straight from text. A shape opens no more brackets
than are left to it, and what it passes over it does not keep; so its normal forms are as shallow as
the text had to be.
-/

namespace NodeTrial.Json

theorem nesting_canonical {depth : Nat} {j : Json} (h : j.nesting ≤ depth)
    : j.canonical.nesting ≤ depth :=
  have within : Within depth False j := ⟨h, False.elim⟩
  within.canonical.1

/-- The members of an object nest a bracket less than the object. -/
theorem nesting_member {depth : Nat} {j : Json} (h : j.nesting ≤ depth + 1) (name : String)
    : (j.member name).nesting ≤ depth := by
  cases j with
  | object members =>
      rw [nesting, Nat.add_le_add_iff_right, nestingMembers_le_iff] at h
      rw [member]
      cases found : lookupEntry name members with
      | some value => exact h (name, value) (mem_of_lookupEntry found)
      | none => exact Nat.zero_le depth
  | null | bool | number | text | list => exact Nat.zero_le depth

namespace Shape

/-- Whatever a shape reads nests no more brackets than were left to open. -/
def Bounded (s : Shape) : Prop :=
  ∀ {depth input normal rest}, s.read depth input = .ok (normal, rest) → normal.nesting ≤ depth

theorem scalar_bounded {accept : Json → Except Mismatch Json}
    (flat : ∀ {j normal}, accept j = .ok normal → normal.nesting = 0)
    : (scalar accept).Bounded := by
  have accepted {j normal : Json} {depth : Nat}
      (h : (accept j).mapError ReadError.unfit = .ok normal)
      : normal.nesting ≤ depth :=
    flat (mapError_eq_ok.mp h) ▸ Nat.zero_le depth
  intro depth input normal rest h
  unfold scalar at h
  dsimp only at h
  split at h
  · obtain ⟨found, taken, same⟩ := map_ok_iff.mp h
    exact (Prod.mk.inj same).1 ▸ accepted taken
  · obtain ⟨found, taken, same⟩ := map_ok_iff.mp h
    exact (Prod.mk.inj same).1 ▸ accepted taken
  · obtain ⟨⟨j, after⟩, -, h⟩ := bind_ok_iff.mp h
    obtain ⟨found, taken, same⟩ := bind_ok_iff.mp h
    exact (Prod.mk.inj (Except.ok.inj same)).1 ▸ accepted taken

theorem text_bounded : text.Bounded := by
  refine scalar_bounded fun {j normal} h => ?_
  split at h
  · exact Except.ok.inj h ▸ by rw [nesting]
  · cases h

theorem unsigned_bounded : unsigned.Bounded := by
  refine scalar_bounded fun {j normal} h => ?_
  split at h
  · split at h
    · exact Except.ok.inj h ▸ by rw [nesting]
    · cases h
  · cases h

theorem any_bounded : any.Bounded := by
  intro depth input normal rest h
  obtain ⟨⟨j, after⟩, read, same⟩ := map_ok_iff.mp h
  exact (Prod.mk.inj same).1 ▸ nesting_canonical (readTree_nesting read)

-----------------------------------------------------------------------------------------
-- Records
-----------------------------------------------------------------------------------------

/-- A field's values nest no more brackets than were left to open, and its value for absence none.
-/
structure Field.Bounded (f : Field) : Prop where
  shape : f.shape.Bounded
  absent : ∀ value, f.absent = some value → value.nesting = 0

theorem Field.Bounded.required (name : String) {s : Shape} (bounded : s.Bounded)
    : (Field.required name s).Bounded :=
  ⟨bounded, fun _ absent => nomatch absent⟩

section Records

variable {fields : List Field} {depth : Nat}

/-- The fields of a record given as a list, by induction on the fields. -/
theorem readElements_bounded {expected : String}
    : (∀ f ∈ fields, f.Bounded) →
      ∀ {index : Nat} {input rest : List Text.Symbol} {found : List (String × Json)},
        readElements expected depth fields index input = .ok (found, rest) →
        ∀ m ∈ found, m.2.nesting ≤ depth := by
  induction fields with
  | nil =>
      intro _ index input rest found h
      obtain ⟨rfl, -⟩ := Prod.mk.inj (Except.ok.inj h)
      exact List.forall_mem_nil _
  | cons f fields ih =>
      intro bounded index input rest found h
      obtain ⟨head, tail⟩ := List.forall_mem_cons.mp bounded
      obtain ⟨⟨more, start⟩, -, h⟩ := bind_ok_iff.mp h
      cases more with
      | true =>
          obtain ⟨⟨value, middle⟩, read, h⟩ := bind_ok_iff.mp h
          obtain ⟨⟨others, last⟩, readOthers, same⟩ := bind_ok_iff.mp h
          obtain ⟨rfl, -⟩ := Prod.mk.inj (Except.ok.inj same)
          exact List.forall_mem_cons.mpr ⟨head.shape read, ih tail readOthers⟩
      | false =>
          dsimp only at h
          split at h
          · cases h
          · next value left =>
            obtain ⟨⟨others, last⟩, readOthers, same⟩ := bind_ok_iff.mp h
            obtain ⟨rfl, -⟩ := Prod.mk.inj (Except.ok.inj same)
            have here : value.nesting ≤ depth := head.absent value left ▸ Nat.zero_le depth
            exact List.forall_mem_cons.mpr ⟨here, ih tail readOthers⟩

theorem readField_bounded (bounded : ∀ f ∈ fields, f.Bounded) {found next : List (String × Json)}
    {key : String} {input rest : List Text.Symbol}
    (h : readField fields depth found key input = .ok (next, rest))
    (early : ∀ m ∈ found, m.2.nesting ≤ depth)
    : ∀ m ∈ next, m.2.nesting ≤ depth := by
  unfold readField at h
  split at h
  · next f named =>
    split at h
    · cases h
    · obtain ⟨_, value, -, read, rfl⟩ := collect_ok h
      have here := (bounded f (List.mem_of_find?_eq_some named)).shape read
      exact List.forall_mem_append.mpr ⟨early, List.forall_mem_singleton.mpr here⟩
  · obtain ⟨start, -, h⟩ := bind_ok_iff.mp h
    obtain ⟨after, -, same⟩ := bind_ok_iff.mp h
    exact (Prod.mk.inj (Except.ok.inj same)).1 ▸ early

/-- The fields that are found, and the others with their values for absence, by induction on the
fields.
-/
theorem complete_bounded {found : List (String × Json)} (early : ∀ m ∈ found, m.2.nesting ≤ depth)
    : (∀ f ∈ fields, f.Bounded) →
      ∀ {members : List (String × Json)}, complete found fields = .ok members →
        ∀ m ∈ members, m.2.nesting ≤ depth := by
  induction fields with
  | nil =>
      intro _ members h
      obtain rfl := Except.ok.inj h
      exact List.forall_mem_nil _
  | cons f fields ih =>
      intro bounded members h
      obtain ⟨head, tail⟩ := List.forall_mem_cons.mp bounded
      rw [complete] at h
      split at h
      · next value has =>
        obtain ⟨others, completed, same⟩ := bind_ok_iff.mp h
        obtain rfl := Except.ok.inj same
        have here : value.nesting ≤ depth := by
          rcases Option.or_eq_some_iff.mp has with given | ⟨-, left⟩
          · exact early _ (mem_of_lookupEntry given)
          · exact head.absent value left ▸ Nat.zero_le depth
        exact List.forall_mem_cons.mpr ⟨here, ih tail completed⟩
      · cases h

/-- A record is read as an object of its fields, which have a bracket less to open. -/
theorem record_bounded (name : String) (bounded : ∀ f ∈ fields, f.Bounded)
    : (record name fields).Bounded := by
  intro depth input normal rest h
  unfold record at h
  dsimp only at h
  split at h
  · cases h
  · cases h
  · obtain ⟨⟨found, middle⟩, read, h⟩ := bind_ok_iff.mp h
    obtain ⟨after, -, same⟩ := bind_ok_iff.mp h
    obtain ⟨rfl, -⟩ := Prod.mk.inj (Except.ok.inj same)
    rw [nesting, Nat.add_le_add_iff_right, nestingMembers_le_iff]
    exact readElements_bounded bounded read
  · next opened less start =>
    obtain ⟨⟨found, middle⟩, read, h⟩ := bind_ok_iff.mp h
    obtain ⟨completed, all, same⟩ := bind_ok_iff.mp h
    obtain ⟨rfl, -⟩ := Prod.mk.inj (Except.ok.inj same)
    have early : ∀ m ∈ found, m.2.nesting ≤ less :=
      readMembers_invariant (fun found => ∀ m ∈ found, m.2.nesting ≤ less)
        (readField_bounded bounded) read (List.forall_mem_nil _)
    rw [nesting, Nat.add_le_add_iff_right, nestingMembers_le_iff]
    exact complete_bounded early bounded (mapError_eq_ok.mp all)
  · cases h
  · cases h

end Records

end Shape

end NodeTrial.Json
