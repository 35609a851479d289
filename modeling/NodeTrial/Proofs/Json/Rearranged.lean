import Mathlib.Data.List.Nodup
import NodeTrial.Proofs.Json.Normal
import NodeTrial.Proofs.Json.Agreement

/-! Objects whose members stand in another order, with others of unknown names among them. Records
and unions are taken from such an object as they are from the first one: fields are looked up by
their names, and a union's tag may stand anywhere.
-/

namespace NodeTrial

variable {α β γ ε : Type}

/-- What is kept by every answer is kept by all answers, by induction on the list. -/
theorem map_of_mapM {f : α → Except ε β} {g : α → γ} {h : β → γ} {values : List α}
    (keeps : ∀ value answer, f value = .ok answer → h answer = g value)
    : ∀ {answers : List β}, values.mapM f = .ok answers → answers.map h = values.map g := by
  induction values with
  | nil =>
      rintro _ ⟨⟩
      rfl
  | cons value values ih =>
      intro answers found
      rw [List.mapM_cons] at found
      obtain ⟨answer, first, found⟩ := bind_ok_iff.mp found
      obtain ⟨others, rest, found⟩ := bind_ok_iff.mp found
      obtain rfl := Except.ok.inj found
      rw [List.map_cons, List.map_cons, keeps value answer first, ih rest]

/-- Where no key comes twice, every entry is found under its key. -/
theorem lookupEntry_eq_some_iff {entries : List (String × α)} (distinct : (entries.map (·.1)).Nodup)
    {key : String} {value : α}
    : lookupEntry key entries = some value ↔ (key, value) ∈ entries := by
  refine ⟨mem_of_lookupEntry, fun member => ?_⟩
  induction entries with
  | nil => cases member
  | cons entry rest ih =>
      obtain ⟨fresh, distinct⟩ := List.nodup_cons.mp distinct
      rcases List.mem_cons.mp member with rfl | later
      · rw [lookupEntry, if_pos rfl]
      · have other : entry.1 ≠ key :=
          fun same => fresh (List.mem_map.mpr ⟨(key, value), later, same.symm⟩)
        rw [lookupEntry, if_neg other, ih distinct later]

theorem lookupEntry_perm {entries others : List (String × α)} (same : entries.Perm others)
    (distinct : (entries.map (·.1)).Nodup) (key : String)
    : lookupEntry key entries = lookupEntry key others := by
  ext value
  rw [lookupEntry_eq_some_iff distinct, lookupEntry_eq_some_iff ((same.map _).nodup_iff.mp distinct),
    same.mem_iff]

namespace Json

-----------------------------------------------------------------------------------------
-- Members of known names
-----------------------------------------------------------------------------------------

/-- The members of an object that have one of the known names. -/
def knownMembers (known : List String) (members : List (String × Json)) : List (String × Json) :=
  members.filter fun m => m.1 ∈ known

/-- Two objects have the same members of known names, in any order and among any others, and none of
these names comes twice.
-/
structure Rearranged (known : List String) (members others : List (String × Json)) : Prop where
  perm : (knownMembers known members).Perm (knownMembers known others)
  distinct : ((knownMembers known members).map (·.1)).Nodup

namespace Rearranged

variable {known more : List String} {members others : List (String × Json)}

theorem symm (same : Rearranged known members others) : Rearranged known others members :=
  ⟨same.perm.symm, (same.perm.map _).nodup_iff.mp same.distinct⟩

/-- Fewer names are known of objects that are the same in more. -/
theorem mono (same : Rearranged more members others) (fewer : ∀ name ∈ known, name ∈ more)
    : Rearranged known members others := by
  have within (members : List (String × Json))
      : knownMembers known (knownMembers more members) = knownMembers known members := by
    rw [knownMembers, knownMembers, List.filter_filter]
    refine List.filter_congr fun m _ => ?_
    by_cases inside : m.1 ∈ known
    · simp [inside, fewer m.1 inside]
    · simp [inside]
  refine ⟨?_, ?_⟩
  · rw [← within members, ← within others]
    exact same.perm.filter _
  · rw [← within members]
    exact same.distinct.sublist (List.filter_sublist.map _)

theorem mem_iff (same : Rearranged known members others) {name : String} (inside : name ∈ known)
    {j : Json}
    : (name, j) ∈ members ↔ (name, j) ∈ others := by
  have here (members : List (String × Json))
      : (name, j) ∈ members ↔ (name, j) ∈ knownMembers known members := by
    simp [knownMembers, inside]
  rw [here members, here others, same.perm.mem_iff]

/-- What members of a known name are asked for, they have in both objects or in neither. -/
theorem any_eq (same : Rearranged known members others) {name : String} (inside : name ∈ known)
    (asked : Json → Bool)
    : members.any (fun m => m.1 = name && asked m.2)
      = others.any fun m => m.1 = name && asked m.2 := by
  rw [Bool.eq_iff_iff, List.any_eq_true, List.any_eq_true]
  refine exists_congr fun m => and_congr_left fun held => ?_
  obtain ⟨named, -⟩ := Bool.and_eq_true_iff.mp held
  obtain rfl := of_decide_eq_true named
  exact same.mem_iff inside

/-- A member of a known name stands once. -/
theorem apart {front back : List (String × Json)} {name : String} {j : Json}
    (same : Rearranged known (front ++ (name, j) :: back) others) (inside : name ∈ known)
    : (∀ m ∈ front, m.1 ≠ name) ∧ ∀ m ∈ back, m.1 ≠ name := by
  have distinct := same.distinct
  simp only [knownMembers, List.filter_append, List.filter_cons, inside, decide_true, if_true,
    List.map_append, List.map_cons] at distinct
  have absent := (List.nodup_cons.mp (List.nodup_middle.mp distinct)).1
  refine ⟨fun m member named => absent ?_, fun m member named => absent ?_⟩
  · refine List.mem_append_left _ (List.mem_map.mpr ⟨m, ?_, named⟩)
    exact List.mem_filter.mpr ⟨member, by simp [named, inside]⟩
  · refine List.mem_append_right _ (List.mem_map.mpr ⟨m, ?_, named⟩)
    exact List.mem_filter.mpr ⟨member, by simp [named, inside]⟩

/-- Without a member that both objects have, the others are the same. -/
theorem without {front back front' back' : List (String × Json)} {m : String × Json}
    (same : Rearranged known (front ++ m :: back) (front' ++ m :: back'))
    : Rearranged known (front ++ back) (front' ++ back') := by
  obtain ⟨perm, distinct⟩ := same
  have split (front back : List (String × Json))
      : (knownMembers known (front ++ m :: back)).Perm
          (knownMembers known [m] ++ knownMembers known (front ++ back)) := by
    rw [knownMembers, knownMembers, knownMembers, ← List.filter_append]
    exact List.perm_middle.filter _
  refine ⟨?_, ?_⟩
  · have both := ((split front back).symm.trans perm).trans (split front' back')
    exact List.perm_append_left_iff _ |>.mp both
  · have all := ((split front back).map _).nodup_iff.mp distinct
    rw [List.map_append] at all
    exact (List.nodup_append.mp all).2.1

end Rearranged

namespace Shape

/-- A shape is taken from objects alike that are the same in the names known to it. -/
def Unordered (s : Shape) (known : List String) : Prop :=
  ∀ members others normal, Rearranged known members others →
    s.take (.object members) = .ok normal → s.take (.object others) = .ok normal

theorem Unordered.mono {s : Shape} {known more : List String} (unordered : s.Unordered known)
    (fewer : ∀ name ∈ known, name ∈ more)
    : s.Unordered more :=
  fun members others normal same => unordered members others normal (same.mono fewer)

-----------------------------------------------------------------------------------------
-- Records
-----------------------------------------------------------------------------------------

def fieldNames (fields : List Field) : List String :=
  fields.map (·.name)

theorem mem_fieldNames_iff {fields : List Field} {name : String}
    : name ∈ fieldNames fields ↔ ∃ f, fieldNamed? fields name = some f := by
  rw [← Option.isSome_iff_exists, fieldNamed?, List.find?_isSome, fieldNames, List.mem_map]
  simp

/-- Takes a member of a known name. -/
def takeKnown (fields : List Field) (m : String × Json) : Except Mismatch (String × Json) :=
  match fieldNamed? fields m.1 with
  | some f => return (m.1, ← f.shape.take m.2)
  | none => .ok m

theorem takeKnown_name {fields : List Field} {m taken : String × Json}
    (h : takeKnown fields m = .ok taken)
    : taken.1 = m.1 := by
  unfold takeKnown at h
  split at h
  · obtain ⟨value, -, same⟩ := bind_ok_iff.mp h
    rw [← Except.ok.inj same]
  · rw [← Except.ok.inj h]

/-- The members of a record are taken one by one if no field comes twice, and the others are passed
over; by induction on the members.
-/
theorem foldlM_takeField (fields : List Field) (members : List (String × Json))
    : ∀ (found : List (String × Json)),
        ((found ++ knownMembers (fieldNames fields) members).map (·.1)).Nodup →
        members.foldlM (takeField fields) found
          = (knownMembers (fieldNames fields) members).mapM (takeKnown fields)
            >>= fun taken => pure (found ++ taken) := by
  induction members with
  | nil => exact fun found _ => by simp [knownMembers]
  | cons m members ih =>
      intro found distinct
      rw [List.foldlM_cons, takeField]
      cases named : fieldNamed? fields m.1 with
      | none =>
          have unknown : ¬ m.1 ∈ fieldNames fields := by
            rw [mem_fieldNames_iff, named]
            simp
          have skip : knownMembers (fieldNames fields) (m :: members)
              = knownMembers (fieldNames fields) members :=
            List.filter_cons_of_neg (by simpa using unknown)
          rw [skip] at distinct ⊢
          exact ih found distinct
      | some f =>
          have known : m.1 ∈ fieldNames fields := mem_fieldNames_iff.mpr ⟨f, named⟩
          have keep : knownMembers (fieldNames fields) (m :: members)
              = m :: knownMembers (fieldNames fields) members :=
            List.filter_cons_of_pos (by simpa using known)
          rw [keep] at distinct ⊢
          have fresh : lookupEntry m.1 found = none := by
            refine lookupEntry_eq_none fun entry member same => ?_
            rw [List.map_append, List.map_cons, List.nodup_middle] at distinct
            exact (List.nodup_cons.mp distinct).1
              (List.mem_append_left _ (List.mem_map.mpr ⟨entry, member, same⟩))
          simp only [fresh, Option.isSome_none, Bool.false_eq_true, if_false]
          have taken : takeKnown fields m = f.shape.take m.2 >>= fun value => pure (m.1, value) := by
            rw [takeKnown, named]
          rw [List.mapM_cons, taken]
          simp only [bind_assoc, pure_bind]
          refine bind_congr fun value => ?_
          rw [ih (found ++ [(m.1, value)]) (by simpa using distinct)]
          simp only [List.append_assoc, List.singleton_append]

/-- The fields of a record depend on what is found under their names alone. -/
theorem complete_congr {found found' : List (String × Json)}
    (same : ∀ name, lookupEntry name found = lookupEntry name found') (fields : List Field)
    : complete found fields = complete found' fields := by
  induction fields with
  | nil => rfl
  | cons f fields ih => rw [complete, complete, same, ih]

theorem record_take_object (name : String) {fields : List Field} {members : List (String × Json)}
    (distinct : ((knownMembers (fieldNames fields) members).map (·.1)).Nodup)
    : (record name fields).take (.object members)
      = (knownMembers (fieldNames fields) members).mapM (takeKnown fields)
        >>= fun taken => complete taken fields >>= fun found => pure (.object found) := by
  simp only [record, foldlM_takeField fields members [] distinct, List.nil_append, bind_assoc,
    pure_bind]

/-- A record is taken alike from objects with the same fields. -/
theorem record_unordered (name : String) (fields : List Field)
    : (record name fields).Unordered (fieldNames fields) := by
  intro members others normal same h
  rw [record_take_object name same.distinct] at h
  rw [record_take_object name same.symm.distinct]
  obtain ⟨taken, found, completed⟩ := bind_ok_iff.mp h
  obtain ⟨more, found', perm⟩ := mapM_ok_perm same.perm.symm found
  have distinct : (taken.map (·.1)).Nodup := by
    rw [map_of_mapM (fun _ _ => takeKnown_name) found]
    exact same.distinct
  refine bind_ok_iff.mpr ⟨more, found', ?_⟩
  rw [← complete_congr (lookupEntry_perm perm.symm distinct) fields]
  exact completed

-----------------------------------------------------------------------------------------
-- Unions
-----------------------------------------------------------------------------------------

/-- A union is taken from the members around its tag, wherever it stands. -/
theorem tagged_take_object {title tagName : String} {variants : List Variant}
    {front back : List (String × Json)} {j : Json}
    (apart : (∀ m ∈ front, m.1 ≠ tagName) ∧ ∀ m ∈ back, m.1 ≠ tagName)
    : (tagged title tagName variants).take (.object (front ++ (tagName, j) :: back))
      = takeTag variants j >>= fun v => withTag tagName (some v, .object (front ++ back)) := by
  have tag : takeTagged tagName variants (none, front) (tagName, j)
      = takeTag variants j >>= fun v => pure (some v, front) := by
    rw [takeTagged, if_pos rfl]
    rfl
  have run : (front ++ (tagName, j) :: back).foldlM (takeTagged tagName variants) (none, [])
      = takeTag variants j >>= fun v => pure (some v, front ++ back) := by
    rw [List.foldlM_append, foldlM_takeTagged apart.1, List.nil_append]
    change List.foldlM _ (none, front) _ = _
    rw [List.foldlM_cons, tag, bind_assoc]
    refine bind_congr fun v => ?_
    rw [pure_bind]
    exact foldlM_takeTagged apart.2 (some v) front
  simp only [tagged, run, bind_assoc, pure_bind]

theorem tagged_take_untagged {title tagName : String} {variants : List Variant}
    {members : List (String × Json)} (untagged : ∀ m ∈ members, m.1 ≠ tagName)
    : (tagged title tagName variants).take (.object members) = .error (.missingField tagName) := by
  simp only [tagged, foldlM_takeTagged untagged, bind, Except.bind, withTag]

/-- A union is taken alike from objects with the same tag and the same fields of its variants. -/
theorem tagged_unordered (title : String) {tagName : String} {variants : List Variant}
    {known : List String} (tag : tagName ∈ known) (bodies : ∀ v ∈ variants, v.body.Unordered known)
    : (tagged title tagName variants).Unordered known := by
  intro members others normal same h
  by_cases named : ∃ j, (tagName, j) ∈ members
  · obtain ⟨j, member⟩ := named
    obtain ⟨front, back, rfl⟩ := List.append_of_mem member
    obtain ⟨front', back', rfl⟩ := List.append_of_mem ((same.mem_iff tag).mp member)
    rw [tagged_take_object (same.apart tag)] at h
    rw [tagged_take_object (same.symm.apart tag)]
    obtain ⟨v, taken, h⟩ := bind_ok_iff.mp h
    obtain ⟨body, bodyTaken, h⟩ := bind_ok_iff.mp h
    have bodyTaken' := bodies v (takeTag_mem taken) _ _ _ same.without bodyTaken
    exact bind_ok_iff.mpr ⟨v, taken, bind_ok_iff.mpr ⟨body, bodyTaken', h⟩⟩
  · rw [tagged_take_untagged] at h
    · cases h
    · rintro ⟨name, j⟩ member rfl
      exact named ⟨j, member⟩

end Shape

end Json

end NodeTrial
