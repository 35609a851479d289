import NodeTrial.Json.Tagged
import NodeTrial.Proofs.Json.Nesting
import NodeTrial.Proofs.Result

/-! Normal forms: what the values look like that shapes take. A normal form holds nothing that was
not in the value it was taken from, so it nests no deeper, and its numbers are those of the value.
-/

namespace NodeTrial.Json

/-- A whole number below the unsigned range is the signed word of its value. -/
theorem ofSigned_ofInt {n : Whole} (less : n.val < 0x8000000000000000)
    : Whole.ofSigned (.ofInt n.val) = n := by
  obtain ⟨n, low, high⟩ := n
  rw [Whole.ofSigned, Whole.mk.injEq]
  exact Int64.toInt_ofInt_of_le low less

namespace Shape

/-- Whatever a shape takes has a form, and holds nothing that the value does not. -/
def Yields (s : Shape) (form : Json → Prop) : Prop :=
  ∀ depth exact j normal, s.take j = .ok normal → Within depth exact j →
    form normal ∧ Within depth exact normal

theorem Yields.imp {s : Shape} {form form' : Json → Prop} (yields : s.Yields form)
    (imp : ∀ j, form j → form' j)
    : s.Yields form' :=
  fun depth exact j normal h within =>
    (yields depth exact j normal h within).imp_left (imp normal)

-----------------------------------------------------------------------------------------
-- Scalars and containers
-----------------------------------------------------------------------------------------

theorem text_yields : text.Yields fun j => ∃ s, j = .text s := by
  intro depth exact j normal h within
  cases j with
  | text s => exact ⟨⟨s, (Except.ok.inj h).symm⟩, Except.ok.inj h ▸ within⟩
  | null | bool | number | list | object => cases h

theorem signed_yields : signed.Yields fun j => ∃ w, j = .number (.whole (.ofSigned w)) := by
  intro depth exact j normal h within
  change acceptSigned j = .ok normal at h
  unfold acceptSigned at h
  split at h
  · next n =>
    split at h
    · next less =>
      obtain rfl := Except.ok.inj h
      exact ⟨⟨.ofInt n.val, by rw [ofSigned_ofInt less]⟩, within⟩
    · cases h
  · cases h

theorem any_yields : any.Yields Canonical := by
  intro depth exact j normal h within
  obtain rfl := Except.ok.inj h
  exact ⟨j.canonical_canonical, within.canonical⟩

theorem table_yields {item : Shape} {form : Json → Prop} (yields : item.Yields form)
    : (table item).Yields fun j =>
        ∃ members, j = .object members ∧ RisingKeys members ∧ ∀ m ∈ members, form m.2 := by
  intro depth exact j normal h within
  cases j with
  | object members =>
      obtain ⟨taken, each, h⟩ := bind_ok_iff.mp h
      obtain rfl := Except.ok.inj h
      obtain ⟨less, rfl, parts⟩ := within.members
      have good : ∀ m ∈ taken, form m.2 ∧ Within less exact m.2 := by
        intro m member
        obtain ⟨part, mem, gives⟩ := mapM_ok_mem each m member
        obtain ⟨value, took, rfl⟩ := map_ok_iff.mp gives
        exact yields less exact part.2 value took (parts part mem)
      have kept : ∀ m ∈ (Table.ofList taken).entries, form m.2 ∧ Within less exact m.2 :=
        fun m member => good m (Table.mem_of_mem_ofList member)
      exact ⟨⟨_, rfl, (Table.ofList taken).rising, fun m member => (kept m member).1⟩,
        within_object.mpr fun m member => (kept m member).2⟩
  | null | bool | number | text | list => cases h

theorem list_yields {item : Shape} {form : Json → Prop} (yields : item.Yields form)
    : (list item).Yields fun j => ∃ items, j = .list items ∧ ∀ part ∈ items, form part := by
  intro depth exact j normal h within
  cases j with
  | list items =>
      obtain ⟨taken, each, h⟩ := bind_ok_iff.mp h
      obtain rfl := Except.ok.inj h
      obtain ⟨less, rfl, parts⟩ := within.items
      have good : ∀ part ∈ taken, form part ∧ Within less exact part := by
        intro part member
        obtain ⟨item, mem, took⟩ := mapM_ok_mem each part member
        exact yields less exact item part took (parts item mem)
      exact ⟨⟨taken, rfl, fun part member => (good part member).1⟩,
        within_list.mpr fun part member => (good part member).2⟩
  | null | bool | number | text | object => cases h

-----------------------------------------------------------------------------------------
-- Records
-----------------------------------------------------------------------------------------

/-- Members stand for fields in order: each has its field's name and a value of its form. -/
def AreFields (form : Field → Json → Prop) : List Field → List (String × Json) → Prop
  | [], [] => True
  | f :: fields, m :: members => m.1 = f.name ∧ form f m.2 ∧ AreFields form fields members
  | _, _ => False

/-- The value that a field has when it is left out has the field's form, and holds nothing. -/
def AbsentFits (form : Field → Json → Prop) (f : Field) : Prop :=
  ∀ value, f.absent = some value → form f value ∧ ∀ depth exact, Within depth exact value

theorem absentFits_required (form : Field → Json → Prop) (name : String) (shape : Shape)
    : AbsentFits form (.required name shape) :=
  fun _ absent => nomatch absent

section Records

variable {form : Field → Json → Prop} {fields : List Field} {depth : Nat} {exact : Prop}

/-- The fields of a record given as a list, by induction on the fields. -/
theorem takeElements_yields {expected : String} {total : Nat}
    : (∀ f ∈ fields, f.shape.Yields (form f)) →
      (∀ f ∈ fields, AbsentFits form f) →
      ∀ {index : Nat} {items : List Json} {taken : List (String × Json)},
        takeElements expected total fields index items = .ok taken →
        (∀ item ∈ items, Within depth exact item) →
        AreFields form fields taken ∧ ∀ m ∈ taken, Within depth exact m.2 := by
  induction fields with
  | nil =>
      intro _ _ index items taken h parts
      cases items with
      | nil =>
          obtain rfl := Except.ok.inj h
          exact ⟨trivial, List.forall_mem_nil _⟩
      | cons item items => cases h
  | cons f fields ih =>
      intro yields absents index items taken h parts
      obtain ⟨head, tail⟩ := List.forall_mem_cons.mp yields
      obtain ⟨absent, others⟩ := List.forall_mem_cons.mp absents
      cases items with
      | nil =>
          rw [takeElements] at h
          split at h
          · cases h
          · next value left =>
            obtain ⟨rest, took, h⟩ := bind_ok_iff.mp h
            obtain rfl := Except.ok.inj h
            obtain ⟨are, kept⟩ := ih tail others took parts
            obtain ⟨good, small⟩ := absent value left
            exact ⟨⟨rfl, good, are⟩, List.forall_mem_cons.mpr ⟨small depth exact, kept⟩⟩
      | cons item items =>
          obtain ⟨value, first, h⟩ := bind_ok_iff.mp h
          obtain ⟨rest, took, h⟩ := bind_ok_iff.mp h
          obtain rfl := Except.ok.inj h
          obtain ⟨here, later⟩ := List.forall_mem_cons.mp parts
          obtain ⟨are, kept⟩ := ih tail others took later
          obtain ⟨good, small⟩ := head depth exact item value first here
          exact ⟨⟨rfl, good, are⟩, List.forall_mem_cons.mpr ⟨small, kept⟩⟩

/-- What is found of a record: fields of it, with values of their forms. -/
def Found (form : Field → Json → Prop) (fields : List Field) (depth : Nat) (exact : Prop)
    (found : List (String × Json)) : Prop :=
  ∀ m ∈ found,
    (∃ f, fieldNamed? fields m.1 = some f ∧ form f m.2) ∧ Within depth exact m.2

theorem takeField_yields (yields : ∀ f ∈ fields, f.shape.Yields (form f))
    {found next : List (String × Json)} {member : String × Json}
    (h : takeField fields found member = .ok next) (part : Within depth exact member.2)
    (early : Found form fields depth exact found)
    : Found form fields depth exact next := by
  unfold takeField at h
  split at h
  · next f named =>
    split at h
    · cases h
    · obtain ⟨value, took, h⟩ := bind_ok_iff.mp h
      obtain rfl := Except.ok.inj h
      intro m mem
      rcases List.mem_append.mp mem with old | new
      · exact early m old
      · obtain rfl := List.mem_singleton.mp new
        have stands : f ∈ fields := List.mem_of_find?_eq_some named
        obtain ⟨good, small⟩ := yields f stands depth exact member.2 value took part
        exact ⟨⟨f, named, good⟩, small⟩
  · obtain rfl := Except.ok.inj h
    exact early

/-- The fields that are found, and the others with their values for absence, by induction on the
fields that are looked up.
-/
theorem complete_yields {found : List (String × Json)} {all : List Field}
    (named : ∀ f ∈ all, fieldNamed? all f.name = some f) (good : Found form all depth exact found)
    : (∀ f ∈ fields, f ∈ all) →
      (∀ f ∈ fields, AbsentFits form f) →
      ∀ {members : List (String × Json)}, complete found fields = .ok members →
        AreFields form fields members ∧ ∀ m ∈ members, Within depth exact m.2 := by
  induction fields with
  | nil =>
      intro _ _ members h
      obtain rfl := Except.ok.inj h
      exact ⟨trivial, List.forall_mem_nil _⟩
  | cons f fields ih =>
      intro belong absents members h
      obtain ⟨stands, belongs⟩ := List.forall_mem_cons.mp belong
      obtain ⟨absent, others⟩ := List.forall_mem_cons.mp absents
      rw [complete] at h
      split at h
      · next value has =>
        obtain ⟨rest, took, h⟩ := bind_ok_iff.mp h
        obtain rfl := Except.ok.inj h
        obtain ⟨are, kept⟩ := ih belongs others took
        have here : form f value ∧ Within depth exact value := by
          rcases Option.or_eq_some_iff.mp has with given | ⟨-, left⟩
          · obtain ⟨⟨g, same, good⟩, small⟩ := good _ (mem_of_lookupEntry given)
            obtain rfl := Option.some.inj ((named f stands).symm.trans same)
            exact ⟨good, small⟩
          · exact ⟨(absent value left).1, (absent value left).2 depth exact⟩
        exact ⟨⟨rfl, here.1, are⟩, List.forall_mem_cons.mpr ⟨here.2, kept⟩⟩
      · cases h

/-- A record is taken as an object of its fields in order. -/
theorem record_yields (name : String) (yields : ∀ f ∈ fields, f.shape.Yields (form f))
    (absents : ∀ f ∈ fields, AbsentFits form f)
    (named : ∀ f ∈ fields, fieldNamed? fields f.name = some f)
    : (record name fields).Yields fun j =>
        ∃ members, j = .object members ∧ AreFields form fields members := by
  intro depth exact j normal h within
  cases j with
  | list items =>
      obtain ⟨taken, each, h⟩ := bind_ok_iff.mp h
      obtain rfl := Except.ok.inj h
      obtain ⟨less, rfl, parts⟩ := within.items
      obtain ⟨are, kept⟩ := takeElements_yields yields absents each parts
      exact ⟨⟨taken, rfl, are⟩, within_object.mpr kept⟩
  | object members =>
      obtain ⟨found, each, h⟩ := bind_ok_iff.mp h
      obtain ⟨completed, all, h⟩ := bind_ok_iff.mp h
      obtain rfl := Except.ok.inj h
      obtain ⟨less, rfl, parts⟩ := within.members
      have good : Found form fields less exact found :=
        foldlM_ok_invariant
          (fun _ member mem _ taken early => takeField_yields yields taken (parts member mem) early)
          each (List.forall_mem_nil _)
      obtain ⟨are, kept⟩ := complete_yields named good (fun _ mem => mem) absents all
      exact ⟨⟨completed, rfl, are⟩, within_object.mpr kept⟩
  | null | bool | number | text => cases h

end Records

-----------------------------------------------------------------------------------------
-- Unions
-----------------------------------------------------------------------------------------

theorem variantNamed_mem {variants : List Variant} {name : String} {v : Variant}
    (h : variantNamed variants name = .ok v)
    : v ∈ variants := by
  unfold variantNamed at h
  split at h
  · next found =>
    obtain rfl := Except.ok.inj h
    exact List.mem_of_find?_eq_some found
  · cases h

theorem takeTag_mem {variants : List Variant} {j : Json} {v : Variant}
    (h : takeTag variants j = .ok v)
    : v ∈ variants := by
  unfold takeTag at h
  split at h
  · exact variantNamed_mem h
  · split at h
    · cases h
    · split at h
      · next found =>
        obtain rfl := Except.ok.inj h
        exact List.mem_of_getElem? found
      · cases h
  · cases h

section Unions

variable {form : Variant → Json → Prop} {variants : List Variant} {depth : Nat} {exact : Prop}

/-- A value tagged with a variant has a body of the variant's form. -/
theorem withTag_yields {tagName : String} (yields : ∀ v ∈ variants, v.body.Yields (form v))
    {found : Option Variant × Json} {normal : Json} (h : withTag tagName found = .ok normal)
    (known : ∀ v, found.1 = some v → v ∈ variants) (within : Within depth exact found.2)
    : (∃ v ∈ variants, ∃ body, normal = tagValue tagName v body ∧ form v body)
      ∧ Within depth exact normal := by
  obtain ⟨_ | v, value⟩ := found
  · cases h
  · obtain ⟨body, took, h⟩ := bind_ok_iff.mp h
    obtain rfl := Except.ok.inj h
    obtain ⟨good, kept⟩ := yields v (known v rfl) depth exact value body took within
    refine ⟨⟨v, known v rfl, body, rfl, good⟩, ?_⟩
    unfold tagValue
    split
    · obtain ⟨less, rfl, parts⟩ := kept.members
      exact within_object.mpr (List.forall_mem_cons.mpr ⟨within_text v.tag, parts⟩)
    · exact kept

/-- Members that are not the tag are collected, by induction on them. -/
theorem foldlM_takeTagged {tagName : String} {variants : List Variant}
    {members : List (String × Json)}
    : (∀ m ∈ members, m.1 ≠ tagName) →
      ∀ (found : Option Variant) (before : List (String × Json)),
        members.foldlM (takeTagged tagName variants) (found, before)
          = .ok (found, before ++ members) := by
  induction members with
  | nil => exact fun _ found before => by rw [List.foldlM_nil, List.append_nil]; rfl
  | cons m members ih =>
      intro apart found before
      obtain ⟨other, others⟩ := List.forall_mem_cons.mp apart
      rw [List.foldlM_cons, takeTagged, if_neg other]
      have later := ih others found (before ++ [m])
      rw [List.append_assoc, List.singleton_append] at later
      exact later

theorem takeTagged_yields {tagName : String} {state next : Option Variant × List (String × Json)}
    {member : String × Json} (h : takeTagged tagName variants state member = .ok next)
    (part : Within depth exact member.2)
    (early : (∀ v, state.1 = some v → v ∈ variants) ∧ ∀ m ∈ state.2, Within depth exact m.2)
    : (∀ v, next.1 = some v → v ∈ variants) ∧ ∀ m ∈ next.2, Within depth exact m.2 := by
  unfold takeTagged at h
  split at h
  · split at h
    · cases h
    · obtain ⟨v, took, h⟩ := bind_ok_iff.mp h
      obtain rfl := Except.ok.inj h
      exact ⟨fun _ same => Option.some.inj same ▸ takeTag_mem took, early.2⟩
  · obtain rfl := Except.ok.inj h
    exact ⟨early.1, List.forall_mem_append.mpr ⟨early.2, List.forall_mem_singleton.mpr part⟩⟩

/-- A union is taken as the body of one of its variants, behind the variant's tag. -/
theorem tagged_yields (title tagName : String) (yields : ∀ v ∈ variants, v.body.Yields (form v))
    : (tagged title tagName variants).Yields fun j =>
        ∃ v ∈ variants, ∃ body, j = tagValue tagName v body ∧ form v body := by
  intro depth exact j normal h within
  cases j with
  | list items =>
      cases items with
      | nil => cases h
      | cons tag items =>
          obtain ⟨v, took, h⟩ := bind_ok_iff.mp h
          obtain ⟨less, rfl, parts⟩ := within.items
          have others : Within (less + 1) exact (.list items) :=
            within_list.mpr (List.forall_mem_cons.mp parts).2
          have known : ∀ w, some v = some w → w ∈ variants :=
            fun _ same => Option.some.inj same ▸ takeTag_mem took
          exact withTag_yields yields h known others
  | object members =>
      obtain ⟨⟨found, others⟩, each, h⟩ := bind_ok_iff.mp h
      obtain ⟨less, rfl, parts⟩ := within.members
      have kept := foldlM_ok_invariant
        (fun _ member mem _ taken early => takeTagged_yields taken (parts member mem) early)
        each ⟨nofun, List.forall_mem_nil _⟩
      exact withTag_yields yields h kept.1 (within_object.mpr kept.2)
  | null | bool | number | text => cases h

end Unions

end Shape

end NodeTrial.Json
