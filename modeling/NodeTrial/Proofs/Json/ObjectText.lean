import Mathlib.Data.List.TakeWhile
import NodeTrial.Proofs.Json.LocalValues

/-! The texts of objects. A text that is read as an object is a text of its fields between braces, and
every such text is read as the object of those fields: what a field's text is does not depend on
what stands before or behind it.
-/

namespace NodeTrial.Json

open Text (Symbol)

-----------------------------------------------------------------------------------------
-- Texts of one field
-----------------------------------------------------------------------------------------

/-- A text of nothing but blanks. -/
def Blank (text : List Symbol) : Prop :=
  ∀ s ∈ text, isSpace s = true

/-- A text denotes a value for a reading, whatever comes behind it that does not extend a number. -/
def Denotes {α ε : Type} (read : List Symbol → Except ε (α × List Symbol)) (text : List Symbol)
    (value : α)
    : Prop :=
  ∀ rest, EndsNumber rest → read (text ++ rest) = .ok (value, rest)

/-- A text of a field of an object: the name in quotes, a colon and the value, with blanks around
them. The value nests at most 126 brackets, one less than its object may.
-/
def IsFieldText (text : List Symbol) (name : String) (value : Json) : Prop :=
  ∃ before spelled between valueText after,
    text = before ++ .char '"' :: (spelled ++ (between ++ .char ':' :: (valueText ++ after)))
    ∧ (Blank before ∧ Blank between ∧ Blank after)
    ∧ Denotes readString spelled name
    ∧ Denotes (readTree (maxDepth - 1)) valueText value

/-- A field of an object as it stands in a text. -/
structure FieldText where
  text : List Symbol
  name : String
  value : Json
  isField : IsFieldText text name value

/-- A field as it is written, without blanks. -/
def FieldText.written (name : String) (value : Json) (whole : value.NoReals)
    (fits : value.nesting ≤ maxDepth - 1)
    : FieldText where
  text := (writtenMember write (name, value)).map .char
  name := name
  value := value
  isField := by
    refine ⟨[], (name.toList.flatMap writtenChar).map .char ++ [.char '"'], [],
      value.write.map .char, [], ?_, ⟨List.forall_mem_nil _, List.forall_mem_nil _,
        List.forall_mem_nil _⟩, fun rest _ => ?_, readTree_written value whole _ fits⟩
    · simp [writtenMember, writtenString]
    · rw [List.append_assoc]
      exact readString_written name rest

/-- A text of an object: its fields between braces, with blanks around them. -/
structure ObjectText where
  before : List Symbol
  inside : List Symbol
  fields : List FieldText
  after : List Symbol
  blank : Blank before ∧ Blank inside ∧ Blank after

/-- The texts of fields, a comma before each. -/
def furtherFields (fields : List FieldText) : List Symbol :=
  fields.flatMap fun f => .char ',' :: f.text

/-- The texts of fields, commas between them. -/
def fieldsText : List FieldText → List Symbol
  | [] => []
  | f :: fields => f.text ++ furtherFields fields

namespace ObjectText

def text (o : ObjectText) : List Symbol :=
  o.before ++ .char '\x7b' :: (o.inside ++ (fieldsText o.fields ++ .char '\x7d' :: o.after))

def names (o : ObjectText) : List String :=
  o.fields.map (·.name)

/-- The members of the object, in the order of its fields. -/
def members (o : ObjectText) : List (String × Json) :=
  o.fields.map fun f => (f.name, f.value)

end ObjectText

-----------------------------------------------------------------------------------------
-- Blanks
-----------------------------------------------------------------------------------------

theorem Blank.append {text more : List Symbol} (blank : Blank text) (also : Blank more)
    : Blank (text ++ more) := by
  intro s member
  rcases List.mem_append.mp member with early | late
  · exact blank s early
  · exact also s late

theorem Blank.skipSpace {blanks : List Symbol} (blank : Blank blanks) {s : Symbol}
    (solid : isSpace s = false) (rest : List Symbol)
    : skipSpace (blanks ++ s :: rest) = s :: rest :=
  skipSpace_eq_cons_iff.mpr ⟨solid, blanks, rfl, blank⟩

theorem Blank.endsNumber {blanks rest : List Symbol} (blank : Blank blanks) (ends : EndsNumber rest)
    : EndsNumber (blanks ++ rest) := by
  cases blanks with
  | nil => exact ends
  | cons s blanks =>
      have space := blank s List.mem_cons_self
      refine .cons _ ?_
      unfold isSpace at space
      split at space
      · decide
      · decide
      · decide
      · decide
      · cases space

/-- The blanks before the first symbol of a text. -/
theorem exists_blanks {input rest : List Symbol} {s : Symbol} (start : skipSpace input = s :: rest)
    : ∃ blanks, input = blanks ++ s :: rest ∧ Blank blanks :=
  (skipSpace_eq_cons_iff.mp start).2

theorem blank_iff {text : List Symbol} : Blank text ↔ (skipSpace text).isEmpty = true := by
  rw [List.isEmpty_iff, skipSpace]
  exact List.dropWhile_eq_nil_iff.symm

/-- What a reading takes denotes its value if the reading goes by what it takes. -/
theorem Local.denotes {α ε : Type} {read : List Symbol → Except ε (α × List Symbol)} {value : α}
    (loc : Local fun input rest => read input = .ok (value, rest)) {input rest : List Symbol}
    (h : read input = .ok (value, rest))
    : ∃ text, input = text ++ rest ∧ Denotes read text value := by
  obtain ⟨taken, whole, again⟩ := loc _ _ h
  exact ⟨taken, whole, fun other ends => again other (.inl ends)⟩

-----------------------------------------------------------------------------------------
-- Fields read from their texts
-----------------------------------------------------------------------------------------

theorem endsNumber_further (fields : List FieldText) (rest : List Symbol)
    : EndsNumber (furtherFields fields ++ .char '\x7d' :: rest) := by
  cases fields with
  | nil => exact .mark rest (.inr (.inr rfl))
  | cons f fields => exact .mark _ (.inl rfl)

/-- Blanks before a member change nothing. -/
theorem Blank.readMembers {σ : Type} {blanks : List Symbol} (blank : Blank blanks)
    (step : σ → String → Reader σ) (bound : Nat) (first : Bool) (state : σ) (input : List Symbol)
    : readMembers step bound first state (blanks ++ input)
      = readMembers step bound first state input := by
  have same : Json.skipSpace (blanks ++ input) = Json.skipSpace input :=
    List.dropWhile_append_of_pos blank
  cases bound with
  | zero => rfl
  | succ bound => rw [Json.readMembers, nextKey, same, ← nextKey, ← Json.readMembers]

/-- A field is taken in from its text, up to the blanks at its end. -/
theorem FieldText.taken (f : FieldText) {rest : List Symbol} (ends : EndsNumber rest)
    : ∃ afterKey after, Key f.name (f.text ++ rest) afterKey ∧ Blank after
        ∧ ∀ members, collect (readTree (maxDepth - 1)) members f.name afterKey
            = .ok (members ++ [(f.name, f.value)], after ++ rest) := by
  obtain ⟨before, spelled, between, valueText, after, whole,
    ⟨blankBefore, blankBetween, blankAfter⟩, named, valued⟩ := f.isField
  have colon : EndsNumber (between ++ .char ':' :: (valueText ++ (after ++ rest))) :=
    blankBetween.endsNumber (.cons _ (by decide))
  refine ⟨_, after, ⟨_, ?_, named _ colon⟩, blankAfter, fun members => ?_⟩
  · rw [whole]
    simp only [List.append_assoc, List.cons_append]
    exact blankBefore.skipSpace rfl _
  · exact collect_ok_iff.mpr ⟨f.value, rfl, _, blankBetween.skipSpace rfl _,
      valued _ (blankAfter.endsNumber ends)⟩

/-- The further fields of an object are taken in from their texts, by induction on them. -/
theorem readMembers_furtherFields (rest : List Symbol) (fields : List FieldText)
    : ∀ {bound : Nat} (members : List (String × Json)), fields.length < bound →
        readMembers (collect (readTree (maxDepth - 1))) bound false members
            (furtherFields fields ++ .char '\x7d' :: rest)
          = .ok (members ++ fields.map fun f => (f.name, f.value), rest) := by
  induction fields with
  | nil =>
      rintro (_ | bound) members enough
      · exact absurd enough (Nat.lt_irrefl 0)
      · rw [List.map_nil, List.append_nil]
        exact readMembers_succ_iff.mpr (.inl ⟨rfl, skipSpace_cons rest rfl⟩)
  | cons f fields ih =>
      rintro (_ | bound) members enough
      · exact absurd enough (Nat.not_lt_zero _)
      · obtain ⟨afterKey, after, key, blank, taken⟩ := f.taken (endsNumber_further fields rest)
        have others := ih (members ++ [(f.name, f.value)]) (Nat.lt_of_succ_lt_succ enough)
        rw [← blank.readMembers, List.append_assoc, List.singleton_append] at others
        refine readMembers_succ_iff.mpr (.inr ⟨f.name, _, afterKey, ?_, _, taken members, others⟩)
        have first : furtherFields (f :: fields) ++ .char '\x7d' :: rest
            = .char ',' :: (f.text ++ (furtherFields fields ++ .char '\x7d' :: rest)) := by
          simp only [furtherFields, List.flatMap_cons, List.cons_append, List.append_assoc]
        rw [first]
        exact .inr ⟨rfl, _, skipSpace_cons _ rfl, key⟩

theorem length_le_furtherFields (fields : List FieldText)
    : fields.length ≤ (furtherFields fields).length := by
  induction fields with
  | nil => exact Nat.zero_le _
  | cons f fields ih =>
      simp only [furtherFields, List.flatMap_cons, List.length_append, List.length_cons] at ih ⊢
      omega

/-- A text of an object is read as the object of its fields. -/
theorem ObjectText.parse_text (o : ObjectText) : parse o.text = .ok (.object o.members) := by
  obtain ⟨blankBefore, blankInside, blankAfter⟩ := o.blank
  have loop : readMembers (collect (readTree (maxDepth - 1)))
      ((o.inside ++ (fieldsText o.fields ++ .char '\x7d' :: o.after)).length + 1) true []
      (o.inside ++ (fieldsText o.fields ++ .char '\x7d' :: o.after))
      = .ok (o.members, o.after) := by
    rw [blankInside.readMembers, members]
    cases shape : o.fields with
    | nil => exact readMembers_succ_iff.mpr (.inl ⟨rfl, skipSpace_cons o.after rfl⟩)
    | cons f fields =>
        have long := length_le_furtherFields fields
        obtain ⟨afterKey, after, key, blank, taken⟩ := f.taken (endsNumber_further fields o.after)
        have enough : fields.length
            < (o.inside ++ (fieldsText (f :: fields) ++ .char '\x7d' :: o.after)).length := by
          simp only [fieldsText, List.length_append, List.length_cons]
          omega
        have others := readMembers_furtherFields o.after fields [(f.name, f.value)] enough
        rw [← blank.readMembers] at others
        refine readMembers_succ_iff.mpr (.inr ⟨f.name, _, afterKey, ?_, _, taken [], others⟩)
        rw [fieldsText, List.append_assoc]
        exact .inl ⟨rfl, key⟩
  refine readWhole_ok_iff.mpr ⟨o.after, ?_, blank_iff.mp blankAfter⟩
  refine readTree_ok_iff.mpr (.inr (.inl ⟨maxDepth - 1, _, ⟨rfl, rfl⟩, _, ?_, loop⟩))
  exact blankBefore.skipSpace rfl _

-----------------------------------------------------------------------------------------
-- Texts taken apart into fields
-----------------------------------------------------------------------------------------

/-- A member that is taken in has a text of its own, up to where the next one is looked for. -/
theorem exists_fieldText {name : String} {input afterKey middle rest blanks : List Symbol}
    {before members : List (String × Json)} (key : Key name input afterKey)
    (taken : collect (readTree (maxDepth - 1)) before name afterKey = .ok (members, middle))
    (left : middle = blanks ++ rest) (blank : Blank blanks)
    : ∃ f : FieldText, f.name = name ∧ input = f.text ++ rest
        ∧ members = before ++ [(f.name, f.value)] := by
  obtain ⟨opened, quote, named⟩ := key
  obtain ⟨value, rfl, start, colon, valued⟩ := collect_ok_iff.mp taken
  obtain ⟨front, rfl, blankFront⟩ := exists_blanks quote
  obtain ⟨spelled, rfl, denotes⟩ := (Local.readString name).denotes named
  obtain ⟨between, rfl, blankBetween⟩ := exists_blanks colon
  obtain ⟨valueText, rfl, denotesValue⟩ := (Local.readTree _ value).denotes valued
  subst left
  refine ⟨⟨_, name, value, front, spelled, between, valueText, blanks, rfl,
    ⟨blankFront, blankBetween, blank⟩, denotes, denotesValue⟩, rfl, ?_, rfl⟩
  simp only [List.append_assoc, List.cons_append]

/-- Members that are taken in have texts of their own, by induction on the bound of the loop. -/
theorem exists_fields {bound : Nat}
    : ∀ {first : Bool} {input rest : List Symbol} {before members : List (String × Json)},
        readMembers (collect (readTree (maxDepth - 1))) bound first before input
          = .ok (members, rest) →
        ∃ blanks fields, Blank blanks
          ∧ members = before ++ fields.map (fun f : FieldText => (f.name, f.value))
          ∧ input = blanks ++ ((if first then fieldsText fields else furtherFields fields)
            ++ .char '\x7d' :: rest) := by
  induction bound with
  | zero =>
      intro _ _ _ _ _ h
      cases h
  | succ bound ih =>
      intro first input rest before members h
      rcases readMembers_succ_iff.mp h with
        ⟨rfl, close⟩ | ⟨name, next, afterKey, found, middle, taken, others⟩
      · obtain ⟨blanks, rfl, blank⟩ := exists_blanks close
        refine ⟨blanks, [], blank, (List.append_nil _).symm, ?_⟩
        cases first <;> rfl
      · obtain ⟨blanks, fields, blank, rfl, left⟩ := ih others
        rcases found with ⟨rfl, key⟩ | ⟨rfl, after, comma, key⟩
        · obtain ⟨f, rfl, rfl, rfl⟩ := exists_fieldText key taken left blank
          refine ⟨[], f :: fields, List.forall_mem_nil _, by simp, ?_⟩
          simp [fieldsText]
        · obtain ⟨f, rfl, rfl, rfl⟩ := exists_fieldText key taken left blank
          obtain ⟨front, rfl, blankFront⟩ := exists_blanks comma
          refine ⟨front, f :: fields, blankFront, by simp, ?_⟩
          simp [furtherFields]

/-- A text is read as an object just when it is a text of its fields. -/
theorem parse_object_iff {input : List Symbol} {members : List (String × Json)}
    : parse input = .ok (.object members) ↔ ∃ o : ObjectText, o.text = input ∧ o.members = members := by
  constructor
  · intro h
    obtain ⟨after, read, blankAfter⟩ := readWhole_ok_iff.mp h
    rcases readTree_ok_iff.mp read with
      ⟨_, _, ⟨-, impossible⟩, -⟩ | ⟨less, _, ⟨depth, same⟩, opened, start, loop⟩ | ⟨s, _, -, -, scalar⟩
    · cases impossible
    · cases same
      obtain rfl : maxDepth - 1 = less := Nat.succ.inj depth
      obtain ⟨before, rfl, blankBefore⟩ := exists_blanks start
      obtain ⟨inside, fields, blankInside, rfl, rfl⟩ := exists_fields loop
      refine ⟨⟨before, inside, fields, after, blankBefore, blankInside, blank_iff.mpr blankAfter⟩,
        rfl, rfl⟩
    · have flat := readScalar_flat scalar
      rw [nesting] at flat
      cases flat
  · rintro ⟨o, rfl, rfl⟩
    exact o.parse_text

end NodeTrial.Json
