import NodeTrial.Proofs.Text.Division
import NodeTrial.Proofs.Text.Letter
import NodeTrial.WriteServer

/-! The media types of JSON. A header names JSON exactly if its type and its subtype are those of
JSON, in letters of any case; one suffix of the subtype and well-formed parameters make no
difference.
-/

namespace NodeTrial.WriteServer

variable {value : String} {name suffix parameters : List Char} {text : String}

theorem named_iff : named name text = true ↔ name.map Char.toLower = text.toList := by
  rw [named, decide_eq_true_iff, ← String.toList_inj, String.toList_ofList]

/-- The suffixes of a subtype: none, or a plus sign and the rest of a name. -/
inductive IsSuffix : List Char → Prop where
  | none : IsSuffix []
  | plus {rest : List Char} (all : ∀ c ∈ rest, isTokenChar c = true) (last : '+' ∉ rest)
    : IsSuffix ('+' :: rest)

/-- The parameters of a media type: none, or a semicolon and what a reader of parameters accepts. -/
inductive AreParameters : List Char → Prop where
  | none : AreParameters []
  | some {rest : List Char} (accepted : ParameterState.gap.accepts rest = true)
    : AreParameters (';' :: rest)

/-- The headers that name JSON: visible text of the type `application` and the subtype `json`, in
letters of any case, with a suffix or without one and with any parameters.
-/
inductive IsJsonType (value : String) : Prop where
  | intro {type subtype suffix parameters : List Char} (visible : isHeaderText value = true)
    (whole : value.toList = type ++ '/' :: (subtype ++ suffix ++ parameters))
    (typed : type.map Char.toLower = "application".toList)
    (subtyped : subtype.map Char.toLower = "json".toList)
    (suffixed : IsSuffix suffix)
    (parameterised : AreParameters parameters)

-----------------------------------------------------------------------------------------
-- Suffixes
-----------------------------------------------------------------------------------------

theorem IsSuffix.tokens (suffixed : IsSuffix suffix) : ∀ c ∈ suffix, isTokenChar c = true := by
  cases suffixed with
  | none => exact nofun
  | plus all _ => exact List.forall_mem_cons.mpr ⟨by decide, all⟩

/-- The letters of JSON's subtype may stand in a name. -/
theorem tokens_of_json (subtyped : name.map Char.toLower = "json".toList)
    : ∀ c ∈ name, isTokenChar c = true :=
  Text.forall_of_toLower (by decide) subtyped

/-- A suffix of JSON's subtype is taken off. -/
theorem withoutSuffix_append (subtyped : name.map Char.toLower = "json".toList)
    (suffixed : IsSuffix suffix)
    : withoutSuffix (name ++ suffix) = name := by
  have unmarked : ∀ c ∈ name, (c == '+') = false := Text.forall_of_toLower (by decide) subtyped
  cases suffixed with
  | none => rw [List.append_nil, withoutSuffix, Text.splitLast?_of_unmarked unmarked]
  | @plus rest _ last =>
      have unmarkedRest : ∀ c ∈ rest, (c == '+') = false :=
        fun c member => beq_eq_false_iff_ne.mpr (ne_of_mem_of_not_mem member last)
      have divided : Text.splitLast? (· == '+') (name ++ '+' :: rest) = some (name, rest) :=
        Text.splitLast?_append rfl unmarkedRest name
      have filled : name.isEmpty = false := by
        cases name with
        | nil => cases subtyped
        | cons => rfl
      simp only [withoutSuffix, divided, filled, Bool.false_eq_true, if_false]

/-- What is JSON's subtype without its suffix is JSON's subtype and a suffix. -/
theorem exists_suffix (tokens : ∀ c ∈ name, isTokenChar c = true)
    (subtyped : (withoutSuffix name).map Char.toLower = "json".toList)
    : ∃ subtype suffix, name = subtype ++ suffix ∧ subtype.map Char.toLower = "json".toList
        ∧ IsSuffix suffix := by
  rcases Text.unmarked_or_last (· == '+') name with
    unmarked | ⟨before, m, after, rfl, marked, unmarked⟩
  · rw [withoutSuffix, Text.splitLast?_of_unmarked unmarked] at subtyped
    exact ⟨name, [], (List.append_nil name).symm, subtyped, .none⟩
  · obtain rfl := eq_of_beq marked
    have divided : Text.splitLast? (· == '+') (before ++ '+' :: after) = some (before, after) :=
      Text.splitLast?_append rfl unmarked before
    rw [withoutSuffix, divided] at subtyped
    cases before with
    | nil => cases subtyped
    | cons c rest =>
        refine ⟨c :: rest, '+' :: after, rfl, subtyped, .plus (fun d member => ?_) fun member => ?_⟩
        · exact tokens d (List.mem_append_right _ (List.mem_cons_of_mem _ member))
        · exact beq_eq_false_iff_ne.mp (unmarked _ member) rfl

-----------------------------------------------------------------------------------------
-- Headers
-----------------------------------------------------------------------------------------

/-- A media type is read as that of JSON if a slash divides it into JSON's type and a name that is
JSON's subtype without its suffix, and parameters follow the name or nothing does.
-/
theorem isJsonMediaType_iff
    : isJsonMediaType value = true
      ↔ ∃ type name parameters, value.toList = type ++ '/' :: (name ++ parameters)
          ∧ type.map Char.toLower = "application".toList
          ∧ (∀ c ∈ name, isTokenChar c = true)
          ∧ (withoutSuffix name).map Char.toLower = "json".toList
          ∧ AreParameters parameters := by
  constructor
  · intro read
    rw [isJsonMediaType] at read
    split at read
    · cases read
    · next type rest divided =>
      obtain ⟨m, marked, whole⟩ := Text.eq_of_splitFirst? divided
      obtain rfl := eq_of_beq marked
      cases found : Text.splitFirst? (· == ';') rest with
      | none =>
          simp only [found, Bool.and_eq_true, wellFormedRest, List.all_eq_true] at read
          obtain ⟨⟨typed, ⟨-, tokens⟩, -⟩, subtyped⟩ := read
          refine ⟨type, rest, [], ?_, named_iff.mp typed, tokens, named_iff.mp subtyped, .none⟩
          rw [List.append_nil, whole]
      | some parts =>
          obtain ⟨name, parameters⟩ := parts
          simp only [found, Bool.and_eq_true, wellFormedRest, List.all_eq_true] at read
          obtain ⟨⟨typed, ⟨-, tokens⟩, accepted⟩, subtyped⟩ := read
          obtain ⟨m, marked, rfl⟩ := Text.eq_of_splitFirst? found
          obtain rfl := eq_of_beq marked
          exact ⟨type, name, ';' :: parameters, whole, named_iff.mp typed, tokens,
            named_iff.mp subtyped, .some accepted⟩
  · rintro ⟨type, name, parameters, whole, typed, tokens, subtyped, parameterised⟩
    have divided : Text.splitFirst? (· == '/') value.toList = some (type, name ++ parameters) := by
      rw [whole]
      exact Text.splitFirst?_append rfl _ (Text.forall_of_toLower (by decide) typed)
    have unmarked : ∀ c ∈ name, (c == ';') = false := by
      intro c member
      refine beq_eq_false_iff_ne.mpr ?_
      rintro rfl
      exact absurd (tokens ';' member) (by decide)
    have filled : name.isEmpty = false := by
      cases name with
      | nil => cases subtyped
      | cons => rfl
    have all : name.all isTokenChar = true := List.all_eq_true.mpr tokens
    simp only [isJsonMediaType, divided]
    cases parameterised with
    | none =>
        rw [List.append_nil, Text.splitFirst?_of_unmarked unmarked]
        simp only [wellFormedRest, filled, all, named_iff.mpr typed, named_iff.mpr subtyped]
        rfl
    | @some rest accepted =>
        have found : Text.splitFirst? (· == ';') (name ++ ';' :: rest) = some (name, rest) :=
          Text.splitFirst?_append rfl rest unmarked
        rw [found]
        simp only [wellFormedRest, filled, all, named_iff.mpr typed, named_iff.mpr subtyped,
          Option.map_some, accepted]
        rfl

/-- A header names JSON exactly if it is visible text that is read as JSON's media type. -/
theorem isJsonType_iff
    : IsJsonType value ↔ isHeaderText value = true ∧ isJsonMediaType value = true := by
  rw [isJsonMediaType_iff]
  constructor
  · rintro @⟨type, subtype, suffix, parameters, visible, whole, typed, subtyped, suffixed,
      parameterised⟩
    refine ⟨visible, type, subtype ++ suffix, parameters, whole, typed, fun c member => ?_,
      (withoutSuffix_append subtyped suffixed).symm ▸ subtyped, parameterised⟩
    rcases List.mem_append.mp member with inside | inside
    · exact tokens_of_json subtyped c inside
    · exact suffixed.tokens c inside
  · rintro ⟨visible, type, name, parameters, whole, typed, tokens, subtyped, parameterised⟩
    obtain ⟨subtype, suffix, rfl, subtyped, suffixed⟩ := exists_suffix tokens subtyped
    exact .intro visible whole typed subtyped suffixed parameterised

theorem hasJsonType_iff {r : Request}
    : hasJsonType r = true ↔ ∀ value, r.header? "content-type" = some value → IsJsonType value := by
  unfold hasJsonType
  cases r.header? "content-type" with
  | none => exact iff_of_true rfl nofun
  | some value => simp only [Option.some.injEq, forall_eq', isJsonType_iff, Bool.and_eq_true]

end NodeTrial.WriteServer
