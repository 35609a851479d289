import NodeTrial.Proofs.Json.LocalSkip
import NodeTrial.Proofs.Json.ObjectText
import NodeTrial.Proofs.Table.Lookup

/-! The place of a field in a text. A record that is read as an object has the text of a field's
value in one place, and with any other value's text in that place it is read with that value, all
else being the same.
-/

namespace NodeTrial

namespace Json

open Text (Symbol)

/-- Behind something that stays, any text may stand in the place of any other. -/
theorem Replaces.behind {front : List Symbol} (some : front ≠ []) (other rest : List Symbol)
    : Replaces (front ++ other) (front ++ rest) := by
  obtain ⟨s, front, rfl⟩ := List.exists_cons_of_ne_nil some
  exact .inr ⟨s, front ++ other, front ++ rest, rfl, rfl⟩

/-- A text stands in a place of another one: with any other value's text in that place, the whole is
read as an answer to that value. Something stands before the place.
-/
def Place {α ε ε' : Type} (item : List Symbol → Except ε (Json × List Symbol))
    (read : List Symbol → Except ε' α) (text input : List Symbol) (answer : Json → α)
    : Prop :=
  ∃ front back, front ≠ [] ∧ input = front ++ (text ++ back)
    ∧ ∀ other value, Denotes item other value → read (front ++ (other ++ back)) = .ok (answer value)

/-- A place in what follows is one in the whole, if what is read before it does not look into it. -/
theorem Place.append {α β ε ε' ε'' : Type} {item : List Symbol → Except ε (Json × List Symbol)}
    {read : List Symbol → Except ε' α} {read' : List Symbol → Except ε'' β}
    {text input : List Symbol} {answer : Json → α} {answer' : Json → β}
    (place : Place item read text input answer) (before : List Symbol)
    (reads
      : ∀ other value, Replaces other input → read other = .ok (answer value) →
          read' (before ++ other) = .ok (answer' value))
    : Place item read' text (before ++ input) answer' := by
  obtain ⟨front, back, some, rfl, exchange⟩ := place
  refine ⟨before ++ front, back, by simp [some], by simp, fun other value denotes => ?_⟩
  rw [List.append_assoc]
  exact reads _ value (.behind some _ _) (exchange other value denotes)

namespace Shape

-----------------------------------------------------------------------------------------
-- Shapes
-----------------------------------------------------------------------------------------

/-- A shape reads by what it takes. -/
def IsLocal (s : Shape) (depth : Nat) : Prop :=
  ∀ j, Local fun input rest => s.read depth input = .ok (j, rest)

theorem scalar_ok_iff {accept : Json → Except Mismatch Json} {depth : Nat} {j : Json}
    {input rest : List Symbol}
    : (scalar accept).read depth input = .ok (j, rest)
      ↔ (accept (.list []) = .ok j ∧ skipSpace input = .char '[' :: rest)
        ∨ (accept (.object []) = .ok j ∧ skipSpace input = .char '\x7b' :: rest)
        ∨ ∃ raw, accept raw = .ok j
          ∧ ∃ s after, skipSpace input = s :: after ∧ True ∧ readScalar (s :: after) = .ok (raw, rest) := by
  have kind (result : Except Mismatch Json) (after : List Symbol)
      : (result.mapError ReadError.unfit |>.map fun j => (j, after)) = .ok (j, rest)
        ↔ result = .ok j ∧ after = rest := by
    cases result with
    | error m => simp [Except.map]
    | ok found => simp [Except.map]
  constructor
  · intro h
    unfold scalar at h
    dsimp only at h
    split at h
    · next after start =>
      obtain ⟨accepted, rfl⟩ := (kind _ _).mp h
      exact .inl ⟨accepted, start⟩
    · next after start =>
      obtain ⟨accepted, rfl⟩ := (kind _ _).mp h
      exact .inr (.inl ⟨accepted, start⟩)
    · obtain ⟨⟨raw, after⟩, read, h⟩ := bind_ok_iff.mp h
      obtain ⟨value, accepted, same⟩ := bind_ok_iff.mp h
      obtain ⟨rfl, rfl⟩ := Prod.mk.inj (Except.ok.inj same)
      refine .inr (.inr ⟨raw, mapError_eq_ok.mp accepted, ?_⟩)
      have read := orMalformed_eq_ok.mp read
      cases start : skipSpace input with
      | nil =>
          rw [start] at read
          cases read
      | cons s after => exact ⟨s, after, rfl, trivial, start ▸ read⟩
  · rintro (⟨accepted, start⟩ | ⟨accepted, start⟩ | ⟨raw, accepted, s, after, start, -, read⟩)
    · simp only [scalar, start]
      exact (kind _ _).mpr ⟨accepted, rfl⟩
    · simp only [scalar, start]
      exact (kind _ _).mpr ⟨accepted, rfl⟩
    · unfold scalar
      dsimp only
      rw [start]
      split
      · next opened =>
        rw [opened] at read
        cases read
      · next opened =>
        rw [opened] at read
        cases read
      · refine bind_ok_iff.mpr ⟨_, orMalformed_eq_ok.mpr read, ?_⟩
        exact bind_ok_iff.mpr ⟨j, mapError_eq_ok.mpr accepted, rfl⟩

theorem scalar_local (accept : Json → Except Mismatch Json) (depth : Nat)
    : (scalar accept).IsLocal depth := by
  intro j
  refine Local.congr ?_ fun _ _ => scalar_ok_iff
  refine ((Local.spaced _).given _).or (((Local.spaced _).given _).or (Local.some fun raw => ?_))
  exact ((Local.readScalar raw).found (readScalar_advances raw) fun _ => True).given _

theorem any_ok_iff {depth : Nat} {j : Json} {input rest : List Symbol}
    : any.read depth input = .ok (j, rest)
      ↔ ∃ tree, tree.canonical = j ∧ readTree depth input = .ok (tree, rest) := by
  rw [any, map_ok_iff]
  constructor
  · rintro ⟨⟨tree, after⟩, read, same⟩
    obtain ⟨rfl, rfl⟩ := Prod.mk.inj same
    exact ⟨tree, rfl, read⟩
  · rintro ⟨tree, rfl, read⟩
    exact ⟨_, read, rfl⟩

theorem any_local (depth : Nat) : any.IsLocal depth := by
  intro j
  refine Local.congr ?_ fun _ _ => any_ok_iff
  exact Local.some fun tree => (Local.readTree depth tree).given _

-----------------------------------------------------------------------------------------
-- Members of records
-----------------------------------------------------------------------------------------

section Records

variable {fields : List Field} {depth : Nat}

/-- A member of a record is a field that comes for the first time, or it is passed over. -/
theorem readField_ok_iff {found next : List (String × Json)} {name : String}
    {input rest : List Symbol}
    : readField fields depth found name input = .ok (next, rest)
      ↔ (∃ f, (fieldNamed? fields name = some f ∧ lookupEntry name found = none)
          ∧ collect (f.shape.read depth) found name input = .ok (next, rest))
        ∨ (fieldNamed? fields name = none ∧ next = found)
          ∧ ∃ start, skipSpace input = .char ':' :: start ∧ skipAny start = .ok rest := by
  unfold readField
  cases named : fieldNamed? fields name with
  | some f =>
      cases before : lookupEntry name found with
      | some value => simp
      | none => simp
  | none =>
      simp only [reduceCtorEq, false_and, exists_false, false_or, true_and]
      constructor
      · intro h
        obtain ⟨start, colon, h⟩ := bind_ok_iff.mp h
        obtain ⟨after, skipped, same⟩ := bind_ok_iff.mp h
        obtain ⟨rfl, rfl⟩ := Prod.mk.inj (Except.ok.inj same)
        exact ⟨rfl, start, colon_ok colon, orMalformed_eq_ok.mp skipped⟩
      · rintro ⟨rfl, start, colon, skipped⟩
        refine bind_ok_iff.mpr ⟨start, colon_ok_iff.mpr colon, ?_⟩
        exact bind_ok_iff.mpr ⟨rest, orMalformed_eq_ok.mpr skipped, rfl⟩

theorem readField_local (locals : ∀ f ∈ fields, f.shape.IsLocal depth)
    (found : List (String × Json)) (name : String) (next : List (String × Json))
    : Local fun input rest => readField fields depth found name input = .ok (next, rest) := by
  refine Local.congr ?_ fun _ _ => readField_ok_iff
  refine Local.or (Local.some fun f => ?_) (((Local.spaced _).seq Local.skipAny).given _)
  by_cases named : fieldNamed? fields name = some f
  · exact (Local.collect (locals f (fieldNamed?_mem named)) found name next).given _
  · exact Local.never fun _ _ h => named h.1.1

/-- Two states of a reading of members have values for the same names. -/
def SameNames (found found' : List (String × Json)) : Prop :=
  ∀ name, lookupEntry name found = none ↔ lookupEntry name found' = none

theorem SameNames.append {found found' : List (String × Json)} (same : SameNames found found')
    (name : String) (value value' : Json)
    : SameNames (found ++ [(name, value)]) (found' ++ [(name, value')]) := by
  intro other
  rw [lookupEntry_append, lookupEntry_append, Option.or_eq_none_iff, Option.or_eq_none_iff,
    same other]
  refine and_congr_right fun _ => ?_
  simp [lookupEntry]

/-- The values that were read before have no part in how the further members are read, by induction
on the bound of the loop.
-/
theorem readMembers_sameNames {bound : Nat}
    : ∀ {first : Bool} {found final : List (String × Json)} {input rest : List Symbol},
        readMembers (readField fields depth) bound first found input = .ok (final, rest) →
        ∃ added,
          final = found ++ added
          ∧ ∀ found', SameNames found found' →
              readMembers (readField fields depth) bound first found' input
                = .ok (found' ++ added, rest) := by
  induction bound with
  | zero =>
      intro _ _ _ _ _ h
      cases h
  | succ bound ih =>
      intro first found final input rest h
      rcases readMembers_succ_iff.mp h with
        ⟨rfl, close⟩ | ⟨name, next, afterKey, key, middle, taken, others⟩
      · refine ⟨[], (List.append_nil _).symm, fun found' _ => ?_⟩
        rw [List.append_nil]
        exact readMembers_succ_iff.mpr (.inl ⟨rfl, close⟩)
      · obtain ⟨added, rfl, again⟩ := ih others
        rcases readField_ok_iff.mp taken with
          ⟨f, ⟨named, fresh⟩, collected⟩ | ⟨⟨unknown, rfl⟩, start, colon, skipped⟩
        · obtain ⟨value, rfl, start, colon, read⟩ := collect_ok_iff.mp collected
          refine ⟨(name, value) :: added, by simp, fun found' same => ?_⟩
          have later := again (found' ++ [(name, value)]) (same.append name value value)
          rw [List.append_assoc, List.singleton_append] at later
          refine readMembers_succ_iff.mpr (.inr ⟨name, _, afterKey, key, middle, ?_, later⟩)
          refine readField_ok_iff.mpr (.inl ⟨f, ⟨named, (same name).mp fresh⟩, ?_⟩)
          exact collect_ok_iff.mpr ⟨value, rfl, start, colon, read⟩
        · refine ⟨added, rfl, fun found' same => ?_⟩
          refine readMembers_succ_iff.mpr (.inr ⟨name, _, afterKey, key, middle, ?_, again _ same⟩)
          exact readField_ok_iff.mpr (.inr ⟨⟨unknown, rfl⟩, start, colon, skipped⟩)

/-- A text ends a number if the symbol after its blanks does. -/
theorem endsNumber_of_skipSpace {input rest : List Symbol} {s : Symbol}
    (start : skipSpace input = s :: rest) (ends : EndsNumber (s :: rest))
    : EndsNumber input := by
  obtain ⟨blanks, rfl, blank⟩ := exists_blanks start
  exact blank.endsNumber ends

/-- What a loop over members goes on with ends a number. -/
theorem endsNumber_of_readMembers {σ : Type} {step : σ → String → Reader σ} {bound : Nat}
    {state final : σ} {input rest : List Symbol}
    (h : readMembers step bound false state input = .ok (final, rest))
    : EndsNumber input := by
  cases bound with
  | zero => cases h
  | succ bound =>
      rcases readMembers_succ_iff.mp h with ⟨-, close⟩ | ⟨_, _, _, ⟨impossible, -⟩ | ⟨-, after, comma, -⟩, -⟩
      · exact endsNumber_of_skipSpace close (.cons _ (by decide))
      · cases impossible
      · exact endsNumber_of_skipSpace comma (.cons _ (by decide))

/-- Any text may stand behind a key and its colon. -/
theorem exists_keyText {first : Bool} {name : String} {input afterKey start : List Symbol}
    (key : NextKey first name input afterKey) (colon : skipSpace afterKey = .char ':' :: start)
    : ∃ front, front ≠ [] ∧ input = front ++ start
        ∧ ∀ other, ∃ afterKey', NextKey first name (front ++ other) afterKey'
          ∧ skipSpace afterKey' = .char ':' :: other := by
  obtain ⟨spelled, rfl, again⟩ := Local.nextKey first name _ _ key
  obtain ⟨blanks, rfl, blank⟩ := exists_blanks colon
  have some : blanks ++ [Symbol.char ':'] ≠ [] := by simp
  refine ⟨spelled ++ (blanks ++ [.char ':']), by simp, by simp, fun other => ?_⟩
  have replaced := again _ (by simpa using Replaces.behind some other start)
  exact ⟨blanks ++ .char ':' :: other, by simpa using replaced, blank.skipSpace rfl _⟩

/-- A field that is read has the text of its value in one place, by induction on the bound of the
loop. What stands before that place is not empty, so the readings before it go as they went.
-/
theorem readMembers_place (locals : ∀ f ∈ fields, f.shape.IsLocal depth) {key : String} {f : Field}
    (named : fieldNamed? fields key = some f) {bound : Nat}
    : ∀ {first : Bool} {found final : List (String × Json)} {input rest : List Symbol},
        readMembers (readField fields depth) bound first found input = .ok (final, rest) →
        lookupEntry key found = none →
        lookupEntry key final ≠ none →
        ∃ text before value after,
          lookupEntry key before = none
          ∧ final = before ++ (key, value) :: after
          ∧ Denotes (f.shape.read depth) text value
          ∧ Place (f.shape.read depth) (readMembers (readField fields depth) bound first found)
              text input fun value => (before ++ (key, value) :: after, rest) := by
  induction bound with
  | zero =>
      intro _ _ _ _ _ h
      cases h
  | succ bound ih =>
      intro first found final input rest h fresh there
      rcases readMembers_succ_iff.mp h with
        ⟨rfl, -⟩ | ⟨name, next, afterKey, keyRead, middle, taken, others⟩
      · exact absurd fresh there
      · by_cases same : name = key
        · subst same
          rcases readField_ok_iff.mp taken with ⟨f', ⟨named', -⟩, collected⟩ | ⟨⟨unknown, -⟩, -⟩
          · obtain rfl : f = f' := Option.some.inj (named.symm.trans named')
            obtain ⟨value, rfl, start, colon, read⟩ := collect_ok_iff.mp collected
            obtain ⟨added, rfl, again⟩ := readMembers_sameNames others
            have ends := endsNumber_of_readMembers others
            obtain ⟨front, some, rfl, anyValue⟩ := exists_keyText keyRead colon
            obtain ⟨text, rfl, denotes⟩ := (locals f (fieldNamed?_mem named) value).denotes read
            refine ⟨text, found, value, added, fresh, by simp, denotes, front, middle, some, rfl,
              fun other value' reads => ?_⟩
            obtain ⟨afterKey', keyRead', colon'⟩ := anyValue (other ++ middle)
            have later := again (found ++ [(name, value')])
              (SameNames.append (fun _ => Iff.rfl) name value value')
            rw [List.append_assoc, List.singleton_append] at later
            refine readMembers_succ_iff.mpr (.inr ⟨name, _, afterKey', keyRead', middle, ?_, later⟩)
            refine readField_ok_iff.mpr (.inl ⟨f, ⟨named, fresh⟩, ?_⟩)
            exact collect_ok_iff.mpr ⟨value', rfl, _, colon', reads _ ends⟩
          · rw [named] at unknown
            cases unknown
        · have still : lookupEntry key next = none := by
            rcases readField_ok_iff.mp taken with ⟨f', -, collected⟩ | ⟨⟨-, rfl⟩, -⟩
            · obtain ⟨value, rfl, -⟩ := collect_ok_iff.mp collected
              simp [lookupEntry_append, fresh, lookupEntry, same]
            · exact fresh
          obtain ⟨text, before, value, after, first', rfl, denotes, place⟩ := ih others still there
          have member : Local fun input rest =>
              ∃ afterKey, NextKey first name input afterKey
                ∧ readField fields depth found name afterKey = .ok (next, rest) :=
            (Local.nextKey first name).seq (readField_local locals found name next)
          obtain ⟨taken', rfl, again⟩ := member _ _ ⟨afterKey, keyRead, taken⟩
          refine ⟨text, before, value, after, first', rfl, denotes,
            place.append taken' fun other value' replaces read => ?_⟩
          obtain ⟨afterKey', keyRead', taken⟩ := again other replaces
          exact readMembers_succ_iff.mpr
            (.inr ⟨name, next, afterKey', keyRead', other, taken, read⟩)

-----------------------------------------------------------------------------------------
-- Records
-----------------------------------------------------------------------------------------

/-- A record is read from the list of its fields' values or from an object of its fields. -/
theorem record_ok_iff {name : String} {j : Json} {input rest : List Symbol}
    : (record name fields).read (depth + 1) input = .ok (j, rest)
      ↔ (∃ opened, skipSpace input = .char '[' :: opened
          ∧ ∃ found, j = .object found
            ∧ readClosed ("struct " ++ name ++ " with " ++ elements fields.length) depth fields 0 opened
              = .ok (found, rest))
        ∨ ∃ opened, skipSpace input = .char '\x7b' :: opened
          ∧ ∃ found members, j = .object members
            ∧ complete found fields = .ok members
            ∧ readMembers (readField fields depth) (opened.length + 1) true [] opened
              = .ok (found, rest) := by
  constructor
  · intro h
    unfold record at h
    dsimp only at h
    split at h
    · next impossible => cases impossible
    · next impossible => cases impossible
    · next opened less start same =>
      obtain rfl := Nat.succ.inj same
      obtain ⟨⟨found, closing⟩, read, h⟩ := bind_ok_iff.mp h
      obtain ⟨last, closed, same⟩ := bind_ok_iff.mp h
      obtain ⟨rfl, rfl⟩ := Prod.mk.inj (Except.ok.inj same)
      exact .inl ⟨opened, start, found, rfl, bind_ok_iff.mpr ⟨_, read, bind_ok_iff.mpr ⟨_, closed, rfl⟩⟩⟩
    · next opened less start same =>
      obtain rfl := Nat.succ.inj same
      obtain ⟨⟨found, last⟩, read, h⟩ := bind_ok_iff.mp h
      obtain ⟨members, completed, same⟩ := bind_ok_iff.mp h
      obtain ⟨rfl, rfl⟩ := Prod.mk.inj (Except.ok.inj same)
      exact .inr ⟨opened, start, found, members, rfl, mapError_eq_ok.mp completed, read⟩
    · cases h
    · cases h
  · rintro (⟨opened, start, found, rfl, closed⟩ | ⟨opened, start, found, members, rfl, completed, read⟩)
    · obtain ⟨⟨_, closing⟩, read, h⟩ := bind_ok_iff.mp closed
      obtain ⟨last, close, same⟩ := bind_ok_iff.mp h
      obtain ⟨rfl, rfl⟩ := Prod.mk.inj (Except.ok.inj same)
      simp only [record, start]
      exact bind_ok_iff.mpr ⟨_, read, bind_ok_iff.mpr ⟨_, close, rfl⟩⟩
    · simp only [record, start]
      exact bind_ok_iff.mpr ⟨_, read, bind_ok_iff.mpr ⟨_, mapError_eq_ok.mpr completed, rfl⟩⟩

theorem readClosed_nil_iff {expected : String} {index : Nat} {found : List (String × Json)}
    {input rest : List Symbol}
    : readClosed expected depth [] index input = .ok (found, rest)
      ↔ found = [] ∧ skipSpace input = .char ']' :: rest := by
  have ended : readClosed expected depth [] index input
      = orMalformed (closeList input) >>= fun last => .ok ([], last) := rfl
  rw [ended, bind_ok_iff, ← closeList_ok_iff]
  constructor
  · rintro ⟨last, closed, same⟩
    obtain ⟨rfl, rfl⟩ := Prod.mk.inj (Except.ok.inj same)
    exact ⟨rfl, orMalformed_eq_ok.mp closed⟩
  · rintro ⟨rfl, closed⟩
    exact ⟨rest, orMalformed_eq_ok.mpr closed, rfl⟩

/-- The first field of a record given as a list has the next item, or its value for absence at the
end of the list.
-/
theorem readClosed_cons_iff {expected : String} {index : Nat} {f : Field}
    {found : List (String × Json)} {input rest : List Symbol}
    : readClosed expected depth (f :: fields) index input = .ok (found, rest)
      ↔ (∃ value others, found = (f.name, value) :: others
          ∧ ∃ middle, NextItem (f.shape.read depth) (index = 0) value input middle
            ∧ readClosed expected depth fields (index + 1) middle = .ok (others, rest))
        ∨ ∃ value others, (f.absent = some value ∧ found = (f.name, value) :: others)
          ∧ ∃ start, skipSpace input = .char ']' :: start
            ∧ readClosed expected depth fields index (.char ']' :: start) = .ok (others, rest) := by
  constructor
  · intro h
    cases next : nextItem (index = 0) input with
    | error fault =>
        simp only [readClosed, readElements, next, bind, Except.bind, orMalformed, Except.mapError,
          reduceCtorEq] at h
    | ok found =>
        obtain ⟨more, start⟩ := found
        cases more with
        | true =>
            rw [readClosed_item next] at h
            obtain ⟨⟨value, middle⟩, read, h⟩ := bind_ok_iff.mp h
            obtain ⟨⟨others, last⟩, closed, same⟩ := bind_ok_iff.mp h
            obtain ⟨rfl, rfl⟩ := Prod.mk.inj (Except.ok.inj same)
            exact .inl ⟨value, others, rfl, middle, nextItem_read_iff.mpr ⟨start, next, read⟩, closed⟩
        | false =>
            obtain ⟨close, after, rfl⟩ := nextItem_false_iff.mp next
            cases absent : f.absent with
            | none =>
                rw [readClosed_missing next absent] at h
                cases h
            | some value =>
                rw [readClosed_absent next absent] at h
                obtain ⟨⟨others, last⟩, closed, same⟩ := bind_ok_iff.mp h
                obtain ⟨rfl, rfl⟩ := Prod.mk.inj (Except.ok.inj same)
                exact .inr ⟨value, others, ⟨rfl, rfl⟩, after, close, closed⟩
  · rintro (⟨value, others, rfl, middle, next, closed⟩
      | ⟨value, others, ⟨absent, rfl⟩, start, close, closed⟩)
    · obtain ⟨start, next, read⟩ := nextItem_read_iff.mp next
      rw [readClosed_item next]
      exact bind_ok_iff.mpr ⟨_, read, bind_ok_iff.mpr ⟨_, closed, rfl⟩⟩
    · rw [readClosed_absent (nextItem_false_iff.mpr ⟨close, start, rfl⟩) absent]
      exact bind_ok_iff.mpr ⟨_, closed, rfl⟩

end Records

end Shape

end Json

end NodeTrial
