import NodeTrial.Json.Reader
import NodeTrial.Proofs.Json.Numeral
import NodeTrial.Proofs.Json.Scan
import NodeTrial.Proofs.Result

/-! The loops over the items of a list and the members of an object, followed once, for any reader
of what stands in them: what is written is read back in order, and a reading that ends well is
taken apart item by item.
-/

namespace NodeTrial.Json

open Text (Symbol)

variable {α β σ : Type}

/-- A reader takes a value off a text, and leaves any rest that cannot extend it. -/
def Reads (reader : Reader α) (text : List Char) (value : α) : Prop :=
  ∀ rest, EndsNumber rest → reader (text.map .char ++ rest) = .ok (value, rest)

/-- A text can stand for an item of a list: it starts with no blank and no closing bracket. -/
def StartsItem (text : List Char) : Prop :=
  ∃ c cs, text = c :: cs ∧ isSpace (.char c) = false ∧ c ≠ ']'

@[simp]
theorem orMalformed_ok (value : α) : orMalformed (.ok value) = .ok value :=
  rfl

theorem EndsNumber.mark {c : Char} (rest : List Symbol) (mark : c = ',' ∨ c = ']' ∨ c = '\x7d')
    : EndsNumber (.char c :: rest) := by
  rcases mark with rfl | rfl | rfl
  · exact .cons rest (by decide)
  · exact .cons rest (by decide)
  · exact .cons rest (by decide)

-----------------------------------------------------------------------------------------
-- Lists
-----------------------------------------------------------------------------------------

/-- What follows the items of a list ends the number before it. -/
theorem endsNumber_items (text : β → List Char) (items : List β) (rest : List Symbol)
    : EndsNumber ((items.flatMap fun b => ',' :: text b).map .char ++ .char ']' :: rest) := by
  cases items with
  | nil => exact .mark rest (.inr (.inl rfl))
  | cons b items => exact .mark _ (.inl rfl)

theorem length_le_items (text : β → List Char) (items : List β)
    : items.length ≤ (items.flatMap fun b => ',' :: text b).length := by
  induction items with
  | nil => exact Nat.zero_le _
  | cons b items ih =>
      simp only [List.flatMap_cons, List.length_append, List.length_cons]
      omega

theorem nextItem_close (first : Bool) (rest : List Symbol)
    : nextItem first (.char ']' :: rest) = .ok (false, .char ']' :: rest) := by
  unfold nextItem
  rw [skipSpace_cons rest rfl]
  rfl

theorem nextItem_first {text : List Char} (starts : StartsItem text) (rest : List Symbol)
    : nextItem true (text.map .char ++ rest) = .ok (true, text.map .char ++ rest) := by
  obtain ⟨c, cs, rfl, solid, noClose⟩ := starts
  unfold nextItem
  rw [List.map_cons, List.cons_append, skipSpace_cons _ solid]
  split
  · next none => exact absurd none (List.cons_ne_nil _ _)
  · next after close => exact absurd (Symbol.char.inj (List.cons.inj close).1) noClose
  · next s after other same =>
    rw [if_pos rfl, same]

/-- A further item of a list is found after a comma. -/
theorem nextItem_further {text : List Char} (starts : StartsItem text) (rest : List Symbol)
    : nextItem false ((',' :: text).map .char ++ rest) = .ok (true, text.map .char ++ rest) := by
  obtain ⟨c, cs, rfl, solid, noClose⟩ := starts
  unfold nextItem
  rw [List.map_cons, List.cons_append, skipSpace_cons _ rfl]
  split
  · next none => exact absurd none (List.cons_ne_nil _ _)
  · next after close => exact absurd (Symbol.char.inj (List.cons.inj close).1) (by decide)
  · next s after other comma =>
    obtain ⟨rfl, rfl⟩ := List.cons.inj comma
    rw [if_neg Bool.false_ne_true, if_pos rfl, List.map_cons, List.cons_append,
      skipSpace_cons _ solid]
    split
    · next none => exact absurd none (List.cons_ne_nil _ _)
    · next after close => exact absurd (Symbol.char.inj (List.cons.inj close).1) noClose
    · rfl

theorem readItems_of_next {item : Reader α} {first : Bool} {input : List Symbol}
    {text : List Char} {value : α} {rest : List Symbol}
    (next : nextItem first input = .ok (true, text.map .char ++ rest))
    (reads : Reads item text value) (ends : EndsNumber rest) (bound : Nat)
    : readItems item (bound + 1) first input
      = (readItems item bound false rest).map fun (values, after) => (value :: values, after) := by
  have read := reads rest ends
  simp only [readItems, next, orMalformed_ok, bind, Except.bind, read]
  cases readItems item bound false rest with
  | error e => rfl
  | ok found => rfl

/-- The further items of a list are read in order up to the closing bracket, by induction on
them.
-/
theorem readItems_further {item : Reader α} {text : β → List Char} {value : β → α}
    {items : List β}
    (good : ∀ b ∈ items, StartsItem (text b) ∧ Reads item (text b) (value b))
    (rest : List Symbol)
    : ∀ (bound : Nat), items.length < bound →
        readItems item bound false
            ((items.flatMap fun b => ',' :: text b).map .char ++ .char ']' :: rest)
          = .ok (items.map value, rest) := by
  induction items with
  | nil =>
      rintro (_ | bound) enough
      · exact absurd enough (Nat.lt_irrefl 0)
      · simp only [List.flatMap_nil, List.map_nil, List.nil_append, readItems, nextItem_close]
        rfl
  | cons b items ih =>
      rintro (_ | bound) enough
      · exact absurd enough (Nat.not_lt_zero _)
      · obtain ⟨starts, reads⟩ := good b List.mem_cons_self
        have others := ih (fun d member => good d (List.mem_cons_of_mem b member)) bound
          (Nat.lt_of_succ_lt_succ enough)
        rw [List.flatMap_cons, List.map_append, List.append_assoc,
          readItems_of_next (nextItem_further starts _) reads
            (endsNumber_items text items rest), others]
        rfl

/-- The items of a list between its brackets. -/
def writtenItems (text : β → List Char) : List β → List Char
  | [] => []
  | b :: items => text b ++ items.flatMap fun b => ',' :: text b

/-- The items of a list are read in order from its opening bracket to its closing one. -/
theorem readItems_written {item : Reader α} {text : β → List Char} {value : β → α}
    {items : List β}
    (good : ∀ b ∈ items, StartsItem (text b) ∧ Reads item (text b) (value b))
    (rest : List Symbol) {input : List Symbol}
    (shape : input = (writtenItems text items).map .char ++ .char ']' :: rest)
    : readItems item (input.length + 1) true input = .ok (items.map value, rest) := by
  subst shape
  cases items with
  | nil =>
      simp only [writtenItems, List.map_nil, List.nil_append, readItems, nextItem_close]
      rfl
  | cons b items =>
      obtain ⟨starts, reads⟩ := good b List.mem_cons_self
      rw [writtenItems, List.map_append, List.append_assoc,
        readItems_of_next (nextItem_first starts _) reads (endsNumber_items text items rest)]
      have long := length_le_items text items
      rw [readItems_further (fun d member => good d (List.mem_cons_of_mem b member)) rest]
      · rfl
      · simp only [List.length_append, List.length_map, List.length_cons]
        omega

-----------------------------------------------------------------------------------------
-- Objects
-----------------------------------------------------------------------------------------

def writtenMember (text : β → List Char) (member : String × β) : List Char :=
  writtenString member.1 ++ ':' :: text member.2

/-- A step over a member takes in its key and its value, or refuses them, wherever the value can
end.
-/
def TakesIn (step : σ → String → Reader σ) (text : β → List Char)
    (next : σ → String × β → Except ReadError σ) (member : String × β) : Prop :=
  ∀ state rest, EndsNumber rest →
    step state member.1 ((':' :: text member.2).map .char ++ rest)
      = (next state member).map fun after => (after, rest)

theorem endsNumber_members (text : β → List Char) (members : List (String × β))
    (rest : List Symbol)
    : EndsNumber ((members.flatMap fun m => ',' :: writtenMember text m).map .char
        ++ .char '\x7d' :: rest) := by
  cases members with
  | nil => exact .mark rest (.inr (.inr rfl))
  | cons m members => exact .mark _ (.inl rfl)

theorem nextKey_close (first : Bool) (rest : List Symbol)
    : nextKey first (.char '\x7d' :: rest) = .ok (false, rest) := by
  unfold nextKey
  rw [skipSpace_cons rest rfl]
  rfl

theorem nextKey_first (rest : List Symbol)
    : nextKey true (.char '"' :: rest) = .ok (true, rest) := by
  unfold nextKey
  rw [skipSpace_cons rest rfl]
  rfl

theorem nextKey_further (rest : List Symbol)
    : nextKey false (.char ',' :: .char '"' :: rest) = .ok (true, rest) := by
  unfold nextKey
  rw [skipSpace_cons _ rfl]
  rfl

theorem readMembers_of_next {step : σ → String → Reader σ} {text : β → List Char}
    {next : σ → String × β → Except ReadError σ} {member : String × β} {first : Bool}
    {input rest : List Symbol}
    (found : nextKey first input
      = .ok (true, (member.1.toList.flatMap writtenChar).map .char
          ++ .char '"' :: ((':' :: text member.2).map .char ++ rest)))
    (takes : TakesIn step text next member) (ends : EndsNumber rest) (bound : Nat) (state : σ)
    : readMembers step (bound + 1) first state input
      = (next state member).bind fun after => readMembers step bound false after rest := by
  have key := readString_written member.1 ((':' :: text member.2).map .char ++ rest)
  have taken := takes state rest ends
  simp only [readMembers, found, orMalformed_ok, bind, Except.bind, key, taken]
  cases next state member with
  | error e => rfl
  | ok after => rfl

/-- The further members of an object are taken in one after the other up to the closing brace, by
induction on them.
-/
theorem readMembers_further {step : σ → String → Reader σ} {text : β → List Char}
    {next : σ → String × β → Except ReadError σ} {members : List (String × β)}
    (good : ∀ m ∈ members, TakesIn step text next m) (rest : List Symbol)
    : ∀ (bound : Nat) (state : σ), members.length < bound →
        readMembers step bound false state
            ((members.flatMap fun m => ',' :: writtenMember text m).map .char
              ++ .char '\x7d' :: rest)
          = (members.foldlM next state).map fun after => (after, rest) := by
  induction members with
  | nil =>
      rintro (_ | bound) state enough
      · exact absurd enough (Nat.lt_irrefl 0)
      · simp only [List.flatMap_nil, List.map_nil, List.nil_append, readMembers, nextKey_close]
        rfl
  | cons m members ih =>
      rintro (_ | bound) state enough
      · exact absurd enough (Nat.not_lt_zero _)
      · have others := ih (fun d member => good d (List.mem_cons_of_mem m member)) bound
        have fewer := Nat.lt_of_succ_lt_succ enough
        have found : nextKey false
            (((m :: members).flatMap fun m => ',' :: writtenMember text m).map .char
              ++ .char '\x7d' :: rest)
            = .ok (true, (m.1.toList.flatMap writtenChar).map .char
              ++ .char '"' :: ((':' :: text m.2).map .char
              ++ ((members.flatMap fun m => ',' :: writtenMember text m).map .char
              ++ .char '\x7d' :: rest))) := by
          simp only [List.flatMap_cons, writtenMember, writtenString, List.map_append,
            List.map_cons, List.cons_append, List.nil_append, List.append_assoc, nextKey_further]
        rw [readMembers_of_next found (good m List.mem_cons_self)
          (endsNumber_members text members rest), List.foldlM_cons]
        cases next state m with
        | error e => rfl
        | ok after => exact others after fewer

/-- The members of an object between its braces. -/
def writtenMembers (text : β → List Char) : List (String × β) → List Char
  | [] => []
  | m :: members => writtenMember text m ++ members.flatMap fun m => ',' :: writtenMember text m

/-- The members of an object are taken in one after the other from its opening brace to its
closing one.
-/
theorem readMembers_written {step : σ → String → Reader σ} {text : β → List Char}
    {next : σ → String × β → Except ReadError σ} {members : List (String × β)}
    (good : ∀ m ∈ members, TakesIn step text next m) (rest : List Symbol)
    {input : List Symbol}
    (shape : input = (writtenMembers text members).map .char ++ .char '\x7d' :: rest) (state : σ)
    : readMembers step (input.length + 1) true state input
      = (members.foldlM next state).map fun after => (after, rest) := by
  subst shape
  cases members with
  | nil =>
      simp only [writtenMembers, List.map_nil, List.nil_append, readMembers, nextKey_close]
      rfl
  | cons m members =>
      have found : nextKey true
          ((writtenMembers text (m :: members)).map .char ++ .char '\x7d' :: rest)
          = .ok (true, (m.1.toList.flatMap writtenChar).map .char
            ++ .char '"' :: ((':' :: text m.2).map .char
            ++ ((members.flatMap fun m => ',' :: writtenMember text m).map .char
            ++ .char '\x7d' :: rest))) := by
        simp only [writtenMembers, writtenMember, writtenString, List.map_append, List.map_cons,
          List.cons_append, List.nil_append, List.append_assoc, nextKey_first]
      have long := length_le_items (writtenMember text) members
      rw [readMembers_of_next found (good m List.mem_cons_self)
        (endsNumber_members text members rest), List.foldlM_cons]
      cases next state m with
      | error e => rfl
      | ok after =>
          refine readMembers_further (fun d member => good d (List.mem_cons_of_mem m member)) rest
            _ after ?_
          simp only [writtenMembers, List.length_append, List.length_map, List.length_cons]
          omega

-----------------------------------------------------------------------------------------
-- Readings that end well
-----------------------------------------------------------------------------------------

theorem orMalformed_eq_ok {result : Except Fault α} {value : α}
    : orMalformed result = .ok value ↔ result = .ok value :=
  mapError_eq_ok

/-- A search for an item ends at the closing bracket, or at the front of a value: at the opening
bracket, or after a comma.
-/
theorem nextItem_ok {first found : Bool} {input rest : List Symbol}
    (h : nextItem first input = .ok (found, rest))
    : found = false ∧ skipSpace input = rest ∧ (∃ after, rest = .char ']' :: after)
      ∨ found = true ∧ (∃ s after, rest = s :: after ∧ s ≠ .char ']')
        ∧ (first = true ∧ skipSpace input = rest
          ∨ first = false
            ∧ ∃ after, skipSpace input = .char ',' :: after ∧ skipSpace after = rest) := by
  unfold nextItem at h
  split at h
  · cases h
  · next after closing =>
    obtain ⟨rfl, rfl⟩ := Prod.mk.inj (Except.ok.inj h)
    exact .inl ⟨rfl, closing, after, rfl⟩
  · next s after noClose start =>
    split at h
    · next isFirst =>
      obtain ⟨rfl, rfl⟩ := Prod.mk.inj (Except.ok.inj h)
      exact .inr ⟨rfl, ⟨s, after, rfl, noClose⟩, .inl ⟨isFirst, start⟩⟩
    · next further =>
      split at h
      · next comma =>
        subst comma
        split at h
        · cases h
        · cases h
        · next nonempty unclosed =>
          obtain ⟨rfl, rfl⟩ := Prod.mk.inj (Except.ok.inj h)
          obtain ⟨t, later, shape⟩ := List.exists_cons_of_ne_nil nonempty
          refine .inr ⟨rfl, ⟨t, later, shape, ?_⟩, .inr ⟨by simpa using further, after, start, rfl⟩⟩
          rintro rfl
          exact unclosed later shape
      · cases h

/-- A search for a key ends after the closing brace, or after the opening quote of a key. -/
theorem nextKey_ok {first found : Bool} {input rest : List Symbol}
    (h : nextKey first input = .ok (found, rest))
    : found = false ∧ skipSpace input = .char '\x7d' :: rest
      ∨ found = true
        ∧ (first = true ∧ skipSpace input = .char '"' :: rest
          ∨ first = false
            ∧ ∃ after, skipSpace input = .char ',' :: after
                ∧ skipSpace after = .char '"' :: rest) := by
  unfold nextKey at h
  split at h
  · cases h
  · next after closing =>
    obtain ⟨rfl, rfl⟩ := Prod.mk.inj (Except.ok.inj h)
    exact .inl ⟨rfl, closing⟩
  · next s after noClose start =>
    split at h
    · next isFirst =>
      split at h
      · next quote =>
        obtain ⟨rfl, rfl⟩ := Prod.mk.inj (Except.ok.inj h)
        exact .inr ⟨rfl, .inl ⟨isFirst, quote ▸ start⟩⟩
      · cases h
    · next further =>
      split at h
      · next comma =>
        subst comma
        split at h
        · cases h
        · next later quote =>
          obtain ⟨rfl, rfl⟩ := Prod.mk.inj (Except.ok.inj h)
          exact .inr ⟨rfl, .inr ⟨by simpa using further, after, start, quote⟩⟩
        · cases h
        · cases h
      · cases h

/-- The items of a list end at its bracket, or one of them is read and further ones follow. -/
theorem readItems_ok_iff {item : Reader α} {bound : Nat} {first : Bool} {input rest : List Symbol}
    {items : List α}
    : readItems item (bound + 1) first input = .ok (items, rest)
      ↔ (∃ closing,
          nextItem first input = .ok (false, closing) ∧ rest = closing.drop 1 ∧ items = [])
        ∨ ∃ start head middle tail,
            nextItem first input = .ok (true, start)
            ∧ item start = .ok (head, middle)
            ∧ readItems item bound false middle = .ok (tail, rest)
            ∧ items = head :: tail := by
  rw [readItems, bind_ok_iff]
  constructor
  · rintro ⟨⟨more, start⟩, found, later⟩
    have found := orMalformed_eq_ok.mp found
    cases more with
    | false =>
        obtain ⟨rfl, rfl⟩ := Prod.mk.inj (Except.ok.inj later)
        exact .inl ⟨start, found, rfl, rfl⟩
    | true =>
        obtain ⟨⟨head, middle⟩, read, later⟩ := bind_ok_iff.mp later
        obtain ⟨⟨tail, after⟩, others, same⟩ := bind_ok_iff.mp later
        obtain ⟨rfl, rfl⟩ := Prod.mk.inj (Except.ok.inj same)
        exact .inr ⟨start, head, middle, tail, found, read, others, rfl⟩
  · rintro (⟨closing, found, rfl, rfl⟩ | ⟨start, head, middle, tail, found, read, others, rfl⟩)
    · exact ⟨_, orMalformed_eq_ok.mpr found, rfl⟩
    · refine ⟨_, orMalformed_eq_ok.mpr found, bind_ok_iff.mpr ⟨_, read, ?_⟩⟩
      exact bind_ok_iff.mpr ⟨_, others, rfl⟩

/-- The members of an object end at its brace, or one of them is taken in and further ones
follow.
-/
theorem readMembers_ok_iff {step : σ → String → Reader σ} {bound : Nat} {first : Bool}
    {state final : σ} {input rest : List Symbol}
    : readMembers step (bound + 1) first state input = .ok (final, rest)
      ↔ nextKey first input = .ok (false, rest) ∧ final = state
        ∨ ∃ start key value next middle,
            nextKey first input = .ok (true, start)
            ∧ readString start = .ok (key, value)
            ∧ step state key value = .ok (next, middle)
            ∧ readMembers step bound false next middle = .ok (final, rest) := by
  rw [readMembers, bind_ok_iff]
  constructor
  · rintro ⟨⟨more, start⟩, found, later⟩
    have found := orMalformed_eq_ok.mp found
    cases more with
    | false =>
        obtain ⟨rfl, rfl⟩ := Prod.mk.inj (Except.ok.inj later)
        exact .inl ⟨found, rfl⟩
    | true =>
        obtain ⟨⟨key, value⟩, named, later⟩ := bind_ok_iff.mp later
        obtain ⟨⟨next, middle⟩, taken, others⟩ := bind_ok_iff.mp later
        have named := orMalformed_eq_ok.mp named
        exact .inr ⟨start, key, value, next, middle, found, named, taken, others⟩
  · rintro (⟨found, rfl⟩ | ⟨start, key, value, next, middle, found, named, taken, others⟩)
    · exact ⟨_, orMalformed_eq_ok.mpr found, rfl⟩
    · refine ⟨_, orMalformed_eq_ok.mpr found, ?_⟩
      refine bind_ok_iff.mpr ⟨_, orMalformed_eq_ok.mpr named, ?_⟩
      exact bind_ok_iff.mpr ⟨_, taken, others⟩

/-- A key is found and read: its member is taken in, then those that follow. -/
theorem readMembers_next {step : σ → String → Reader σ} {first : Bool}
    {input start value : List Symbol} {key : String} (found : nextKey first input = .ok (true, start))
    (named : readString start = .ok (key, value)) (bound : Nat) (state : σ)
    : readMembers step (bound + 1) first state input
      = step state key value
        >>= fun (next, rest) => readMembers step bound false next rest := by
  rw [readMembers, found]
  change (orMalformed (readString start) >>= _) = _
  rw [named]
  rfl

theorem colon_ok {input rest : List Symbol} (h : colon input = .ok rest)
    : skipSpace input = .char ':' :: rest := by
  unfold colon at h
  split at h
  · next after start => rw [start, Except.ok.inj h]
  · cases h
  · cases h

/-- A member that is collected: a colon, and a value after it. -/
theorem collect_ok {value : Reader α} {before after : List (String × α)} {key : String}
    {input rest : List Symbol} (h : collect value before key input = .ok (after, rest))
    : ∃ start found,
        colon input = .ok start
        ∧ value start = .ok (found, rest)
        ∧ after = before ++ [(key, found)] := by
  obtain ⟨start, separated, h⟩ := bind_ok_iff.mp h
  obtain ⟨⟨found, last⟩, read, same⟩ := bind_ok_iff.mp h
  obtain ⟨rfl, rfl⟩ := Prod.mk.inj (Except.ok.inj same)
  exact ⟨start, found, separated, read, rfl⟩

/-- A value of any kind that is read: a list or an object whose bracket may be opened, or a scalar.
-/
theorem readTree_ok {depth : Nat} {input rest : List Symbol} {j : Json}
    (h : readTree depth input = .ok (j, rest))
    : (∃ less opened items,
        depth = less + 1
        ∧ skipSpace input = .char '[' :: opened
        ∧ readItems (readTree less) (opened.length + 1) true opened = .ok (items, rest)
        ∧ j = .list items)
      ∨ (∃ less opened members,
          depth = less + 1
          ∧ skipSpace input = .char '\x7b' :: opened
          ∧ readMembers (collect (readTree less)) (opened.length + 1) true [] opened
            = .ok (members, rest)
          ∧ j = .object members)
      ∨ readScalar (skipSpace input) = .ok (j, rest)
        ∧ (∀ after, skipSpace input ≠ .char '[' :: after)
        ∧ ∀ after, skipSpace input ≠ .char '\x7b' :: after := by
  unfold readTree at h
  split at h
  · cases h
  · cases h
  · next opened less start =>
    obtain ⟨⟨items, after⟩, read, same⟩ := bind_ok_iff.mp h
    obtain ⟨rfl, rfl⟩ := Prod.mk.inj (Except.ok.inj same)
    exact .inl ⟨_, opened, items, rfl, start, read, rfl⟩
  · next opened less start =>
    obtain ⟨⟨members, after⟩, read, same⟩ := bind_ok_iff.mp h
    obtain ⟨rfl, rfl⟩ := Prod.mk.inj (Except.ok.inj same)
    exact .inr (.inl ⟨_, opened, members, rfl, start, read, rfl⟩)
  · next noList noObject noList' noObject' =>
    refine .inr (.inr ⟨orMalformed_eq_ok.mp h, ?_, ?_⟩)
    · intro after start
      exact (Nat.eq_zero_or_eq_succ_pred _).elim (noList after start) (noList' after _ start)
    · intro after start
      exact (Nat.eq_zero_or_eq_succ_pred _).elim (noObject after start) (noObject' after _ start)

/-- What is read as a scalar has no brackets. -/
theorem readScalar_flat {input rest : List Symbol} {j : Json}
    (h : readScalar input = .ok (j, rest))
    : j.nesting = 0 := by
  have flat {β : Type} {result : Except Fault β} {answer : β → Json × List Symbol}
      (scalar : ∀ found, (answer found).1.nesting = 0) (h : result.map answer = .ok (j, rest))
      : j.nesting = 0 := by
    obtain ⟨found, -, same⟩ := map_ok_iff.mp h
    exact (congrArg (fun answer => answer.1.nesting) same).symm.trans (scalar found)
  unfold readScalar at h
  split at h
  · exact flat (fun _ => by rw [nesting]) h
  · exact flat (fun _ => by rw [nesting]) h
  · exact flat (fun _ => by rw [nesting]) h
  · exact flat (fun _ => by rw [nesting]) h
  · cases h
  · split at h
    · exact flat (fun _ => by rw [nesting]) h
    · cases h

/-- A whole text is read when only blanks follow the value at its front. -/
theorem readWhole_ok_iff {reader : Reader α} {input : List Symbol} {value : α}
    : readWhole reader input = .ok value
      ↔ ∃ rest, reader input = .ok (value, rest) ∧ (skipSpace rest).isEmpty = true := by
  rw [readWhole, bind_ok_iff]
  constructor
  · rintro ⟨⟨found, rest⟩, read, ended⟩
    dsimp only at ended
    split at ended
    · next blank =>
      obtain rfl := Except.ok.inj ended
      exact ⟨rest, read, blank⟩
    · cases ended
  · rintro ⟨rest, read, blank⟩
    exact ⟨(value, rest), read, if_pos blank⟩

end NodeTrial.Json
