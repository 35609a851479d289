import NodeTrial.Proofs.Json.Agreement
import NodeTrial.Proofs.Json.LocalWords
import NodeTrial.Proofs.Json.Tree

/-! Values go by what they take: scalars, the items of lists and the members of objects, and from
them values of any kind. The loops may take any bound that is large enough.
-/

namespace NodeTrial.Json

open Text (Symbol)

variable {α σ : Type}

-----------------------------------------------------------------------------------------
-- Scalars
-----------------------------------------------------------------------------------------

theorem readNumber_start {s : Symbol} {input rest : List Symbol} {n : Number}
    (read : readNumber (s :: input) = .ok (n, rest))
    : s = .char '-' ∨ (digitOf? s).isSome = true := by
  obtain ⟨⟨numeral, after⟩, scanned, -⟩ := bind_ok_iff.mp read
  exact scanNumeral_start scanned

/-- A word of letters for a scalar, after its first letter. -/
def Word (first : Char) (letters : List Char) : Reading :=
  fun input rest => ∃ after, input = .char first :: after ∧ literal after letters = .ok rest

/-- What a number starts with starts no other scalar. -/
theorem readScalar_of_readNumber {input rest : List Symbol} {n : Number}
    (read : readNumber input = .ok (n, rest))
    : readScalar input = .ok (.number n, rest) := by
  cases input with
  | nil => cases read
  | cons s input =>
      have numeric := readNumber_start read
      have different (c : Char)
          (other : ¬ (Symbol.char c = .char '-' ∨ (digitOf? (.char c)).isSome))
          : s ≠ .char c :=
        fun same => other (same ▸ numeric)
      unfold readScalar
      split
      case h_5 none => cases none
      case h_6 same =>
        obtain ⟨rfl, rfl⟩ := List.cons.inj same
        rw [if_pos numeric]
        exact map_ok_iff.mpr ⟨_, read, rfl⟩
      all_goals
        next same => exact absurd (List.cons.inj same).1 (different _ (by decide))

/-- A scalar is one of the three words, a string or a number. -/
theorem readScalar_ok_iff {input rest : List Symbol} {j : Json}
    : readScalar input = .ok (j, rest)
      ↔ (j = .null ∧ Word 'n' ['u', 'l', 'l'] input rest)
        ∨ (j = .bool true ∧ Word 't' ['r', 'u', 'e'] input rest)
        ∨ (j = .bool false ∧ Word 'f' ['a', 'l', 's', 'e'] input rest)
        ∨ (∃ text, j = .text text
          ∧ ∃ after, input = .char '"' :: after ∧ readString after = .ok (text, rest))
        ∨ ∃ n, j = .number n ∧ readNumber input = .ok (n, rest) := by
  constructor
  · intro h
    unfold readScalar at h
    split at h
    · next after =>
      obtain ⟨_, read, same⟩ := map_ok_iff.mp h
      obtain ⟨rfl, rfl⟩ := Prod.mk.inj same
      exact .inl ⟨rfl, after, rfl, read⟩
    · next after =>
      obtain ⟨_, read, same⟩ := map_ok_iff.mp h
      obtain ⟨rfl, rfl⟩ := Prod.mk.inj same
      exact .inr (.inl ⟨rfl, after, rfl, read⟩)
    · next after =>
      obtain ⟨_, read, same⟩ := map_ok_iff.mp h
      obtain ⟨rfl, rfl⟩ := Prod.mk.inj same
      exact .inr (.inr (.inl ⟨rfl, after, rfl, read⟩))
    · next after =>
      obtain ⟨⟨text, _⟩, read, same⟩ := map_ok_iff.mp h
      obtain ⟨rfl, rfl⟩ := Prod.mk.inj same
      exact .inr (.inr (.inr (.inl ⟨text, rfl, after, rfl, read⟩)))
    · cases h
    · split at h
      · obtain ⟨⟨n, _⟩, read, same⟩ := map_ok_iff.mp h
        obtain ⟨rfl, rfl⟩ := Prod.mk.inj same
        exact .inr (.inr (.inr (.inr ⟨n, rfl, read⟩)))
      · cases h
  · rintro (⟨rfl, after, rfl, read⟩ | ⟨rfl, after, rfl, read⟩ | ⟨rfl, after, rfl, read⟩
      | ⟨text, rfl, after, rfl, read⟩ | ⟨n, rfl, read⟩)
    · exact map_ok_iff.mpr ⟨_, read, rfl⟩
    · exact map_ok_iff.mpr ⟨_, read, rfl⟩
    · exact map_ok_iff.mpr ⟨_, read, rfl⟩
    · exact map_ok_iff.mpr ⟨_, read, rfl⟩
    · exact readScalar_of_readNumber read

namespace Local

theorem readScalar (j : Json) : Local fun input rest => Json.readScalar input = .ok (j, rest) := by
  have word (first : Char) (letters : List Char) : Local (Word first letters) :=
    (symbol _).seq (literal letters)
  refine Local.congr ?_ fun _ _ => readScalar_ok_iff
  refine ((word _ _).given _).or (((word _ _).given _).or (((word _ _).given _).or (.or ?_ ?_)))
  · exact some fun text => ((symbol _).seq (readString text)).given _
  · exact some fun n => (readNumber n).given _

/-- A loop goes by what it takes if it does for every bound, and a larger bound does no harm. -/
theorem enough {p : Nat → Reading} {bound : List Symbol → Nat} (each : ∀ n, Local (p n))
    (large : ∀ n input rest, p n input rest → p (bound input) input rest)
    : Local fun input rest => p (bound input) input rest := by
  intro input rest read
  obtain ⟨taken, whole, again⟩ := each _ _ _ read
  exact ⟨taken, whole, fun other replaces => large _ _ _ (again other replaces)⟩

end Local

-----------------------------------------------------------------------------------------
-- Lists
-----------------------------------------------------------------------------------------

/-- An item from its first symbol, which does not close the list. -/
def Item (item : Reader α) (value : α) : Reading :=
  fun input rest =>
    ∃ s after, skipSpace input = s :: after ∧ s ≠ .char ']' ∧ item (s :: after) = .ok (value, rest)

/-- The next item of a list: the first one, or one after a comma. -/
def NextItem (item : Reader α) (first : Bool) (value : α) : Reading :=
  fun input rest =>
    (first = true ∧ Item item value input rest)
    ∨ first = false ∧ ∃ after, skipSpace input = .char ',' :: after ∧ Item item value after rest

theorem nextItem_false_iff {first : Bool} {input closing : List Symbol}
    : nextItem first input = .ok (false, closing)
      ↔ skipSpace input = closing ∧ ∃ after, closing = .char ']' :: after := by
  constructor
  · intro h
    obtain ⟨-, ended⟩ | ⟨impossible, -⟩ := nextItem_ok h
    · exact ended
    · cases impossible
  · rintro ⟨start, after, rfl⟩
    simp only [nextItem, start]

theorem nextItem_true_iff {first : Bool} {input start : List Symbol}
    : nextItem first input = .ok (true, start)
      ↔ (∃ s after, start = s :: after ∧ s ≠ .char ']')
        ∧ (first = true ∧ skipSpace input = start
          ∨ first = false ∧ ∃ after, skipSpace input = .char ',' :: after
              ∧ skipSpace after = start) := by
  constructor
  · intro h
    obtain ⟨impossible, -⟩ | ⟨-, found⟩ := nextItem_ok h
    · cases impossible
    · exact found
  · rintro ⟨⟨s, after, rfl, notClosed⟩, ⟨rfl, start⟩ | ⟨rfl, more, comma, start⟩⟩
    · unfold nextItem
      rw [start]
      split
      · next none => cases none
      · next close => exact absurd (List.cons.inj close).1 notClosed
      · next same =>
        obtain ⟨rfl, rfl⟩ := List.cons.inj same
        rfl
    · unfold nextItem
      rw [comma]
      split
      · next none => cases none
      · next close => exact absurd (List.cons.inj close).1 (by decide)
      · next same =>
        obtain ⟨rfl, rfl⟩ := List.cons.inj same
        rw [if_neg Bool.false_ne_true, if_pos rfl, start]
        split
        · next none => cases none
        · next close => exact absurd (List.cons.inj close).1 notClosed
        · rfl

theorem nextItem_read_iff {item : Reader α} {first : Bool} {value : α} {input rest : List Symbol}
    : NextItem item first value input rest
      ↔ ∃ start, nextItem first input = .ok (true, start) ∧ item start = .ok (value, rest) := by
  constructor
  · rintro (⟨rfl, s, after, start, unclosed, read⟩ | ⟨rfl, more, comma, s, after, start, unclosed, read⟩)
    · exact ⟨_, nextItem_true_iff.mpr ⟨⟨s, after, rfl, unclosed⟩, .inl ⟨rfl, start⟩⟩, read⟩
    · exact ⟨_, nextItem_true_iff.mpr ⟨⟨s, after, rfl, unclosed⟩, .inr ⟨rfl, more, comma, start⟩⟩,
        read⟩
  · rintro ⟨start, found, read⟩
    obtain ⟨⟨s, after, rfl, unclosed⟩, ⟨rfl, start⟩ | ⟨rfl, more, comma, start⟩⟩ :=
      nextItem_true_iff.mp found
    · exact .inl ⟨rfl, s, after, start, unclosed, read⟩
    · exact .inr ⟨rfl, more, comma, s, after, start, unclosed, read⟩

theorem readItems_succ_iff {item : Reader α} {bound : Nat} {first : Bool}
    {input rest : List Symbol} {items : List α}
    : readItems item (bound + 1) first input = .ok (items, rest)
      ↔ (items = [] ∧ skipSpace input = .char ']' :: rest)
        ∨ ∃ head tail, items = head :: tail
          ∧ ∃ middle, NextItem item first head input middle
            ∧ readItems item bound false middle = .ok (tail, rest) := by
  rw [readItems_ok_iff]
  constructor
  · rintro (⟨closing, found, rfl, rfl⟩ | ⟨start, head, middle, tail, found, read, others, rfl⟩)
    · obtain ⟨start, after, rfl⟩ := nextItem_false_iff.mp found
      exact .inl ⟨rfl, start⟩
    · exact .inr ⟨head, tail, rfl, middle, nextItem_read_iff.mpr ⟨start, found, read⟩, others⟩
  · rintro (⟨rfl, close⟩ | ⟨head, tail, rfl, middle, next, others⟩)
    · exact .inl ⟨_, nextItem_false_iff.mpr ⟨close, rest, rfl⟩, rfl, rfl⟩
    · obtain ⟨start, found, read⟩ := nextItem_read_iff.mp next
      exact .inr ⟨start, head, middle, tail, found, read, others, rfl⟩

namespace Local

section Items

variable {item : Reader α} (each : ∀ value, Local fun input rest => item input = .ok (value, rest))
  (advances : ∀ value, Advances fun input rest => item input = .ok (value, rest))
include each advances

theorem nextItem (first : Bool) (value : α) : Local (NextItem item first value) := by
  have front : Local (Item item value) := (each value).found (advances value) (· ≠ .char ']')
  exact (front.given _).or (((spaced _).seq front).given _)

/-- Items within a bound, by induction on it. -/
theorem readItems (bound : Nat) (first : Bool) (items : List α)
    : Local fun input rest => Json.readItems item bound first input = .ok (items, rest) := by
  induction bound generalizing first items with
  | zero => exact never fun _ _ => nofun
  | succ bound ih =>
      refine Local.congr ?_ fun _ _ => readItems_succ_iff
      refine ((spaced _).given _).or (some fun head => some fun tail => .given ?_ _)
      exact (nextItem each advances first head).seq (ih false tail)

theorem allItems (first : Bool) (items : List α)
    : Local fun input rest =>
        Json.readItems item (input.length + 1) first input = .ok (items, rest) :=
  enough (readItems each advances · first items) fun _ _ _ read =>
    Shape.readItems_bound (advances _ _ _) read (Nat.lt_succ_self _)

end Items

end Local

-----------------------------------------------------------------------------------------
-- Objects
-----------------------------------------------------------------------------------------

/-- A key from its opening quote. -/
def Key (key : String) : Reading :=
  fun input rest => ∃ after, skipSpace input = .char '"' :: after ∧ readString after = .ok (key, rest)

/-- The next key of an object: the first one, or one after a comma. -/
def NextKey (first : Bool) (key : String) : Reading :=
  fun input rest =>
    (first = true ∧ Key key input rest)
    ∨ first = false ∧ ∃ after, skipSpace input = .char ',' :: after ∧ Key key after rest

theorem nextKey_false_iff {first : Bool} {input rest : List Symbol}
    : nextKey first input = .ok (false, rest) ↔ skipSpace input = .char '\x7d' :: rest := by
  constructor
  · intro h
    obtain ⟨-, ended⟩ | ⟨impossible, -⟩ := nextKey_ok h
    · exact ended
    · cases impossible
  · intro start
    simp only [nextKey, start]

theorem nextKey_true_iff {first : Bool} {input rest : List Symbol}
    : nextKey first input = .ok (true, rest)
      ↔ first = true ∧ skipSpace input = .char '"' :: rest
        ∨ first = false ∧ ∃ after, skipSpace input = .char ',' :: after
            ∧ skipSpace after = .char '"' :: rest := by
  constructor
  · intro h
    obtain ⟨impossible, -⟩ | ⟨-, found⟩ := nextKey_ok h
    · cases impossible
    · exact found
  · rintro (⟨rfl, start⟩ | ⟨rfl, after, comma, start⟩)
    · simp only [nextKey, start]
      rfl
    · unfold nextKey
      rw [comma]
      split
      · next none => cases none
      · next close => exact absurd (List.cons.inj close).1 (by decide)
      · next same =>
        obtain ⟨rfl, rfl⟩ := List.cons.inj same
        rw [if_neg Bool.false_ne_true, if_pos rfl, start]
        rfl

/-- The members of an object end at its brace, or one of them is taken in and others follow. -/
theorem readMembers_succ_iff {step : σ → String → Reader σ} {bound : Nat} {first : Bool}
    {state final : σ} {input rest : List Symbol}
    : readMembers step (bound + 1) first state input = .ok (final, rest)
      ↔ (final = state ∧ skipSpace input = .char '\x7d' :: rest)
        ∨ ∃ key next afterKey, NextKey first key input afterKey
          ∧ ∃ middle, step state key afterKey = .ok (next, middle)
            ∧ readMembers step bound false next middle = .ok (final, rest) := by
  rw [readMembers_ok_iff]
  constructor
  · rintro (⟨found, rfl⟩ | ⟨start, key, afterKey, next, middle, found, named, taken, others⟩)
    · exact .inl ⟨rfl, nextKey_false_iff.mp found⟩
    · refine .inr ⟨key, next, afterKey, ?_, middle, taken, others⟩
      exact (nextKey_true_iff.mp found).imp (fun ⟨one, quote⟩ => ⟨one, start, quote, named⟩)
        fun ⟨more, after, comma, quote⟩ => ⟨more, after, comma, start, quote, named⟩
  · rintro (⟨rfl, close⟩ | ⟨key, next, afterKey, found, middle, taken, others⟩)
    · exact .inl ⟨nextKey_false_iff.mpr close, rfl⟩
    · obtain ⟨rfl, start, quote, named⟩ | ⟨rfl, after, comma, start, quote, named⟩ := found
      · exact .inr ⟨start, key, afterKey, next, middle,
          nextKey_true_iff.mpr (.inl ⟨rfl, quote⟩), named, taken, others⟩
      · exact .inr ⟨start, key, afterKey, next, middle,
          nextKey_true_iff.mpr (.inr ⟨rfl, after, comma, quote⟩), named, taken, others⟩

theorem colon_ok_iff {input rest : List Symbol}
    : colon input = .ok rest ↔ skipSpace input = .char ':' :: rest :=
  ⟨colon_ok, fun start => by simp only [colon, start]⟩

theorem collect_ok_iff {value : Reader α} {before after : List (String × α)} {key : String}
    {input rest : List Symbol}
    : collect value before key input = .ok (after, rest)
      ↔ ∃ found, after = before ++ [(key, found)]
          ∧ ∃ start, skipSpace input = .char ':' :: start ∧ value start = .ok (found, rest) := by
  constructor
  · intro h
    obtain ⟨start, found, separated, read, rfl⟩ := collect_ok h
    exact ⟨found, rfl, start, colon_ok separated, read⟩
  · rintro ⟨found, rfl, start, separated, read⟩
    exact bind_ok_iff.mpr ⟨start, colon_ok_iff.mpr separated, bind_ok_iff.mpr ⟨_, read, rfl⟩⟩

namespace Local

theorem key (name : String) : Local (Key name) :=
  (spaced _).seq (readString name)

theorem nextKey (first : Bool) (name : String) : Local (NextKey first name) :=
  ((key name).given _).or (((spaced _).seq (key name)).given _)

theorem collect {value : Reader α}
    (each : ∀ found, Local fun input rest => value input = .ok (found, rest))
    (before : List (String × α)) (name : String) (after : List (String × α))
    : Local fun input rest => Json.collect value before name input = .ok (after, rest) :=
  (some fun found => ((spaced _).seq (each found)).given _).congr fun _ _ => collect_ok_iff

end Local

theorem skipSpace_lt {input rest : List Symbol} {s : Symbol} (start : skipSpace input = s :: rest)
    : rest.length < input.length := by
  have short := skipSpace_length input
  rw [start, List.length_cons] at short
  omega

theorem Key.advances {name : String} : Advances (Key name) := by
  rintro input rest ⟨after, quote, read⟩
  have short := (Local.readString name).length_le read
  have less := skipSpace_lt quote
  omega

theorem NextKey.advances {first : Bool} {name : String} : Advances (NextKey first name) := by
  rintro input rest (⟨-, found⟩ | ⟨-, after, comma, found⟩)
  · exact Key.advances _ _ found
  · have less := skipSpace_lt comma
    have shorter := Key.advances _ _ found
    omega

section Members

variable {step : σ → String → Reader σ}
  (each : ∀ state name next, Local fun input rest => step state name input = .ok (next, rest))
include each

/-- Members that are taken in within some bound are within any bound above the length of the text:
each of them takes a symbol. By induction on the first bound.
-/
theorem readMembers_bound {bound : Nat}
    : ∀ {first : Bool} {state final : σ} {input rest : List Symbol} {enough : Nat},
        readMembers step bound first state input = .ok (final, rest) →
        input.length < enough →
        readMembers step enough first state input = .ok (final, rest) := by
  induction bound with
  | zero =>
      intro _ _ _ _ _ _ h
      cases h
  | succ bound ih =>
      intro first state final input rest enough h large
      cases enough with
      | zero => exact absurd large (Nat.not_lt_zero _)
      | succ enough =>
          rcases readMembers_succ_iff.mp h with
            ended | ⟨key, next, afterKey, found, middle, taken, others⟩
          · exact readMembers_succ_iff.mpr (.inl ended)
          · have less := NextKey.advances _ _ found
            have short := (each _ _ _).length_le taken
            exact readMembers_succ_iff.mpr
              (.inr ⟨key, next, afterKey, found, middle, taken, ih others (by omega)⟩)

namespace Local

/-- Members within a bound, by induction on it. -/
theorem readMembers (bound : Nat) (first : Bool) (state final : σ)
    : Local fun input rest => Json.readMembers step bound first state input = .ok (final, rest) := by
  induction bound generalizing first state with
  | zero => exact never fun _ _ => nofun
  | succ bound ih =>
      refine Local.congr ?_ fun _ _ => readMembers_succ_iff
      refine ((spaced _).given _).or (some fun name => some fun next => ?_)
      exact (nextKey first name).seq ((each state name next).seq (ih false next))

theorem allMembers (first : Bool) (state final : σ)
    : Local fun input rest =>
        Json.readMembers step (input.length + 1) first state input = .ok (final, rest) :=
  enough (readMembers each · first state final) fun _ _ _ read =>
    readMembers_bound each read (Nat.lt_succ_self _)

end Local

end Members

-----------------------------------------------------------------------------------------
-- Values of any kind
-----------------------------------------------------------------------------------------

theorem readTree_skipSpace (depth : Nat) (input : List Symbol)
    : readTree depth (skipSpace input) = readTree depth input := by
  unfold readTree
  rw [skipSpace_skipSpace]

theorem readTree_ok_iff {depth : Nat} {input rest : List Symbol} {j : Json}
    : readTree depth input = .ok (j, rest)
      ↔ (∃ less items, (depth = less + 1 ∧ j = .list items)
          ∧ ∃ opened, skipSpace input = .char '[' :: opened
            ∧ readItems (readTree less) (opened.length + 1) true opened = .ok (items, rest))
        ∨ (∃ less members, (depth = less + 1 ∧ j = .object members)
          ∧ ∃ opened, skipSpace input = .char '\x7b' :: opened
            ∧ readMembers (collect (readTree less)) (opened.length + 1) true [] opened
              = .ok (members, rest))
        ∨ ∃ s after, skipSpace input = s :: after ∧ True ∧ readScalar (s :: after) = .ok (j, rest) := by
  constructor
  · intro h
    obtain ⟨less, opened, items, rfl, start, read, rfl⟩
      | ⟨less, opened, members, rfl, start, read, rfl⟩ | ⟨read, -⟩ := readTree_ok h
    · exact .inl ⟨less, items, ⟨rfl, rfl⟩, opened, start, read⟩
    · exact .inr (.inl ⟨less, members, ⟨rfl, rfl⟩, opened, start, read⟩)
    · cases start : skipSpace input with
      | nil =>
          rw [start] at read
          cases read
      | cons s after => exact .inr (.inr ⟨s, after, rfl, trivial, start ▸ read⟩)
  · rintro (⟨less, items, ⟨rfl, rfl⟩, opened, start, read⟩
      | ⟨less, members, ⟨rfl, rfl⟩, opened, start, read⟩ | ⟨s, after, start, -, read⟩)
    · rw [← readTree_skipSpace, start, readTree_openList]
      exact map_ok_iff.mpr ⟨_, read, rfl⟩
    · rw [← readTree_skipSpace, start, readTree_openObject]
      exact map_ok_iff.mpr ⟨_, read, rfl⟩
    · unfold readTree
      rw [start]
      split
      case h_5 => exact orMalformed_eq_ok.mpr read
      all_goals
        next opened =>
        rw [opened] at read
        cases read

theorem readTree_advances (depth : Nat) (j : Json)
    : Advances fun input rest => readTree depth input = .ok (j, rest) :=
  fun _ _ read => (passes_of_readTree read).1

theorem readScalar_advances (j : Json)
    : Advances fun input rest => readScalar input = .ok (j, rest) := by
  have word {first : Char} {letters : List Char} : Advances (Word first letters) := by
    rintro _ rest ⟨after, rfl, read⟩
    exact Nat.lt_succ_of_le (literal_length read)
  intro input rest read
  rcases readScalar_ok_iff.mp read with
    ⟨-, read⟩ | ⟨-, read⟩ | ⟨-, read⟩ | ⟨text, -, after, rfl, named⟩ | ⟨n, -, number⟩
  · exact word _ _ read
  · exact word _ _ read
  · exact word _ _ read
  · exact Nat.lt_succ_of_le ((Local.readString text).length_le named)
  · exact readNumber_length number

namespace Local

/-- Values of any kind, by induction on the brackets that may be open. -/
theorem readTree (depth : Nat) (j : Json)
    : Local fun input rest => Json.readTree depth input = .ok (j, rest) := by
  induction depth generalizing j with
  | zero =>
      refine Local.congr ?_ fun _ _ => readTree_ok_iff
      refine .or (.some fun less => .some fun items => ?_)
        (.or (.some fun less => .some fun members => ?_) ?_)
      · exact never fun _ _ h => nomatch h.1.1
      · exact never fun _ _ h => nomatch h.1.1
      · exact (readScalar j).found (readScalar_advances j) fun _ => True
  | succ depth ih =>
      refine Local.congr ?_ fun _ _ => readTree_ok_iff
      refine .or (.some fun less => .some fun items => ?_)
        (.or (.some fun less => .some fun members => ?_) ?_)
      · by_cases same : depth = less
        · subst same
          exact ((spaced _).seq (allItems ih (readTree_advances depth) true items)).given _
        · exact never fun _ _ h => same (Nat.succ.inj h.1.1)
      · by_cases same : depth = less
        · subst same
          exact ((spaced _).seq (allMembers (collect ih) true [] members)).given _
        · exact never fun _ _ h => same (Nat.succ.inj h.1.1)
      · exact (readScalar j).found (readScalar_advances j) fun _ => True

end Local

end NodeTrial.Json
