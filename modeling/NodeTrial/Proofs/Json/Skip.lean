import NodeTrial.Proofs.Json.Reader

/-! Passing over. What is read as a value is passed over up to the same rest: passing over checks
less than reading, and the bound on its steps is never met.
-/

namespace NodeTrial.Json

open Text (Symbol)

variable {α : Type}

-----------------------------------------------------------------------------------------
-- Words
-----------------------------------------------------------------------------------------

/-- A symbol put in front of what was read changes nothing of what follows. -/
theorem prepend_ok {s : Symbol} {result : Except Fault (List Symbol × List Symbol)}
    {read rest : List Symbol} (h : result.map (prepend s) = .ok (read, rest))
    : ∃ tail, result = .ok (tail, rest) := by
  obtain ⟨⟨tail, after⟩, found, same⟩ := map_ok_iff.mp h
  obtain ⟨-, rfl⟩ := Prod.mk.inj same
  exact ⟨tail, found⟩

theorem skipString_code {a b c d : Symbol} (rest : List Symbol)
    (digits : (hexFour? a b c d).isSome = true)
    : skipString (.char '\\' :: .char 'u' :: a :: b :: c :: d :: rest) = skipString rest := by
  rw [skipString, if_pos digits]

/-- A string that is read is passed over up to the same quote, by the cases of its symbols. -/
theorem skipString_of_stringSymbols {input read rest : List Symbol}
    (h : stringSymbols input = .ok (read, rest))
    : skipString input = .ok rest := by
  fun_induction stringSymbols input generalizing read with
  | case2 after =>
      obtain ⟨-, rfl⟩ := Prod.mk.inj (Except.ok.inj h)
      rw [skipString]
  | case9 a b c d code digits _ _ e f g k after low lowDigits _ ih =>
      -- A surrogate pair is read at once and passed over as two escapes.
      obtain ⟨tail, read⟩ := prepend_ok h
      rw [skipString_code _ (by rw [digits]; rfl), skipString_code _ (by rw [lowDigits]; rfl)]
      exact ih read
  | case13 a b c d after code digits _ _ ih =>
      obtain ⟨tail, read⟩ := prepend_ok h
      rw [skipString_code _ (by rw [digits]; rfl)]
      exact ih read
  | case16 mark after _ noCode c letter ih =>
      obtain ⟨tail, read⟩ := prepend_ok h
      rw [skipString, letter, Option.isSome_some, if_pos rfl]
      · exact ih read
      · exact fun _ _ _ _ _ same _ => noCode same
      · exact noCode
  | case18 c after noQuote _ _ _ noEscape printable ih =>
      obtain ⟨tail, read⟩ := prepend_ok h
      rw [skipString, if_neg printable]
      · exact ih read
      · exact noQuote
      all_goals grind
  | case19 b after ih =>
      obtain ⟨tail, read⟩ := prepend_ok h
      rw [skipString]
      exact ih read
  | _ => cases h

theorem skipString_of_readString {input rest : List Symbol} {text : String}
    (h : readString input = .ok (text, rest))
    : skipString input = .ok rest := by
  obtain ⟨⟨read, after⟩, scanned, decoded⟩ := bind_ok_iff.mp h
  dsimp only at decoded
  split at decoded
  · obtain ⟨-, rfl⟩ := Prod.mk.inj (Except.ok.inj decoded)
    exact skipString_of_stringSymbols scanned
  · cases decoded

theorem skipNumeral_of_readNumber {input rest : List Symbol} {n : Number}
    (h : readNumber input = .ok (n, rest))
    : skipNumeral input = .ok rest := by
  obtain ⟨⟨numeral, after⟩, scanned, valued⟩ := bind_ok_iff.mp h
  obtain ⟨value, -, same⟩ := bind_ok_iff.mp valued
  obtain ⟨-, rfl⟩ := Prod.mk.inj (Except.ok.inj same)
  rw [skipNumeral, scanned]

-----------------------------------------------------------------------------------------
-- Lengths
-----------------------------------------------------------------------------------------

theorem skipSpace_length (input : List Symbol) : (skipSpace input).length ≤ input.length :=
  (List.dropWhile_sublist _).length_le

theorem skipSpace_skipSpace (input : List Symbol)
    : skipSpace (skipSpace input) = skipSpace input := by
  induction input with
  | nil => rfl
  | cons s rest ih =>
      by_cases blank : isSpace s = true
      · simpa [skipSpace, blank] using ih
      · rw [Bool.not_eq_true] at blank
        rw [skipSpace_cons rest blank, skipSpace_cons rest blank]

theorem literal_length {cs : List Char} {input rest : List Symbol}
    (h : literal input cs = .ok rest)
    : rest.length ≤ input.length := by
  induction cs generalizing input with
  | nil =>
      rw [literal] at h
      obtain rfl := Except.ok.inj h
      exact Nat.le_refl _
  | cons c cs ih =>
      cases input with
      | nil => cases h
      | cons s after =>
          rw [literal] at h
          split at h
          · exact Nat.le_succ_of_le (ih h)
          · cases h

theorem skipString_length {input rest : List Symbol} (h : skipString input = .ok rest)
    : rest.length < input.length := by
  fun_induction skipString input with
  | case2 after =>
      obtain rfl := Except.ok.inj h
      exact Nat.lt_succ_self _
  | case4 a b c d after digits ih =>
      have shorter := ih h
      simp only [List.length_cons]
      omega
  | case7 mark after _ _ letter ih =>
      have shorter := ih h
      simp only [List.length_cons]
      omega
  | case10 c after _ _ _ _ _ _ ih => exact Nat.lt_succ_of_lt (ih h)
  | case11 b after ih => exact Nat.lt_succ_of_lt (ih h)
  | _ => cases h

theorem takeDigits_length (input : List Symbol)
    : (takeDigits input).1.length + (takeDigits input).2.length = input.length := by
  fun_induction takeDigits input <;> grind

theorem someDigits_length {input rest : List Symbol} {digits : List Nat}
    (h : someDigits input = .ok (digits, rest))
    : rest.length < input.length := by
  have taken := takeDigits_length input
  unfold someDigits at h
  split at h
  · next d ds after same =>
    obtain ⟨-, rfl⟩ := Prod.mk.inj (Except.ok.inj h)
    simp only [same, List.length_cons] at taken
    omega
  · cases h
  · cases h

theorem wholePart_length {input rest : List Symbol} {digits : List Nat}
    (h : wholePart input = .ok (digits, rest))
    : rest.length < input.length := by
  obtain ⟨⟨found, after⟩, some, same⟩ := bind_ok_iff.mp h
  have shorter := someDigits_length some
  split at same
  · cases same
  · obtain ⟨-, rfl⟩ := Prod.mk.inj (Except.ok.inj same)
    exact shorter

theorem fractionPart_length {input rest : List Symbol} {digits : List Nat}
    (h : fractionPart input = .ok (digits, rest))
    : rest.length ≤ input.length := by
  unfold fractionPart at h
  split at h
  · exact Nat.le_succ_of_le (Nat.le_of_lt (someDigits_length h))
  · obtain ⟨-, rfl⟩ := Prod.mk.inj (Except.ok.inj h)
    exact Nat.le_refl _

theorem exponentPart_length {input rest : List Symbol} {exponent : Option (Bool × List Nat)}
    (h : exponentPart input = .ok (exponent, rest))
    : rest.length ≤ input.length := by
  unfold exponentPart at h
  split at h
  case h_3 =>
    obtain ⟨-, rfl⟩ := Prod.mk.inj (Except.ok.inj h)
    exact Nat.le_refl _
  -- After either mark there may be a sign, and then there are digits.
  all_goals
    split at h
    next negative unsigned sign =>
    obtain ⟨⟨digits, after⟩, some, same⟩ := bind_ok_iff.mp h
    obtain ⟨-, rfl⟩ := Prod.mk.inj (Except.ok.inj same)
    have shorter := someDigits_length some
    split at sign
    all_goals
      obtain ⟨-, rfl⟩ := Prod.mk.inj sign
      simp only [List.length_cons]
      omega

theorem scanNumeral_length {input rest : List Symbol} {n : Numeral}
    (h : scanNumeral input = .ok (n, rest))
    : rest.length < input.length := by
  unfold scanNumeral at h
  split at h
  next negative unsigned sign =>
  obtain ⟨⟨whole, afterWhole⟩, wholeRead, h⟩ := bind_ok_iff.mp h
  obtain ⟨⟨fraction, afterFraction⟩, fractionRead, h⟩ := bind_ok_iff.mp h
  obtain ⟨⟨exponent, afterExponent⟩, exponentRead, h⟩ := bind_ok_iff.mp h
  obtain ⟨-, rfl⟩ := Prod.mk.inj (Except.ok.inj h)
  have first := wholePart_length wholeRead
  have second := fractionPart_length fractionRead
  have third := exponentPart_length exponentRead
  have short : unsigned.length ≤ input.length := by
    split at sign
    · obtain ⟨-, rfl⟩ := Prod.mk.inj sign
      exact Nat.le_succ _
    · obtain ⟨-, rfl⟩ := Prod.mk.inj sign
      exact Nat.le_refl _
  exact Nat.lt_of_le_of_lt third
    (Nat.lt_of_le_of_lt second (Nat.lt_of_lt_of_le first short))

theorem readNumber_length {input rest : List Symbol} {n : Number}
    (h : readNumber input = .ok (n, rest))
    : rest.length < input.length := by
  obtain ⟨⟨numeral, after⟩, scanned, valued⟩ := bind_ok_iff.mp h
  obtain ⟨value, -, same⟩ := bind_ok_iff.mp valued
  obtain ⟨-, rfl⟩ := Prod.mk.inj (Except.ok.inj same)
  exact scanNumeral_length scanned

-----------------------------------------------------------------------------------------
-- Values
-----------------------------------------------------------------------------------------

/-- Blanks before a value do not change how it is passed over. -/
theorem skipValue_skipSpace (bound : Nat) (input : List Symbol)
    : skipValue bound (skipSpace input) = skipValue bound input := by
  cases bound with
  | zero => rfl
  | succ bound => rw [skipValue, skipSpace_skipSpace, skipValue]

theorem skipItems_skipSpace (bound : Nat) (input : List Symbol)
    : skipItems bound (skipSpace input) = skipItems bound input := by
  cases bound with
  | zero => rfl
  | succ bound => rw [skipItems, skipValue_skipSpace, skipItems]

theorem skipMembers_skipSpace (bound : Nat) (input : List Symbol)
    : skipMembers bound (skipSpace input) = skipMembers bound input := by
  cases bound with
  | zero => rfl
  | succ bound => rw [skipMembers, skipSpace_skipSpace, skipMembers]

/-- A value is passed over: it takes at least one symbol off the text, and at most two steps a
symbol.
-/
def Passes (input rest : List Symbol) : Prop :=
  rest.length < input.length
  ∧ ∀ bound, 2 * (input.length - rest.length) ≤ bound → skipValue bound input = .ok rest

/-- A value is passed over if it is from its first symbol on. -/
theorem Passes.of_start {s : Symbol} {input after rest : List Symbol}
    (start : skipSpace input = s :: after) (shorter : rest.length ≤ after.length)
    (skips
      : ∀ bound, 2 * (after.length - rest.length) < bound →
          skipValue (bound + 1) (s :: after) = .ok rest)
    : Passes input rest := by
  have short := skipSpace_length input
  rw [start, List.length_cons] at short
  refine ⟨by omega, ?_⟩
  rintro (_ | bound) enough
  · omega
  · rw [← skipValue_skipSpace, start]
    exact skips bound (by omega)

/-- A minus sign or a digit starts a number for a value that is passed over. -/
theorem skipValue_numeral {s : Symbol} (bound : Nat) (after : List Symbol)
    (numeric : s = .char '-' ∨ (digitOf? s).isSome)
    : skipValue (bound + 1) (s :: after) = skipNumeral (s :: after) := by
  have different (c : Char) (other : ¬ (Symbol.char c = .char '-' ∨ (digitOf? (.char c)).isSome))
      : s ≠ .char c :=
    fun same => other (same ▸ numeric)
  have solid : isSpace s = false := by
    unfold isSpace
    split
    · exact absurd rfl (different ' ' (by decide))
    · exact absurd rfl (different '\t' (by decide))
    · exact absurd rfl (different '\n' (by decide))
    · exact absurd rfl (different '\r' (by decide))
    · rfl
  rw [skipValue, skipSpace_cons after solid]
  split
  case h_1 none => cases none
  case h_8 start _ _ _ _ _ _ same =>
    obtain ⟨rfl, rfl⟩ := List.cons.inj same
    exact if_pos numeric
  all_goals
    next same => exact absurd (List.cons.inj same).1 (different _ (by decide))

theorem passes_of_readScalar {input rest : List Symbol} {j : Json}
    (h : readScalar (skipSpace input) = .ok (j, rest))
    : Passes input rest := by
  have letters {after : List Symbol} {cs : List Char} {word : Json}
      (h : (literal after cs).map (fun rest => (word, rest)) = .ok (j, rest))
      : literal after cs = .ok rest := by
    obtain ⟨_, read, same⟩ := map_ok_iff.mp h
    exact (Prod.mk.inj same).2 ▸ read
  unfold readScalar at h
  split at h
  · next start => exact .of_start start (literal_length (letters h)) fun _ _ => letters h
  · next start => exact .of_start start (literal_length (letters h)) fun _ _ => letters h
  · next start => exact .of_start start (literal_length (letters h)) fun _ _ => letters h
  · next after start =>
    obtain ⟨⟨text, last⟩, read, same⟩ := map_ok_iff.mp h
    obtain ⟨-, rfl⟩ := Prod.mk.inj same
    have skipped := skipString_of_readString read
    exact .of_start start (Nat.le_of_lt (skipString_length skipped)) fun _ _ => skipped
  · cases h
  · next s after _ _ _ _ start =>
    split at h
    · next numeric =>
      obtain ⟨⟨n, last⟩, read, same⟩ := map_ok_iff.mp h
      obtain ⟨-, rfl⟩ := Prod.mk.inj same
      refine .of_start start (Nat.le_of_lt_succ (readNumber_length read)) fun bound _ => ?_
      rw [skipValue_numeral bound after numeric]
      exact skipNumeral_of_readNumber read
    · cases h

/-- An item and the ones after it are passed over up to the closing bracket if they are read so, by
induction on the bound of the reading.
-/
theorem skipItems_of_readItems {item : Reader α}
    (passes : ∀ {input value rest}, item input = .ok (value, rest) → Passes input rest)
    {count : Nat}
    : ∀ {input middle rest : List Symbol} {head : α} {tail : List α},
        item input = .ok (head, middle) →
        readItems item count false middle = .ok (tail, rest) →
        rest.length < middle.length
        ∧ ∀ bound, 2 * (input.length - rest.length) ≤ bound → skipItems bound input = .ok rest := by
  induction count with
  | zero =>
      intro _ _ _ _ _ _ h
      cases h
  | succ count ih =>
      intro input middle rest head tail read h
      obtain ⟨shorter, skips⟩ := passes read
      have short := skipSpace_length middle
      rcases readItems_ok_iff.mp h with
        ⟨closing, found, rfl, rfl⟩ | ⟨start, value, after, others, found, next, later, rfl⟩
      · obtain ⟨-, close, last, rfl⟩ | ⟨impossible, -⟩ := nextItem_ok found
        · rw [close, List.length_cons] at short
          simp only [List.drop_succ_cons, List.drop_zero]
          refine ⟨by omega, ?_⟩
          rintro (_ | bound) enough
          · omega
          · rw [skipItems, skips bound (by omega)]
            simp only [bind, Except.bind, close]
        · cases impossible
      · obtain ⟨impossible, -⟩ | ⟨-, -, ⟨impossible, -⟩ | ⟨-, further, comma, rfl⟩⟩ :=
          nextItem_ok found
        · cases impossible
        · cases impossible
        · obtain ⟨last, rests⟩ := ih next later
          have shortest := skipSpace_length further
          have less := (passes next).1
          rw [comma, List.length_cons] at short
          refine ⟨by omega, ?_⟩
          rintro (_ | bound) enough
          · omega
          · have passed := rests bound (by omega)
            rw [skipItems_skipSpace] at passed
            rw [skipItems, skips bound (by omega)]
            simp only [bind, Except.bind, comma, passed]

section Member

variable {start afterKey valueStart middle rest : List Symbol} (bound : Nat)
  (key : skipString start = .ok afterKey) (colon : skipSpace afterKey = .char ':' :: valueStart)
  (value : skipValue bound valueStart = .ok middle)
include key colon value

theorem skipMembers_close (close : skipSpace middle = .char '\x7d' :: rest)
    : skipMembers (bound + 1) (.char '"' :: start) = .ok rest := by
  rw [skipMembers, skipSpace_cons start rfl]
  simp only [bind, Except.bind, key, colon, value, close]

theorem skipMembers_comma (comma : skipSpace middle = .char ',' :: rest)
    : skipMembers (bound + 1) (.char '"' :: start) = skipMembers bound rest := by
  rw [skipMembers, skipSpace_cons start rfl]
  simp only [bind, Except.bind, key, colon, value, comma]

end Member

/-- A member and the ones after it are passed over up to the closing brace if they are read so, by
induction on the bound of the reading.
-/
theorem skipMembers_of_readMembers {value : Reader α}
    (passes : ∀ {input found rest}, value input = .ok (found, rest) → Passes input rest)
    {count : Nat}
    : ∀ {start afterKey middle rest : List Symbol} {key : String}
        {before after final : List (String × α)},
        readString start = .ok (key, afterKey) →
        collect value before key afterKey = .ok (after, middle) →
        readMembers (collect value) count false after middle = .ok (final, rest) →
        rest.length < start.length
        ∧ ∀ bound, 2 * (start.length - rest.length) ≤ bound →
            skipMembers bound (.char '"' :: start) = .ok rest := by
  induction count with
  | zero =>
      intro _ _ _ _ _ _ _ _ _ _ h
      cases h
  | succ count ih =>
      intro start afterKey middle rest key before after final named collected h
      obtain ⟨valueStart, found, separated, read, -⟩ := collect_ok collected
      have colonNext := colon_ok separated
      obtain ⟨shorter, skips⟩ := passes read
      have keySkipped := skipString_of_readString named
      have keyShorter := skipString_length keySkipped
      have colonShort := skipSpace_length afterKey
      have short := skipSpace_length middle
      rw [colonNext, List.length_cons] at colonShort
      rcases readMembers_ok_iff.mp h with
        ⟨closing, rfl⟩ | ⟨next, nextKey, afterNext, others, last, another, name, taken, later⟩
      · obtain ⟨-, close⟩ | ⟨impossible, -⟩ := nextKey_ok closing
        · rw [close, List.length_cons] at short
          refine ⟨by omega, ?_⟩
          rintro (_ | bound) enough
          · omega
          · exact skipMembers_close bound keySkipped colonNext (skips bound (by omega)) close
        · cases impossible
      · obtain ⟨impossible, -⟩ | ⟨-, ⟨impossible, -⟩ | ⟨-, further, comma, quote⟩⟩ :=
          nextKey_ok another
        · cases impossible
        · cases impossible
        · obtain ⟨less, rests⟩ := ih name taken later
          have shortest := skipSpace_length further
          rw [comma, List.length_cons] at short
          rw [quote, List.length_cons] at shortest
          refine ⟨by omega, ?_⟩
          rintro (_ | bound) enough
          · omega
          · rw [skipMembers_comma bound keySkipped colonNext (skips bound (by omega)) comma,
              ← skipMembers_skipSpace, quote]
            exact rests bound (by omega)

theorem skipValue_list {opened after : List Symbol} {s : Symbol} (bound : Nat)
    (front : skipSpace opened = s :: after) (unclosed : s ≠ .char ']')
    : skipValue (bound + 1) (.char '[' :: opened) = skipItems bound (s :: after) := by
  rw [skipValue, skipSpace_cons opened rfl]
  simp only [front]
  split
  · next none => cases none
  · next close => exact absurd (List.cons.inj close).1 unclosed
  · rfl

/-- A list that is read is passed over. -/
theorem passes_of_list {item : Reader α}
    (passes : ∀ {input value rest}, item input = .ok (value, rest) → Passes input rest)
    {count : Nat} {input opened rest : List Symbol} {items : List α}
    (start : skipSpace input = .char '[' :: opened)
    (h : readItems item count true opened = .ok (items, rest))
    : Passes input rest := by
  cases count with
  | zero => cases h
  | succ count =>
      have short := skipSpace_length opened
      rcases readItems_ok_iff.mp h with
        ⟨closing, found, rfl, rfl⟩ | ⟨first, head, middle, tail, found, read, later, rfl⟩
      · obtain ⟨-, close, last, rfl⟩ | ⟨impossible, -⟩ := nextItem_ok found
        · rw [close, List.length_cons] at short
          simp only [List.drop_succ_cons, List.drop_zero]
          refine .of_start start (by omega) fun bound _ => ?_
          rw [skipValue, skipSpace_cons opened rfl]
          simp only [close]
        · cases impossible
      · obtain ⟨impossible, -⟩ | ⟨-, ⟨s, after, rfl, unclosed⟩, ⟨-, front⟩ | ⟨impossible, -⟩⟩ :=
          nextItem_ok found
        · cases impossible
        · obtain ⟨less, skips⟩ := skipItems_of_readItems passes read later
          have shorter := (passes read).1
          rw [front] at short
          refine .of_start start (by omega) fun bound enough => ?_
          rw [skipValue_list bound front unclosed]
          exact skips bound (by omega)
        · cases impossible

/-- An object that is read is passed over. -/
theorem passes_of_object {value : Reader α}
    (passes : ∀ {input found rest}, value input = .ok (found, rest) → Passes input rest)
    {count : Nat} {input opened rest : List Symbol} {before members : List (String × α)}
    (start : skipSpace input = .char '\x7b' :: opened)
    (h : readMembers (collect value) count true before opened = .ok (members, rest))
    : Passes input rest := by
  cases count with
  | zero => cases h
  | succ count =>
      have short := skipSpace_length opened
      rcases readMembers_ok_iff.mp h with
        ⟨closing, rfl⟩ | ⟨first, key, afterKey, next, middle, found, named, taken, later⟩
      · obtain ⟨-, close⟩ | ⟨impossible, -⟩ := nextKey_ok closing
        · rw [close, List.length_cons] at short
          refine .of_start start (by omega) fun bound _ => ?_
          rw [skipValue, skipSpace_cons opened rfl]
          simp only [close]
        · cases impossible
      · obtain ⟨impossible, -⟩ | ⟨-, ⟨-, quote⟩ | ⟨impossible, -⟩⟩ := nextKey_ok found
        · cases impossible
        · obtain ⟨less, skips⟩ := skipMembers_of_readMembers passes named taken later
          rw [quote, List.length_cons] at short
          refine .of_start start (by omega) fun bound enough => ?_
          rw [skipValue, skipSpace_cons opened rfl]
          simp only [quote]
          exact skips bound (by omega)
        · cases impossible

/-- A value of any kind that is read is passed over, by induction on the brackets that may be open.
-/
theorem passes_of_readTree {depth : Nat}
    : ∀ {input rest : List Symbol} {j : Json},
        readTree depth input = .ok (j, rest) → Passes input rest := by
  induction depth with
  | zero =>
      intro input rest j h
      obtain ⟨_, _, _, impossible, -⟩ | ⟨_, _, _, impossible, -⟩ | ⟨read, -⟩ := readTree_ok h
      · cases impossible
      · cases impossible
      · exact passes_of_readScalar read
  | succ depth ih =>
      intro input rest j h
      obtain ⟨less, opened, items, same, start, read, -⟩
        | ⟨less, opened, members, same, start, read, -⟩ | ⟨read, -⟩ := readTree_ok h
      · obtain rfl := Nat.succ.inj same
        exact passes_of_list ih start read
      · obtain rfl := Nat.succ.inj same
        exact passes_of_object ih start read
      · exact passes_of_readScalar read

/-- What is read as a value of any kind is passed over up to the same rest. -/
theorem skipAny_of_readTree {depth : Nat} {input rest : List Symbol} {j : Json}
    (h : readTree depth input = .ok (j, rest))
    : skipAny input = .ok rest :=
  (passes_of_readTree h).2 _ (by omega)

end NodeTrial.Json
