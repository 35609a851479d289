import NodeTrial.Proofs.Json.LocalValues

/-! Values that are passed over go by what they take, as those do that are read; the bound on their
steps is never met.
-/

namespace NodeTrial.Json

open Text (Symbol)

/-- A value, or what stands in a list or in an object, from its first symbol that does not close it. -/
def Opened (close : Symbol) (p : Reading) : Reading :=
  fun input rest => ∃ s after, skipSpace input = s :: after ∧ s ≠ close ∧ p (s :: after) rest

/-- A container is passed over: it is empty, or what stands in it is passed over. -/
def Container (start close : Symbol) (p : Reading) : Reading :=
  fun input rest =>
    ∃ opened, skipSpace input = start :: opened
      ∧ (skipSpace opened = close :: rest ∨ Opened close p opened rest)

/-- A scalar that is passed over. -/
def SkippedScalar : Reading :=
  fun input rest =>
    Word 'n' ['u', 'l', 'l'] input rest
    ∨ Word 't' ['r', 'u', 'e'] input rest
    ∨ Word 'f' ['a', 'l', 's', 'e'] input rest
    ∨ (∃ after, input = .char '"' :: after ∧ skipString after = .ok rest)
    ∨ skipNumeral input = .ok rest

theorem skipValue_ok_iff {n : Nat} {input rest : List Symbol}
    : skipValue (n + 1) input = .ok rest
      ↔ Container (.char '[') (.char ']') (fun input rest => skipItems n input = .ok rest) input rest
        ∨ Container (.char '\x7b') (.char '\x7d')
            (fun input rest => skipMembers n input = .ok rest) input rest
        ∨ ∃ s after, skipSpace input = s :: after ∧ True ∧ SkippedScalar (s :: after) rest := by
  constructor
  · intro h
    rw [skipValue] at h
    split at h
    · cases h
    · next after start => exact .inr (.inr ⟨_, after, start, trivial, .inl ⟨after, rfl, h⟩⟩)
    · next after start => exact .inr (.inr ⟨_, after, start, trivial, .inr (.inl ⟨after, rfl, h⟩)⟩)
    · next after start =>
      exact .inr (.inr ⟨_, after, start, trivial, .inr (.inr (.inl ⟨after, rfl, h⟩))⟩)
    · next after start =>
      exact .inr (.inr ⟨_, after, start, trivial, .inr (.inr (.inr (.inl ⟨after, rfl, h⟩)))⟩)
    · next opened start =>
      refine .inl ⟨opened, start, ?_⟩
      split at h
      · cases h
      · next after close => exact .inl (by rw [close, Except.ok.inj h])
      · next nonempty unclosed =>
        obtain ⟨s, after, front⟩ := List.exists_cons_of_ne_nil nonempty
        rw [front] at h
        exact .inr ⟨s, after, front, fun same => unclosed after (by rw [front, same]), h⟩
    · next opened start =>
      refine .inr (.inl ⟨opened, start, ?_⟩)
      split at h
      · cases h
      · next after close => exact .inl (by rw [close, Except.ok.inj h])
      · next nonempty unclosed =>
        obtain ⟨s, after, front⟩ := List.exists_cons_of_ne_nil nonempty
        rw [front] at h
        exact .inr ⟨s, after, front, fun same => unclosed after (by rw [front, same]), h⟩
    · next s after _ _ _ _ _ _ start =>
      split at h
      · exact .inr (.inr ⟨s, after, start, trivial, .inr (.inr (.inr (.inr h)))⟩)
      · cases h
  · rintro (⟨opened, start, close | ⟨s, after, front, unclosed, items⟩⟩
      | ⟨opened, start, close | ⟨s, after, front, unclosed, members⟩⟩
      | ⟨s, after, start, -, scalar⟩)
    · rw [skipValue]
      simp only [start, close]
    · rw [← skipValue_skipSpace, start, skipValue_list n front unclosed]
      exact items
    · rw [skipValue]
      simp only [start, close]
    · rw [skipValue]
      simp only [start, front]
      split
      · next none => cases none
      · next same => exact absurd (List.cons.inj same).1 unclosed
      · exact members
    · rw [← skipValue_skipSpace, start]
      obtain ⟨more, same, letters⟩ | ⟨more, same, letters⟩ | ⟨more, same, letters⟩
        | ⟨more, same, text⟩ | number := scalar
      · obtain ⟨rfl, rfl⟩ := List.cons.inj same
        exact letters
      · obtain ⟨rfl, rfl⟩ := List.cons.inj same
        exact letters
      · obtain ⟨rfl, rfl⟩ := List.cons.inj same
        exact letters
      · obtain ⟨rfl, rfl⟩ := List.cons.inj same
        exact text
      · obtain ⟨numeral, scanned⟩ := skipNumeral_ok_iff.mp number
        rw [skipValue_numeral n after (scanNumeral_start scanned)]
        exact number

theorem skipItems_ok_iff {n : Nat} {input rest : List Symbol}
    : skipItems (n + 1) input = .ok rest
      ↔ ∃ middle, skipValue n input = .ok middle
          ∧ (skipSpace middle = .char ']' :: rest
            ∨ ∃ after, skipSpace middle = .char ',' :: after ∧ skipItems n after = .ok rest) := by
  rw [skipItems, bind_ok_iff]
  refine exists_congr fun middle => and_congr_right fun _ => ?_
  constructor
  · intro h
    split at h
    · cases h
    · next after close => exact .inl (by rw [close, Except.ok.inj h])
    · next after comma => exact .inr ⟨after, comma, h⟩
    · cases h
  · rintro (close | ⟨after, comma, items⟩)
    · simp only [close]
    · simp only [comma, items]

theorem skipMembers_ok_iff {n : Nat} {input rest : List Symbol}
    : skipMembers (n + 1) input = .ok rest
      ↔ ∃ start, skipSpace input = .char '"' :: start
          ∧ ∃ afterKey, skipString start = .ok afterKey
            ∧ ∃ valueStart, skipSpace afterKey = .char ':' :: valueStart
              ∧ ∃ middle, skipValue n valueStart = .ok middle
                ∧ (skipSpace middle = .char '\x7d' :: rest
                  ∨ ∃ after, skipSpace middle = .char ',' :: after ∧ skipMembers n after = .ok rest) := by
  constructor
  · intro h
    rw [skipMembers] at h
    split at h
    · cases h
    · next start quote =>
      obtain ⟨afterKey, key, h⟩ := bind_ok_iff.mp h
      split at h
      · cases h
      · next valueStart colon =>
        obtain ⟨middle, value, h⟩ := bind_ok_iff.mp h
        refine ⟨start, quote, afterKey, key, valueStart, colon, middle, value, ?_⟩
        split at h
        · cases h
        · next after close => exact .inl (by rw [close, Except.ok.inj h])
        · next after comma => exact .inr ⟨after, comma, h⟩
        · cases h
      · cases h
    · cases h
  · rintro ⟨start, quote, afterKey, key, valueStart, colon, middle, value, close | ⟨after, comma, h⟩⟩
    · rw [← skipMembers_skipSpace, quote]
      exact skipMembers_close n key colon value close
    · rw [← skipMembers_skipSpace, quote, skipMembers_comma n key colon value comma]
      exact h

-----------------------------------------------------------------------------------------
-- Bounds
-----------------------------------------------------------------------------------------

/-- What is passed over within some bound takes at least one symbol off the text, and is passed over
within every bound of two steps a symbol.
-/
def Passing (p : Nat → Reading) (n : Nat) : Prop :=
  ∀ input rest, p n input rest →
    rest.length < input.length
    ∧ ∀ bound, 2 * (input.length - rest.length) ≤ bound → p bound input rest

theorem SkippedScalar.advances : Advances SkippedScalar := by
  have word {first : Char} {letters : List Char} : Advances (Word first letters) := by
    rintro _ rest ⟨after, rfl, read⟩
    exact Nat.lt_succ_of_le (literal_length read)
  rintro input rest (read | read | read | ⟨after, rfl, text⟩ | number)
  · exact word _ _ read
  · exact word _ _ read
  · exact word _ _ read
  · exact Nat.lt_succ_of_lt (skipString_length text)
  · obtain ⟨numeral, scanned⟩ := skipNumeral_ok_iff.mp number
    exact scanNumeral_length scanned

/-- A container takes two steps more than what stands in it. -/
theorem Container.passes {start close : Symbol} {p : Nat → Reading} {n : Nat}
    (inner : Passing p n) {input rest : List Symbol} (h : Container start close (p n) input rest)
    : rest.length < input.length
      ∧ ∀ bound, 2 * (input.length - rest.length) ≤ bound + 1 →
          Container start close (p bound) input rest := by
  obtain ⟨opened, first, empty | ⟨s, after, front, unclosed, items⟩⟩ := h
  · have less := skipSpace_lt first
    have fewer := skipSpace_lt empty
    exact ⟨by omega, fun bound _ => ⟨opened, first, .inl empty⟩⟩
  · obtain ⟨shorter, skips⟩ := inner _ _ items
    have less := skipSpace_lt first
    have short := skipSpace_length opened
    rw [front] at short
    refine ⟨by omega, fun bound enough => ⟨opened, first, .inr ⟨s, after, front, unclosed, ?_⟩⟩⟩
    exact skips bound (by omega)

/-- Values, items and members are passed over within every bound that is large enough, by induction
on one that is.
-/
theorem passing (n : Nat)
    : Passing (fun n input rest => skipValue n input = .ok rest) n
      ∧ Passing (fun n input rest => skipItems n input = .ok rest) n
      ∧ Passing (fun n input rest => skipMembers n input = .ok rest) n := by
  induction n with
  | zero => exact ⟨fun _ _ => nofun, fun _ _ => nofun, fun _ _ => nofun⟩
  | succ n ih =>
      obtain ⟨values, items, members⟩ := ih
      refine ⟨fun input rest h => ?_, fun input rest h => ?_, fun input rest h => ?_⟩
      · rcases skipValue_ok_iff.mp h with list | object | ⟨s, after, start, -, scalar⟩
        · obtain ⟨less, skips⟩ := list.passes items
          refine ⟨less, ?_⟩
          rintro (_ | bound) enough
          · omega
          · exact skipValue_ok_iff.mpr (.inl (skips bound enough))
        · obtain ⟨less, skips⟩ := object.passes members
          refine ⟨less, ?_⟩
          rintro (_ | bound) enough
          · omega
          · exact skipValue_ok_iff.mpr (.inr (.inl (skips bound enough)))
        · have less := SkippedScalar.advances _ _ scalar
          have short := skipSpace_length input
          rw [start] at short
          refine ⟨by omega, ?_⟩
          rintro (_ | bound) enough
          · omega
          · exact skipValue_ok_iff.mpr (.inr (.inr ⟨s, after, start, trivial, scalar⟩))
      · obtain ⟨middle, value, last⟩ := skipItems_ok_iff.mp h
        obtain ⟨less, skips⟩ := values _ _ value
        rcases last with close | ⟨after, comma, others⟩
        · have shorter := skipSpace_lt close
          refine ⟨by omega, ?_⟩
          rintro (_ | bound) enough
          · omega
          · exact skipItems_ok_iff.mpr ⟨middle, skips bound (by omega), .inl close⟩
        · have shorter := skipSpace_lt comma
          obtain ⟨fewer, more⟩ := items _ _ others
          refine ⟨by omega, ?_⟩
          rintro (_ | bound) enough
          · omega
          · exact skipItems_ok_iff.mpr
              ⟨middle, skips bound (by omega), .inr ⟨after, comma, more bound (by omega)⟩⟩
      · obtain ⟨start, quote, afterKey, key, valueStart, colon, middle, value, last⟩ :=
          skipMembers_ok_iff.mp h
        have first := skipSpace_lt quote
        have second := skipString_length key
        have third := skipSpace_lt colon
        obtain ⟨less, skips⟩ := values _ _ value
        rcases last with close | ⟨after, comma, others⟩
        · have shorter := skipSpace_lt close
          refine ⟨by omega, ?_⟩
          rintro (_ | bound) enough
          · omega
          · exact skipMembers_ok_iff.mpr ⟨start, quote, afterKey, key, valueStart, colon, middle,
              skips bound (by omega), .inl close⟩
        · have shorter := skipSpace_lt comma
          obtain ⟨fewer, more⟩ := members _ _ others
          refine ⟨by omega, ?_⟩
          rintro (_ | bound) enough
          · omega
          · exact skipMembers_ok_iff.mpr ⟨start, quote, afterKey, key, valueStart, colon, middle,
              skips bound (by omega), .inr ⟨after, comma, more bound (by omega)⟩⟩

-----------------------------------------------------------------------------------------
-- Values
-----------------------------------------------------------------------------------------

namespace Local

theorem skippedScalar : Local SkippedScalar := by
  have word (first : Char) (letters : List Char) : Local (Word first letters) :=
    (symbol _).seq (literal letters)
  exact (word _ _).or ((word _ _).or ((word _ _).or
    (((symbol _).seq skipString).or skipNumeral)))

theorem container {p : Reading} (loc : Local p) (advances : Advances p) (start close : Symbol)
    : Local (Container start close p) :=
  (spaced start).seq ((spaced close).or (loc.found advances (· ≠ close)))

/-- Values, items and members that are passed over within a bound, by induction on it. -/
theorem skipWithin (n : Nat)
    : Local (fun input rest => skipValue n input = .ok rest)
      ∧ Local (fun input rest => skipItems n input = .ok rest)
      ∧ Local fun input rest => skipMembers n input = .ok rest := by
  induction n with
  | zero => exact ⟨never fun _ _ => nofun, never fun _ _ => nofun, never fun _ _ => nofun⟩
  | succ n ih =>
      obtain ⟨values, items, members⟩ := ih
      obtain ⟨-, itemsPass, membersPass⟩ := passing n
      refine ⟨Local.congr ?_ fun _ _ => skipValue_ok_iff, Local.congr ?_ fun _ _ => skipItems_ok_iff,
        Local.congr ?_ fun _ _ => skipMembers_ok_iff⟩
      · exact (items.container (fun _ _ h => (itemsPass _ _ h).1) _ _).or
          ((members.container (fun _ _ h => (membersPass _ _ h).1) _ _).or
            (skippedScalar.found SkippedScalar.advances fun _ => True))
      · exact values.seq ((spaced _).or ((spaced _).seq items))
      · exact (spaced _).seq (skipString.seq ((spaced _).seq (values.seq
          ((spaced _).or ((spaced _).seq members)))))

theorem skipAny : Local fun input rest => Json.skipAny input = .ok rest :=
  enough (fun n => (skipWithin n).1) fun n input rest h =>
    ((passing n).1 input rest h).2 _ (by omega)

end Local

end NodeTrial.Json
