import NodeTrial.Proofs.Json.Local

/-! The words of JSON text go by what they take: numbers, whose parts are told apart here, and
strings, whether they are read or passed over.
-/

namespace NodeTrial.Json

open Text (Symbol)

-----------------------------------------------------------------------------------------
-- Numbers
-----------------------------------------------------------------------------------------

theorem takeDigits_of_none {input : List Symbol} (none : ∀ s ∈ input.head?, digitOf? s = none)
    : takeDigits input = ([], input) := by
  cases input with
  | nil => rfl
  | cons s input => rw [takeDigits, none s rfl]

namespace Local

/-- Digits are taken up to the first symbol that is none, by induction on the text. -/
theorem takeDigits (ds : List Nat)
    : Local fun input rest => Json.takeDigits input = (ds, rest) := by
  intro input
  induction input generalizing ds with
  | nil =>
      intro rest read
      obtain ⟨rfl, rfl⟩ := Prod.mk.inj read
      refine ⟨[], rfl, fun other replaces => ?_⟩
      exact takeDigits_of_none (replaces.head (by simp) fun s none _ _ _ => none)
  | cons s input ih =>
      intro rest read
      rw [Json.takeDigits] at read
      split at read
      · next d digit =>
        obtain ⟨rfl, rfl⟩ := Prod.mk.inj read
        obtain ⟨taken, whole, again⟩ := ih _ _ rfl
        refine ⟨s :: taken, by rw [List.cons_append, ← whole], fun other replaces => ?_⟩
        change Json.takeDigits (s :: (taken ++ other)) = _
        rw [Json.takeDigits, digit]
        simp only [again other replaces]
      · next none =>
        obtain ⟨rfl, rfl⟩ := Prod.mk.inj read
        refine ⟨[], rfl, fun other replaces => ?_⟩
        exact takeDigits_of_none (replaces.head (by simp [none]) fun s none _ _ _ => none)

end Local

theorem someDigits_ok_iff {input rest : List Symbol} {ds : List Nat}
    : someDigits input = .ok (ds, rest) ↔ ds ≠ [] ∧ takeDigits input = (ds, rest) := by
  unfold someDigits
  split
  · next d more after same =>
    rw [same, Except.ok.injEq]
    refine ⟨fun found => ⟨?_, found⟩, fun h => h.2⟩
    rw [← (Prod.mk.inj found).1]
    exact List.cons_ne_nil _ _
  all_goals
    next same =>
    refine iff_of_false nofun fun ⟨nonempty, found⟩ => nonempty ?_
    rw [same] at found
    exact (Prod.mk.inj found).1.symm

/-- The digits of a whole part have no needless zero in front. -/
def IsWholePart (ds : List Nat) : Prop :=
  ds ≠ [] ∧ ∀ d more, ds ≠ 0 :: d :: more

theorem wholePart_ok_iff {input rest : List Symbol} {ds : List Nat}
    : wholePart input = .ok (ds, rest) ↔ IsWholePart ds ∧ takeDigits input = (ds, rest) := by
  rw [wholePart, bind_ok_iff]
  constructor
  · rintro ⟨⟨found, after⟩, read, same⟩
    obtain ⟨some, digits⟩ := someDigits_ok_iff.mp read
    split at same
    · cases same
    · next whole =>
      obtain ⟨rfl, rfl⟩ := Prod.mk.inj (Except.ok.inj same)
      exact ⟨⟨some, fun d more same => whole d more after (by rw [same])⟩, digits⟩
  · rintro ⟨⟨some, whole⟩, digits⟩
    refine ⟨(ds, rest), someDigits_ok_iff.mpr ⟨some, digits⟩, ?_⟩
    split
    · next d more after same => exact absurd (Prod.mk.inj same).1 (whole d more)
    · rfl

theorem fractionPart_ok_iff {input rest : List Symbol} {ds : List Nat}
    : fractionPart input = .ok (ds, rest)
      ↔ (∃ after, input = .char '.' :: after ∧ ds ≠ [] ∧ takeDigits after = (ds, rest))
        ∨ ds = [] ∧ input = rest ∧ ∀ s ∈ rest.head?, s ≠ .char '.' := by
  constructor
  · intro h
    unfold fractionPart at h
    split at h
    · next after => exact .inl ⟨after, rfl, someDigits_ok_iff.mp h⟩
    · next noPoint =>
      obtain ⟨rfl, rfl⟩ := Prod.mk.inj (Except.ok.inj h)
      refine .inr ⟨rfl, rfl, fun s first same => ?_⟩
      obtain ⟨after, rfl⟩ := List.head?_eq_some_iff.mp first
      exact noPoint after (by rw [same])
  · rintro (⟨after, rfl, digits⟩ | ⟨rfl, rfl, noPoint⟩)
    · exact someDigits_ok_iff.mpr digits
    · unfold fractionPart
      split
      · next after => exact absurd rfl (noPoint _ rfl)
      · rfl

/-- A reading after a minus sign, or without one. -/
def Signed (p : Reading) (negative : Bool) : Reading :=
  fun input rest =>
    (negative = true ∧ ∃ after, input = .char '-' :: after ∧ p after rest)
    ∨ negative = false ∧ p input rest

theorem Local.signed {p : Reading} (loc : Local p) (negative : Bool) : Local (Signed p negative) :=
  (((symbol _).seq loc).given _).or (loc.given _)

theorem takeDigits_start {s : Symbol} {input rest : List Symbol} {ds : List Nat}
    (nonempty : ds ≠ []) (taken : takeDigits (s :: input) = (ds, rest))
    : (digitOf? s).isSome = true := by
  rw [takeDigits] at taken
  split at taken
  · next digit => rw [digit, Option.isSome_some]
  · exact absurd (Prod.mk.inj taken).1.symm nonempty

/-- The digits of an exponent, after a sign of either kind or without one. -/
def PowerDigits (negative : Bool) (ds : List Nat) : Reading :=
  fun input rest =>
    Signed (fun input rest => someDigits input = .ok (ds, rest)) negative input rest
    ∨ negative = false ∧ ∃ after, input = .char '+' :: after ∧ someDigits after = .ok (ds, rest)

/-- The sign and the digits after an exponent mark. -/
theorem exponentPart_mark_iff {input rest : List Symbol} {exponent : Option (Bool × List Nat)}
    : exponentPart (.char 'e' :: input) = .ok (exponent, rest)
      ↔ ∃ negative ds, exponent = some (negative, ds) ∧ PowerDigits negative ds input rest := by
  constructor
  · intro h
    simp only [exponentPart] at h
    split at h
    all_goals
      obtain ⟨⟨ds, after⟩, read, same⟩ := bind_ok_iff.mp h
      obtain ⟨rfl, rfl⟩ := Prod.mk.inj (Except.ok.inj same)
      refine ⟨_, _, rfl, ?_⟩
    · exact .inr ⟨rfl, _, rfl, read⟩
    · exact .inl (.inl ⟨rfl, _, rfl, read⟩)
    · exact .inl (.inr ⟨rfl, read⟩)
  · rintro ⟨negative, ds, rfl, (⟨rfl, after, rfl, read⟩ | ⟨rfl, read⟩) | ⟨rfl, after, rfl, read⟩⟩
    · exact bind_ok_iff.mpr ⟨_, read, rfl⟩
    · obtain ⟨nonempty, taken⟩ := someDigits_ok_iff.mp read
      simp only [exponentPart]
      split
      · exact absurd (takeDigits_start nonempty taken) (by decide)
      · exact absurd (takeDigits_start nonempty taken) (by decide)
      · exact bind_ok_iff.mpr ⟨_, read, rfl⟩
    · exact bind_ok_iff.mpr ⟨_, read, rfl⟩

theorem exponentPart_ok_iff {input rest : List Symbol} {exponent : Option (Bool × List Nat)}
    : exponentPart input = .ok (exponent, rest)
      ↔ (∃ negative ds, exponent = some (negative, ds)
          ∧ ∃ after, (input = .char 'e' :: after ∨ input = .char 'E' :: after)
            ∧ PowerDigits negative ds after rest)
        ∨ exponent = none ∧ input = rest
          ∧ ∀ s ∈ rest.head?, s ≠ .char 'e' ∧ s ≠ .char 'E' := by
  by_cases mark : ∃ after, input = .char 'e' :: after ∨ input = .char 'E' :: after
  · obtain ⟨after, start⟩ := mark
    have read : exponentPart input = exponentPart (.char 'e' :: after) := by
      rcases start with rfl | rfl <;> rfl
    rw [read, exponentPart_mark_iff]
    constructor
    · rintro ⟨negative, ds, rfl, digits⟩
      exact .inl ⟨negative, ds, rfl, after, start, digits⟩
    · rintro (⟨negative, ds, rfl, after', start', digits⟩ | ⟨-, rfl, none⟩)
      · have same : after = after' := by
          rcases start with rfl | rfl <;> simpa using start'
        exact ⟨negative, ds, rfl, same ▸ digits⟩
      · rcases start with rfl | rfl
        · exact absurd rfl (none _ rfl).1
        · exact absurd rfl (none _ rfl).2
  · have plain : exponentPart input = .ok (none, input) := by
      unfold exponentPart
      split
      · exact absurd ⟨_, .inl rfl⟩ mark
      · exact absurd ⟨_, .inr rfl⟩ mark
      · rfl
    rw [plain, Except.ok.injEq, Prod.mk.injEq]
    constructor
    · rintro ⟨rfl, rfl⟩
      refine .inr ⟨rfl, rfl, fun s first => ⟨?_, ?_⟩⟩
      all_goals
        rintro rfl
        obtain ⟨after, rfl⟩ := List.head?_eq_some_iff.mp first
      · exact mark ⟨after, .inl rfl⟩
      · exact mark ⟨after, .inr rfl⟩
    · rintro (⟨_, _, -, after, start, -⟩ | ⟨rfl, rfl, -⟩)
      · exact absurd ⟨after, start⟩ mark
      · exact ⟨rfl, rfl⟩

/-- A number without its sign. -/
def UnsignedPart (n : Numeral) : Reading :=
  fun input rest =>
    ∃ afterWhole, wholePart input = .ok (n.whole, afterWhole)
      ∧ ∃ afterFraction, fractionPart afterWhole = .ok (n.fraction, afterFraction)
        ∧ exponentPart afterFraction = .ok (n.exponent, rest)

/-- A number is scanned as its sign, its whole part, its fraction and its exponent. -/
theorem scanNumeral_ok_iff {input rest : List Symbol} {n : Numeral}
    : scanNumeral input = .ok (n, rest) ↔ Signed (UnsignedPart n) n.negative input rest := by
  constructor
  · intro h
    unfold scanNumeral at h
    split at h
    next negative unsigned sign =>
    obtain ⟨⟨whole, afterWhole⟩, wholeRead, h⟩ := bind_ok_iff.mp h
    obtain ⟨⟨fraction, afterFraction⟩, fractionRead, h⟩ := bind_ok_iff.mp h
    obtain ⟨⟨exponent, afterExponent⟩, exponentRead, h⟩ := bind_ok_iff.mp h
    obtain ⟨rfl, rfl⟩ := Prod.mk.inj (Except.ok.inj h)
    have parts : UnsignedPart ⟨negative, whole, fraction, exponent⟩ unsigned afterExponent :=
      ⟨afterWhole, wholeRead, afterFraction, fractionRead, exponentRead⟩
    split at sign
    · obtain ⟨rfl, rfl⟩ := Prod.mk.inj sign
      exact .inl ⟨rfl, _, rfl, parts⟩
    · obtain ⟨rfl, rfl⟩ := Prod.mk.inj sign
      exact .inr ⟨rfl, parts⟩
  · obtain ⟨negative, whole, fraction, exponent⟩ := n
    rintro (⟨rfl, after, rfl, m, wholeRead, k, fractionRead, exponentRead⟩
      | ⟨rfl, m, wholeRead, k, fractionRead, exponentRead⟩)
    · simp only [scanNumeral, wholeRead, fractionRead, exponentRead, bind, Except.bind]
    · unfold scanNumeral
      split
      next negative unsigned sign =>
        split at sign
        · obtain ⟨⟨nonempty, -⟩, taken⟩ := wholePart_ok_iff.mp wholeRead
          exact absurd (takeDigits_start nonempty taken) (by decide)
        · obtain ⟨rfl, rfl⟩ := Prod.mk.inj sign
          simp only [wholeRead, fractionRead, exponentRead, bind, Except.bind]

/-- A number starts with a minus sign or a digit. -/
theorem scanNumeral_start {s : Symbol} {input rest : List Symbol} {n : Numeral}
    (scanned : scanNumeral (s :: input) = .ok (n, rest))
    : s = .char '-' ∨ (digitOf? s).isSome = true := by
  rcases scanNumeral_ok_iff.mp scanned with ⟨-, _, start, -⟩ | ⟨-, _, whole, -⟩
  · exact .inl (List.cons.inj start).1
  · obtain ⟨⟨nonempty, -⟩, taken⟩ := wholePart_ok_iff.mp whole
    exact .inr (takeDigits_start nonempty taken)

theorem skipNumeral_ok_iff {input rest : List Symbol}
    : skipNumeral input = .ok rest ↔ ∃ n, scanNumeral input = .ok (n, rest) := by
  rw [skipNumeral]
  cases scanNumeral input with
  | error fault => simp
  | ok found =>
      constructor
      · intro h
        exact ⟨found.1, by rw [← Except.ok.inj h]⟩
      · rintro ⟨n, h⟩
        cases h
        rfl

namespace Local

theorem someDigits (ds : List Nat)
    : Local fun input rest => Json.someDigits input = .ok (ds, rest) :=
  ((takeDigits ds).given _).congr fun _ _ => someDigits_ok_iff

theorem wholePart (ds : List Nat)
    : Local fun input rest => Json.wholePart input = .ok (ds, rest) :=
  ((takeDigits ds).given _).congr fun _ _ => wholePart_ok_iff

theorem fractionPart (ds : List Nat)
    : Local fun input rest => Json.fractionPart input = .ok (ds, rest) :=
  (((symbol _).seq ((takeDigits ds).given _)).or
    ((stops fun _ _ noPoint _ _ => noPoint).given _)).congr fun _ _ => fractionPart_ok_iff

theorem exponentPart (exponent : Option (Bool × List Nat))
    : Local fun input rest => Json.exponentPart input = .ok (exponent, rest) := by
  have power (negative : Bool) (ds : List Nat) : Local (PowerDigits negative ds) :=
    ((someDigits ds).signed negative).or (((symbol _).seq (someDigits ds)).given _)
  have marked (negative : Bool) (ds : List Nat)
      : Local fun input rest =>
          ∃ after, (input = .char 'e' :: after ∨ input = .char 'E' :: after)
            ∧ PowerDigits negative ds after rest :=
    ((symbol _).or (symbol _)).seq (power negative ds)
  have without : Local fun input rest =>
      input = rest ∧ ∀ s ∈ rest.head?, s ≠ .char 'e' ∧ s ≠ .char 'E' :=
    stops fun _ _ _ noMark noMark' => ⟨noMark, noMark'⟩
  exact ((some fun negative => some fun ds => (marked negative ds).given _).or
    (without.given _)).congr fun _ _ => exponentPart_ok_iff

theorem scanNumeral (n : Numeral)
    : Local fun input rest => Json.scanNumeral input = .ok (n, rest) :=
  (((wholePart n.whole).seq ((fractionPart n.fraction).seq (exponentPart n.exponent))).signed
    n.negative).congr fun _ _ => scanNumeral_ok_iff

theorem readNumber (n : Number)
    : Local fun input rest => Json.readNumber input = .ok (n, rest) := by
  refine (some fun numeral => (scanNumeral numeral).given (numeral.value = .ok n)).congr
    fun input rest => ?_
  rw [Json.readNumber, bind_ok_iff]
  constructor
  · rintro ⟨⟨numeral, after⟩, scanned, valued⟩
    obtain ⟨value, found, same⟩ := bind_ok_iff.mp valued
    obtain ⟨rfl, rfl⟩ := Prod.mk.inj (Except.ok.inj same)
    exact ⟨numeral, found, scanned⟩
  · rintro ⟨numeral, found, scanned⟩
    exact ⟨_, scanned, bind_ok_iff.mpr ⟨n, found, rfl⟩⟩

end Local

-----------------------------------------------------------------------------------------
-- Strings
-----------------------------------------------------------------------------------------

theorem map_prepend_ok_iff {s : Symbol} {result : Except Fault (List Symbol × List Symbol)}
    {read rest : List Symbol}
    : result.map (prepend s) = .ok (read, rest)
      ↔ ∃ tail, read = s :: tail ∧ result = .ok (tail, rest) := by
  rw [map_ok_iff]
  constructor
  · rintro ⟨⟨tail, after⟩, found, same⟩
    obtain ⟨rfl, rfl⟩ := Prod.mk.inj same
    exact ⟨tail, rfl, found⟩
  · rintro ⟨tail, rfl, found⟩
    exact ⟨(tail, rest), found, rfl⟩

theorem stringSymbols_quote (rest : List Symbol)
    : stringSymbols (.char '"' :: rest) = .ok ([], rest) := by
  rw [stringSymbols]

theorem stringSymbols_unicode {a b c d : Symbol} {code : Nat} (rest : List Symbol)
    (digits : hexFour? a b c d = some code) (low : isLowSurrogate code = false)
    (high : isHighSurrogate code = false)
    : stringSymbols (.char '\\' :: .char 'u' :: a :: b :: c :: d :: rest)
      = (stringSymbols rest).map (prepend (.char (Char.ofNat code))) := by
  simp only [stringSymbols, digits, low, high, Bool.false_eq_true, if_false]

theorem stringSymbols_pair {a b c d e f g k : Symbol} {code low : Nat} (rest : List Symbol)
    (digits : hexFour? a b c d = some code) (noLow : isLowSurrogate code = false)
    (high : isHighSurrogate code = true) (more : hexFour? e f g k = some low)
    (isLow : isLowSurrogate low = true)
    : stringSymbols (.char '\\' :: .char 'u' :: a :: b :: c :: d
          :: .char '\\' :: .char 'u' :: e :: f :: g :: k :: rest)
      = (stringSymbols rest).map (prepend (.char (pairChar code low))) := by
  simp only [stringSymbols, digits, noLow, high, more, isLow, Bool.false_eq_true, if_false, if_true]

theorem stringSymbols_letter {mark : Symbol} {c : Char} (rest : List Symbol)
    (letter : escaped? mark = some c)
    : stringSymbols (.char '\\' :: mark :: rest)
      = (stringSymbols rest).map (prepend (.char c)) := by
  have noCode : mark ≠ .char 'u' := by
    rintro rfl
    cases letter
  rw [stringSymbols, letter]
  all_goals simp [noCode]

theorem stringSymbols_stray (byte : UInt8) (rest : List Symbol)
    : stringSymbols (.stray byte :: rest)
      = (stringSymbols rest).map (prepend (.stray byte)) := by
  rw [stringSymbols]

theorem skipString_quote (rest : List Symbol) : skipString (.char '"' :: rest) = .ok rest := by
  rw [skipString]

theorem skipString_letter {mark : Symbol} (rest : List Symbol)
    (letter : (escaped? mark).isSome = true)
    : skipString (.char '\\' :: mark :: rest) = skipString rest := by
  have noCode : mark ≠ .char 'u' := by
    rintro rfl
    cases letter
  rw [skipString, letter, if_pos rfl]
  all_goals simp [noCode]

theorem skipString_plain {c : Char} (rest : List Symbol) (noQuote : c ≠ '"')
    (noEscape : c ≠ '\\') (printable : ¬ c < ' ')
    : skipString (.char c :: rest) = skipString rest := by
  rw [skipString, if_neg printable]
  all_goals simp [noQuote, noEscape]

theorem skipString_stray (byte : UInt8) (rest : List Symbol)
    : skipString (.stray byte :: rest) = skipString rest := by
  rw [skipString]

namespace Local

/-- The symbols of a string are read up to its quote, by the cases of its symbols. -/
theorem stringSymbols (read : List Symbol)
    : Local fun input rest => Json.stringSymbols input = .ok (read, rest) := by
  have step (front : List Symbol) {after : List Symbol} {s : Symbol}
      (reads : ∀ rest, Json.stringSymbols (front ++ rest)
        = (Json.stringSymbols rest).map (prepend s))
      (ih : ∀ read rest, Json.stringSymbols after = .ok (read, rest) →
        ∃ taken, after = taken ++ rest
          ∧ ∀ other, Replaces other rest → Json.stringSymbols (taken ++ other) = .ok (read, other))
      (read rest : List Symbol) (h : (Json.stringSymbols after).map (prepend s) = .ok (read, rest))
      : ∃ taken, front ++ after = taken ++ rest
        ∧ ∀ other, Replaces other rest → Json.stringSymbols (taken ++ other) = .ok (read, other) := by
    obtain ⟨tail, rfl, found⟩ := map_prepend_ok_iff.mp h
    obtain ⟨taken, rfl, again⟩ := ih tail rest found
    refine ⟨front ++ taken, (List.append_assoc _ _ _).symm, fun other replaces => ?_⟩
    rw [List.append_assoc, reads, again other replaces]
    rfl
  intro input rest h
  fun_induction Json.stringSymbols input generalizing read rest with
  | case2 after =>
      obtain ⟨rfl, rfl⟩ := Prod.mk.inj (Except.ok.inj h)
      exact ⟨[.char '"'], rfl, fun other _ => stringSymbols_quote other⟩
  | case9 a b c d code digits noLow high e f g k after low more isLow ih =>
      exact step [_, _, a, b, c, d, _, _, e, f, g, k]
        (fun rest => stringSymbols_pair rest digits (by simpa using noLow) high more isLow) ih _ _ h
  | case13 a b c d after code digits noLow noHigh ih =>
      exact step [_, _, a, b, c, d]
        (fun rest => stringSymbols_unicode rest digits (by simpa using noLow) (by simpa using noHigh))
        ih _ _ h
  | case16 mark after _ _ c letter ih =>
      exact step [_, mark] (fun rest => stringSymbols_letter rest letter) ih _ _ h
  | case18 c after noQuote short _ _ noEscape printable ih =>
      have solid : c ≠ '\\' := by
        cases after with
        | nil => exact short rfl
        | cons mark after => exact noEscape mark after rfl
      exact step [.char c]
        (fun rest => stringSymbols_plain rest noQuote solid printable) ih _ _ h
  | case19 b after ih =>
      exact step [.stray b] (stringSymbols_stray b) ih _ _ h
  | _ => cases h

theorem readString (text : String)
    : Local fun input rest => Json.readString input = .ok (text, rest) := by
  refine (some fun read => (stringSymbols read).given
    ((Text.charsOf? read).map String.ofList = .some text)).congr fun input rest => ?_
  rw [Json.readString, bind_ok_iff]
  constructor
  · rintro ⟨⟨read, after⟩, found, decoded⟩
    dsimp only at decoded
    split at decoded
    · next cs chars =>
      obtain ⟨rfl, rfl⟩ := Prod.mk.inj (Except.ok.inj decoded)
      exact ⟨read, by rw [chars]; rfl, found⟩
    · cases decoded
  · rintro ⟨read, decoded, found⟩
    obtain ⟨cs, chars, rfl⟩ := Option.map_eq_some_iff.mp decoded
    exact ⟨(read, rest), found, by simp only [chars]⟩

/-- A string is passed over up to its quote, by the cases of its symbols. -/
theorem skipString : Local fun input rest => Json.skipString input = .ok rest := by
  have step (front : List Symbol) {after : List Symbol}
      (skips : ∀ rest, Json.skipString (front ++ rest) = Json.skipString rest)
      (ih : ∀ rest, Json.skipString after = .ok rest →
        ∃ taken, after = taken ++ rest
          ∧ ∀ other, Replaces other rest → Json.skipString (taken ++ other) = .ok other)
      (rest : List Symbol) (h : Json.skipString after = .ok rest)
      : ∃ taken, front ++ after = taken ++ rest
        ∧ ∀ other, Replaces other rest → Json.skipString (taken ++ other) = .ok other := by
    obtain ⟨taken, rfl, again⟩ := ih rest h
    refine ⟨front ++ taken, (List.append_assoc _ _ _).symm, fun other replaces => ?_⟩
    rw [List.append_assoc, skips, again other replaces]
  intro input rest h
  fun_induction Json.skipString input generalizing rest with
  | case2 after =>
      obtain rfl := Except.ok.inj h
      exact ⟨[.char '"'], rfl, fun other _ => skipString_quote other⟩
  | case4 a b c d after digits ih =>
      exact step [_, _, a, b, c, d] (fun rest => skipString_code rest digits) ih _ h
  | case7 mark after _ _ letter ih =>
      exact step [_, mark] (fun rest => skipString_letter rest letter) ih _ h
  | case10 c after noQuote short _ _ noEscape printable ih =>
      have solid : c ≠ '\\' := by
        cases after with
        | nil => exact short rfl
        | cons mark after => exact noEscape mark after rfl
      exact step [.char c]
        (fun rest => skipString_plain rest noQuote solid printable) ih _ h
  | case11 b after ih => exact step [.stray b] (skipString_stray b) ih _ h
  | _ => cases h

theorem skipNumeral : Local fun input rest => Json.skipNumeral input = .ok rest :=
  (some scanNumeral).congr fun _ _ => skipNumeral_ok_iff

end Local

end NodeTrial.Json
