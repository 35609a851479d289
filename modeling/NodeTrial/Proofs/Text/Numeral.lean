import NodeTrial.Proofs.Text.Blank
import NodeTrial.Text.Numeral

/-! Decimal numerals. What is read as a number is exactly a numeral of that number, and as a word
exactly one of a number that a word can hold. The digits of a number spell that number, no sign or
blank stands among them, and so a word written in digits is read as the word it was.
-/

namespace NodeTrial.Text

theorem natText_toList (n : Nat) : (natText n).toList = Nat.toDigits 10 n :=
  String.toList_ofList

theorem intText_natCast (n : Nat) : intText (n : Int) = natText n :=
  rfl

/-- The text of a negative number is that of its negation after a minus sign. -/
theorem intText_neg (n : Nat) : intText (-((n + 1 : Nat) : Int)) = "-" ++ natText (n + 1) :=
  rfl

theorem digitValue?_of_isDigit {c : Char} (digit : c.isDigit)
    : digitValue? c = some (c.toNat - '0'.toNat) := by
  have bounds := Char.isDigit_iff_toNat.mp digit
  have low : '0' ≤ c := bounds.1
  have high : c ≤ '9' := bounds.2
  rw [digitValue?, if_pos ⟨low, high⟩]

/-- The characters of a number's text are digits. -/
theorem isDigit_of_mem_natText {n : Nat} {c : Char} (h : c ∈ (natText n).toList)
    : c.isDigit := by
  rw [natText_toList] at h
  exact Nat.isDigit_of_mem_toDigits (by decide) (by decide) h

theorem natText_starts (n : Nat)
    : ∃ c cs, (natText n).toList = c :: cs ∧ c.isDigit := by
  have some : (natText n).toList ≠ [] := by
    rw [natText_toList]
    exact Nat.toDigits_ne_nil
  obtain ⟨c, cs, shape⟩ := List.exists_cons_of_ne_nil some
  refine ⟨c, cs, shape, isDigit_of_mem_natText (n := n) ?_⟩
  rw [shape]
  exact List.mem_cons_self

/-- Digits after a value spell the number that they make of it, by induction on the digits. -/
theorem digitsFrom_of_digits {cs : List Char} (digits : ∀ c ∈ cs, c.isDigit)
    : ∀ (value : Nat), digitsFrom value cs = some (Nat.ofDigitChars 10 cs value) := by
  induction cs with
  | nil => exact fun _ => by rw [digitsFrom, Nat.ofDigitChars_nil]
  | cons c rest ih =>
      intro value
      have first := digitValue?_of_isDigit (digits c List.mem_cons_self)
      have others := ih fun d member => digits d (List.mem_cons_of_mem c member)
      simp only [digitsFrom, first, Option.bind_eq_bind, Option.bind_some, others,
        Nat.ofDigitChars_cons]
      rw [Nat.mul_comm]

theorem isDigit_of_digitValue? {c : Char} {d : Nat} (value : digitValue? c = some d)
    : c.isDigit := by
  rw [digitValue?] at value
  split at value
  · next bounds => exact Char.isDigit_iff_toNat.mpr bounds
  · cases value

/-- What spells a number is made of digits, by induction on it. -/
theorem digits_of_digitsFrom {cs : List Char} {n : Nat}
    : ∀ {value : Nat}, digitsFrom value cs = some n → ∀ c ∈ cs, c.isDigit := by
  induction cs with
  | nil => exact fun _ => List.forall_mem_nil _
  | cons c rest ih =>
      intro value spelled
      rw [digitsFrom] at spelled
      obtain ⟨d, first, others⟩ := Option.bind_eq_some_iff.mp spelled
      exact List.forall_mem_cons.mpr ⟨isDigit_of_digitValue? first, ih others⟩

theorem digits?_eq_some_iff {cs : List Char} {n : Nat}
    : digits? cs = some n
      ↔ cs ≠ [] ∧ (∀ c ∈ cs, c.isDigit) ∧ Nat.ofDigitChars 10 cs 0 = n := by
  cases cs with
  | nil => exact iff_of_false nofun fun h => h.1 rfl
  | cons c rest =>
      rw [digits?, and_iff_right (List.cons_ne_nil c rest)]
      constructor
      · intro spelled
        have all := digits_of_digitsFrom spelled
        exact ⟨all, Option.some.inj ((digitsFrom_of_digits all 0).symm.trans spelled)⟩
      · rintro ⟨all, rfl⟩
        exact digitsFrom_of_digits all 0
      · exact List.cons_ne_nil c rest

/-- The numerals of a number: digits, at least one and with any zeros in front, after a plus sign or
after none.
-/
inductive IsNumeral : List Char → Nat → Prop where
  | plain {digits : List Char} (some : digits ≠ []) (all : ∀ c ∈ digits, c.isDigit)
    : IsNumeral digits (Nat.ofDigitChars 10 digits 0)
  | signed {digits : List Char} (some : digits ≠ []) (all : ∀ c ∈ digits, c.isDigit)
    : IsNumeral ('+' :: digits) (Nat.ofDigitChars 10 digits 0)

/-- Numerals are read, and nothing else is. -/
theorem natural?_eq_some_iff {cs : List Char} {n : Nat}
    : natural? cs = some n ↔ IsNumeral cs n := by
  constructor
  · intro spelled
    unfold natural? at spelled
    split at spelled
    · obtain ⟨some, all, rfl⟩ := digits?_eq_some_iff.mp spelled
      exact .signed some all
    · obtain ⟨some, all, rfl⟩ := digits?_eq_some_iff.mp spelled
      exact .plain some all
  · intro numeral
    cases numeral with
    | signed some all => exact digits?_eq_some_iff.mpr ⟨some, all, rfl⟩
    | plain some all =>
        rw [natural?, digits?_eq_some_iff]
        · exact ⟨some, all, rfl⟩
        · rintro rest rfl
          exact absurd (all '+' List.mem_cons_self) (by decide)

theorem digits?_natText (n : Nat) : digits? (natText n).toList = some n := by
  have all := digitsFrom_of_digits (fun c => isDigit_of_mem_natText (n := n) (c := c)) 0
  have value : Nat.ofDigitChars 10 (natText n).toList 0 = n := by
    rw [natText_toList]
    exact Nat.ofDigitChars_ten_toDigits
  obtain ⟨c, cs, shape, -⟩ := natText_starts n
  rw [shape] at all value ⊢
  rw [digits?, all, value]
  exact List.cons_ne_nil c cs

/-- The text of a number is read as the number: it starts with no sign. -/
theorem natural?_natText (n : Nat) : natural? (natText n).toList = some n := by
  obtain ⟨c, cs, shape, digit⟩ := natText_starts n
  rw [natural?, digits?_natText]
  rintro rest signed
  obtain ⟨rfl, -⟩ := List.cons.inj (shape.symm.trans signed)
  exact absurd digit (by decide)

/-- A text that spells the number of a word is read as the word. -/
theorem word?_of_natural? {text : String} {w : UInt64}
    (spelled : natural? text.toList = some w.toNat)
    : word? text = some w := by
  have below : decide (w.toNat < UInt64.size) = true := decide_eq_true w.toNat_lt
  rw [word?, naturalBelow?, spelled, Option.filter_some, if_pos below, Option.map_some,
    UInt64.ofNat_toNat]

/-- A word is read from the numerals of its number, and from nothing else. -/
theorem word?_eq_some_iff {text : String} {w : UInt64}
    : word? text = some w ↔ IsNumeral text.toList w.toNat := by
  rw [← natural?_eq_some_iff]
  constructor
  · intro read
    obtain ⟨value, kept, rfl⟩ := Option.map_eq_some_iff.mp read
    obtain ⟨spelled, below⟩ := Option.filter_eq_some_iff.mp kept
    rw [UInt64.toNat_ofNat_of_lt' (of_decide_eq_true below), spelled]
  · exact word?_of_natural?

theorem word?_ofList_iff {cs : List Char} {w : UInt64}
    : word? (String.ofList cs) = some w ↔ IsNumeral cs w.toNat := by
  rw [word?_eq_some_iff, String.toList_ofList]

/-- The text of a number is read as a word when there is a word of that number. -/
theorem word?_natText_iff {n : Nat} {w : UInt64} : word? (natText n) = some w ↔ w.toNat = n := by
  rw [word?_eq_some_iff, ← natural?_eq_some_iff, natural?_natText, Option.some.injEq, eq_comm]

theorem isBlank_of_isDigit {c : Char} (digit : c.isDigit) : isBlank c = false := by
  have bounds := Char.isDigit_iff_toNat.mp digit
  simp only [Char.reduceToNat] at bounds
  simp [isBlank, inRanges, blankRanges]
  omega

/-- No blank stands in a numeral. -/
theorem IsNumeral.solid {cs : List Char} {n : Nat} (numeral : IsNumeral cs n)
    : ∀ c ∈ cs, isBlank c = false := by
  cases numeral with
  | plain _ all => exact fun c member => isBlank_of_isDigit (all c member)
  | signed _ all =>
      exact List.forall_mem_cons.mpr
        ⟨by decide, fun c member => isBlank_of_isDigit (all c member)⟩

theorem trim_natText (n : Nat) : trim (natText n) = natText n := by
  have solid : ∀ c ∈ (natText n).toList, isBlank c = false :=
    fun c member => isBlank_of_isDigit (isDigit_of_mem_natText member)
  rw [trim, trimChars_of_solid solid, String.ofList_toList]

end NodeTrial.Text
