import NodeTrial.Json.Numeral
import NodeTrial.Json.Printer
import NodeTrial.Proofs.Text.Numeral

/-! Whole numbers in JSON text read back. The reader takes digits as far as they go, so what
follows a number must not be able to extend it.
-/

namespace NodeTrial

open Text (Symbol)

theorem Whole.ofInt?_val (n : Whole) : Whole.ofInt? n.val = some n := by
  rw [Whole.ofInt?, dif_pos n.inRange]

namespace Json

/-- A text cannot extend a number that stands before it: it starts with no digit, no point and
no exponent mark.
-/
def EndsNumber (rest : List Symbol) : Prop :=
  ∀ s ∈ rest.head?, digitOf? s = none ∧ s ≠ .char '.' ∧ s ≠ .char 'e' ∧ s ≠ .char 'E'

theorem EndsNumber.nil : EndsNumber [] := by
  simp [EndsNumber]

theorem EndsNumber.cons {s : Symbol} (rest : List Symbol)
    (other : digitOf? s = none ∧ s ≠ .char '.' ∧ s ≠ .char 'e' ∧ s ≠ .char 'E')
    : EndsNumber (s :: rest) := by
  intro first member
  have same : s = first := by simpa using member
  exact same ▸ other

/-- The values of digits. -/
def digitValues (cs : List Char) : List Nat :=
  cs.map fun c => c.toNat - '0'.toNat

/-- The digits before a text that starts with none are taken, by induction on the digits. -/
theorem takeDigits_append {cs : List Char} {rest : List Symbol} (ends : EndsNumber rest)
    (digits : ∀ c ∈ cs, c.isDigit)
    : takeDigits (cs.map .char ++ rest) = (digitValues cs, rest) := by
  induction cs with
  | nil =>
      cases rest with
      | nil => rfl
      | cons s after =>
          have none : digitOf? s = none := (ends s rfl).1
          rw [List.map_nil, List.nil_append, takeDigits, none]
          rfl
  | cons c cs ih =>
      have first : digitOf? (.char c) = some (c.toNat - '0'.toNat) :=
        Text.digitValue?_of_isDigit (digits c List.mem_cons_self)
      have others := ih fun d member => digits d (List.mem_cons_of_mem c member)
      rw [List.map_cons, List.cons_append, takeDigits, first]
      simp only [others]
      rfl

/-- The digits of a positive number do not start with a zero, by induction on their number. -/
theorem head_toDigits_ne_zero (n : Nat) (positive : 0 < n)
    : ∀ c ∈ (Nat.toDigits 10 n).head?, c.toNat - '0'.toNat ≠ 0 := by
  induction n using Nat.strongRecOn with
  | ind n ih =>
      intro c first
      by_cases small : n < 10
      · rw [Nat.toDigits_of_lt_base small] at first
        have same : n.digitChar = c := by simpa using first
        have value : ∀ d < 10, 0 < d → d.digitChar.toNat - '0'.toNat ≠ 0 := by decide
        exact same ▸ value n small positive
      · have more : 10 ≤ n := Nat.le_of_not_lt small
        rw [Nat.toDigits_of_base_le (by decide) more,
          List.head?_append, Option.mem_def,
          Option.or_of_isSome (List.isSome_head?.mpr Nat.toDigits_ne_nil)] at first
        exact ih (n / 10) (by omega) (by omega) c first

/-- The whole part of a number written in digits is those digits: they have no zero in front. -/
theorem wholePart_natText {rest : List Symbol} (ends : EndsNumber rest) (n : Nat)
    : wholePart ((Text.natText n).toList.map .char ++ rest)
      = .ok (digitValues (Text.natText n).toList, rest) := by
  have taken := takeDigits_append ends fun c => Text.isDigit_of_mem_natText (n := n) (c := c)
  have leading := head_toDigits_ne_zero n
  have zero : n = 0 → (Text.natText n).toList = ['0'] := by
    rintro rfl
    rfl
  obtain ⟨c, others, shape, -⟩ := Text.natText_starts n
  rw [← Text.natText_toList] at leading
  rw [shape] at taken leading zero ⊢
  have found : someDigits ((c :: others).map .char ++ rest)
      = .ok (digitValues (c :: others), rest) := by
    unfold someDigits
    rw [taken]
    rfl
  simp only [wholePart, found, bind, Except.bind]
  split
  · next second more rest' same =>
    exfalso
    obtain ⟨first, following⟩ := List.cons.inj (Prod.mk.inj same).1
    by_cases none : n = 0
    · have single := (List.cons.inj (zero none)).2
      subst single
      exact absurd following (by simp)
    · exact leading (Nat.pos_of_ne_zero none) c rfl first
  · rfl

theorem fractionPart_of_ends {rest : List Symbol} (ends : EndsNumber rest)
    : fractionPart rest = .ok ([], rest) := by
  unfold fractionPart
  split
  · next after => exact absurd rfl (ends (.char '.') rfl).2.1
  · rfl

theorem exponentPart_of_ends {rest : List Symbol} (ends : EndsNumber rest)
    : exponentPart rest = .ok (none, rest) := by
  unfold exponentPart
  split
  · next after => exact absurd rfl (ends (.char 'e') rfl).2.2.1
  · next after => exact absurd rfl (ends (.char 'E') rfl).2.2.2
  · rfl

/-- Digits appended to a value never make it smaller, by induction on the digits. -/
theorem le_foldl_digits (ds : List Nat)
    : ∀ (value : Nat), value ≤ ds.foldl (fun n d => n * 10 + d) value := by
  induction ds with
  | nil => exact fun value => Nat.le_refl value
  | cons d rest ih =>
      intro value
      have after := ih (value * 10 + d)
      rw [List.foldl_cons]
      omega

/-- Digits whose number fits a word are all appended, by induction on the digits. -/
theorem appendDigits_of_fits (ds : List Nat)
    : ∀ (value : Nat), ds.foldl (fun n d => n * 10 + d) value < UInt64.size →
        appendDigits value ds = (ds.foldl (fun n d => n * 10 + d) value, []) := by
  induction ds with
  | nil => exact fun value _ => rfl
  | cons d rest ih =>
      intro value fits
      have first := le_foldl_digits rest (value * 10 + d)
      rw [List.foldl_cons] at fits ⊢
      rw [appendDigits, if_pos (by omega), ih _ fits]

theorem appendDigits_natText {n : Nat} (fits : n < UInt64.size)
    : appendDigits 0 (digitValues (Text.natText n).toList) = (n, []) := by
  have value : (digitValues (Text.natText n).toList).foldl (fun n d => n * 10 + d) 0 = n := by
    rw [digitValues, List.foldl_map, Text.natText_toList]
    have spelled : Nat.ofDigitChars 10 (Nat.toDigits 10 n) 0 = n :=
      Nat.ofDigitChars_ten_toDigits
    rw [Nat.ofDigitChars_eq_foldl] at spelled
    simpa only [Nat.mul_comm] using spelled
  rw [appendDigits_of_fits _ 0 (by rwa [value]), value]

/-- A number without a sign, a point or an exponent is scanned as its digits. -/
theorem scanNumeral_natText {rest : List Symbol} (ends : EndsNumber rest) (n : Nat)
    : scanNumeral ((Text.natText n).toList.map .char ++ rest)
      = .ok (⟨false, digitValues (Text.natText n).toList, [], none⟩, rest) := by
  have whole := wholePart_natText ends n
  have fraction := fractionPart_of_ends ends
  have exponent := exponentPart_of_ends ends
  unfold scanNumeral
  split
  next negative input sign =>
    split at sign
    · next after signed =>
      obtain ⟨c, cs, shape, digit⟩ := Text.natText_starts n
      rw [shape, List.map_cons, List.cons_append] at signed
      obtain ⟨rfl⟩ := Symbol.char.inj (List.cons.inj signed).1
      exact absurd digit (by decide)
    · next input' =>
      obtain ⟨rfl, rfl⟩ := Prod.mk.inj sign
      simp only [whole, fraction, exponent, bind, Except.bind]

theorem scanNumeral_minus {rest : List Symbol} (ends : EndsNumber rest) (n : Nat)
    : scanNumeral (.char '-' :: ((Text.natText n).toList.map .char ++ rest))
      = .ok (⟨true, digitValues (Text.natText n).toList, [], none⟩, rest) := by
  have whole := wholePart_natText ends n
  have fraction := fractionPart_of_ends ends
  have exponent := exponentPart_of_ends ends
  simp only [scanNumeral, whole, fraction, exponent, bind, Except.bind]

section Value

variable {numeral : Numeral} {m : Nat} {n : Whole}
variable (noFraction : numeral.fraction = []) (noExponent : numeral.exponent = none)

include noFraction noExponent

theorem Numeral.value_of_digits (unsigned : numeral.negative = false)
    (spelled : numeral.whole = digitValues (Text.natText m).toList) (value : n.val = m)
    : numeral.value = .ok (.whole n) := by
  have same := Whole.ofInt?_val n
  have high := n.inRange.2
  rw [value] at same high
  have leading : appendDigits 0 numeral.whole = (m, []) := by
    rw [spelled]
    exact appendDigits_natText (by simp only [UInt64.size]; omega)
  unfold Numeral.value
  rw [leading, noFraction, noExponent, unsigned]
  simp only [Bool.false_eq_true, if_false, same]

theorem Numeral.value_of_minus (signed : numeral.negative = true)
    (spelled : numeral.whole = digitValues (Text.natText m).toList) (value : n.val = -(m : Int))
    (positive : 1 ≤ m)
    : numeral.value = .ok (.whole n) := by
  have same := Whole.ofInt?_val n
  have low := n.inRange.1
  rw [value] at same low
  have most : m ≤ 0x8000000000000000 := by omega
  have leading : appendDigits 0 numeral.whole = (m, []) := by
    rw [spelled]
    exact appendDigits_natText (by simp only [UInt64.size]; omega)
  unfold Numeral.value
  rw [leading, noFraction, noExponent, signed]
  simp only [if_true, positive, most, and_self, same]

end Value

theorem writtenNumber_starts (n : Whole)
    : ∃ c cs, writtenNumber (.whole n) = c :: cs ∧ (c = '-' ∨ c.isDigit) := by
  rw [writtenNumber]
  cases n.val with
  | ofNat m =>
      obtain ⟨c, cs, shape, digit⟩ := Text.natText_starts m
      exact ⟨c, cs, shape, .inr digit⟩
  | negSucc m =>
      refine ⟨'-', (Text.natText (m + 1)).toList, ?_, .inl rfl⟩
      rw [Text.intText, String.toList_append]
      rfl

/-- A whole number is read back from its text, wherever it can end: without a sign as its digits
are, with one as their negation.
-/
theorem readNumber_written (n : Whole) {rest : List Symbol} (ends : EndsNumber rest)
    : readNumber ((writtenNumber (.whole n)).map .char ++ rest) = .ok (.whole n, rest) := by
  have cases : (∃ m : Nat, n.val = m) ∨ ∃ m : Nat, n.val = -((m + 1 : Nat) : Int) := by
    cases n.val with
    | ofNat m => exact .inl ⟨m, rfl⟩
    | negSucc m => exact .inr ⟨m, rfl⟩
  rcases cases with ⟨m, value⟩ | ⟨m, value⟩
  · have read : Numeral.value ⟨false, digitValues (Text.natText m).toList, [], none⟩
        = .ok (.whole n) := by
      apply Numeral.value_of_digits _ _ _ _ value <;> rfl
    rw [readNumber, writtenNumber, value, Text.intText_natCast, scanNumeral_natText ends]
    simp only [bind, Except.bind, read]
  · have minus : ("-" ++ Text.natText (m + 1)).toList.map Symbol.char
        = .char '-' :: (Text.natText (m + 1)).toList.map .char := by
      rw [String.toList_append]
      rfl
    have read : Numeral.value ⟨true, digitValues (Text.natText (m + 1)).toList, [], none⟩
        = .ok (.whole n) := by
      apply Numeral.value_of_minus _ _ _ _ value (Nat.succ_pos m) <;> rfl
    rw [readNumber, writtenNumber, value, Text.intText_neg, minus, List.cons_append,
      scanNumeral_minus ends]
    simp only [bind, Except.bind, read]

end Json

end NodeTrial
