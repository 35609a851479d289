import Mathlib.Data.List.Induction
import NodeTrial.Proofs.Json.LocalValues
import NodeTrial.Proofs.Json.ObjectText

/-! The literals of whole numbers. Only one text is read as a number that is not negative, the digits
of that number: it has no sign, no zeros in front, no fraction and no exponent.
-/

namespace NodeTrial

open Text (Symbol)

theorem Whole.val_of_ofInt? {n : Int} {w : Whole} (found : Whole.ofInt? n = some w) : w.val = n := by
  rw [Whole.ofInt?] at found
  split at found
  · rw [← Option.some.inj found]
  · cases found

namespace Text

theorem digitChar_of_isDigit {c : Char} (digit : c.isDigit)
    : Nat.digitChar (c.toNat - '0'.toNat) = c := by
  have bounds := Char.isDigit_iff_toNat.mp digit
  simp only [Char.reduceToNat] at bounds ⊢
  apply Char.toNat_inj.mp
  rw [Nat.toNat_digitChar_of_lt_ten (by omega)]
  omega

/-- Digits without needless zeros in front are the digits of their number, by induction on them from
the last one.
-/
theorem toDigits_ofDigitChars {cs : List Char} (digits : ∀ c ∈ cs, c.isDigit) (some : cs ≠ [])
    (whole : ∀ c more, cs ≠ '0' :: c :: more)
    : Nat.toDigits 10 (Nat.ofDigitChars 10 cs 0) = cs := by
  induction cs using List.reverseRecOn with
  | nil => exact absurd rfl some
  | append_singleton front c ih =>
      have bounds := Char.isDigit_iff_toNat.mp (digits c (by simp))
      simp only [Char.reduceToNat] at bounds
      have small : c.toNat - '0'.toNat < 10 := by simp only [Char.reduceToNat]; omega
      have single : Nat.toDigits 10 (c.toNat - '0'.toNat) = [c] := by
        rw [Nat.toDigits_of_lt_base small, digitChar_of_isDigit (digits c (by simp))]
      rw [Nat.ofDigitChars_append, Nat.ofDigitChars_cons, Nat.ofDigitChars_nil]
      rcases front with _ | ⟨d, front⟩
      · rw [Nat.ofDigitChars_nil, Nat.mul_zero, Nat.zero_add, single, List.nil_append]
      · have spelled := ih (fun c member => digits c (List.mem_append_left _ member)) nofun
          fun e more same => whole e (more ++ [c]) (by rw [same]; rfl)
        have positive : 0 < Nat.ofDigitChars 10 (d :: front) 0 := by
          refine Nat.pos_of_ne_zero fun none => ?_
          rw [none] at spelled
          obtain ⟨rfl, rfl⟩ := List.cons.inj spelled
          exact whole c [] rfl
        rw [← Nat.toDigits_append_toDigits (by decide) positive small, spelled, single]

end Text

namespace Json

/-- Digits that are taken stand at the front of the text. -/
theorem exists_digits {input rest : List Symbol} {ds : List Nat}
    (taken : takeDigits input = (ds, rest))
    : ∃ cs : List Char, (∀ c ∈ cs, c.isDigit) ∧ ds = digitValues cs ∧ input = cs.map .char ++ rest := by
  induction input generalizing ds with
  | nil =>
      obtain ⟨rfl, rfl⟩ := Prod.mk.inj taken
      exact ⟨[], List.forall_mem_nil _, rfl, rfl⟩
  | cons s input ih =>
      rw [takeDigits] at taken
      split at taken
      · next d digit =>
        obtain ⟨rfl, rfl⟩ := Prod.mk.inj taken
        obtain ⟨cs, digits, values, whole⟩ := ih rfl
        cases s with
        | stray b => cases digit
        | char c =>
            have isDigit := Text.isDigit_of_digitValue? digit
            obtain rfl : c.toNat - '0'.toNat = d :=
              Option.some.inj ((Text.digitValue?_of_isDigit isDigit).symm.trans digit)
            exact ⟨c :: cs, List.forall_mem_cons.mpr ⟨isDigit, digits⟩, by rw [values]; rfl,
              congrArg (List.cons _) whole⟩
      · obtain ⟨rfl, rfl⟩ := Prod.mk.inj taken
        exact ⟨[], List.forall_mem_nil _, rfl, rfl⟩

theorem digitsValue_eq (cs : List Char) : digitsValue (digitValues cs) = Nat.ofDigitChars 10 cs 0 := by
  rw [digitsValue, digitValues, List.foldl_map, Nat.ofDigitChars_eq_foldl]
  simp only [Nat.mul_comm]

/-- Digits that are all appended to a value make up the number that is reached, by induction on them.
-/
theorem foldl_of_appendDigits {ds : List Nat} {n : Nat}
    : ∀ {value : Nat}, appendDigits value ds = (n, []) → ds.foldl (fun n d => n * 10 + d) value = n := by
  induction ds with
  | nil => exact fun all => (Prod.mk.inj all).1
  | cons d ds ih =>
      intro value all
      rw [appendDigits] at all
      split at all
      · exact ih all
      · cases (Prod.mk.inj all).2

theorem realOf_ne_whole {negative : Bool} {significand : Nat} {exponent : Int} {w : Whole}
    : realOf negative significand exponent ≠ .ok (.whole w) := by
  unfold realOf
  split
  · nofun
  · nofun

/-- A numeral whose value is whole and not negative consists of digits that fit a word. -/
theorem Numeral.value_eq_whole {n : Numeral} {w : Whole} (nonneg : 0 ≤ w.val)
    (valued : n.value = .ok (.whole w))
    : (n.negative = false ∧ n.fraction = [] ∧ n.exponent = none)
      ∧ appendDigits 0 n.whole = (w.val.toNat, []) := by
  unfold Numeral.value at valued
  split at valued
  next leading dropped all =>
  split at valued
  · next noFraction noExponent =>
    split at valued
    · split at valued
      · next bounds =>
        split at valued
        · next found =>
          obtain rfl := Number.whole.inj (Except.ok.inj valued)
          have value := Whole.val_of_ofInt? found
          omega
        · cases valued
      · exact absurd valued realOf_ne_whole
    · next unsigned =>
      split at valued
      · next found =>
        obtain rfl := Number.whole.inj (Except.ok.inj valued)
        rw [Whole.val_of_ofInt? found, Int.toNat_natCast]
        exact ⟨⟨eq_false_of_ne_true unsigned, noFraction, noExponent⟩, all⟩
      · cases valued
  · dsimp only at valued
    split at valued
    · exact absurd valued realOf_ne_whole
    · split at valued
      · exact absurd valued realOf_ne_whole
      · split at valued
        · cases valued
        · cases valued

/-- A number that is not negative is read whole only from its digits. -/
theorem digits_of_readNumber {input : List Symbol} {w : Whole} (nonneg : 0 ≤ w.val)
    (read : readNumber input = .ok (.whole w, []))
    : input = (Text.natText w.val.toNat).toList.map .char := by
  obtain ⟨⟨numeral, rest⟩, scanned, h⟩ := bind_ok_iff.mp read
  obtain ⟨number, valued, same⟩ := bind_ok_iff.mp h
  obtain ⟨rfl, rfl⟩ := Prod.mk.inj (Except.ok.inj same)
  obtain ⟨⟨unsigned, noFraction, noExponent⟩, all⟩ := numeral.value_eq_whole nonneg valued
  rcases scanNumeral_ok_iff.mp scanned with ⟨signed, -⟩ | ⟨-, afterWhole, whole, afterFraction, parts⟩
  · rw [unsigned] at signed
    cases signed
  · obtain ⟨fraction, exponent⟩ := parts
    obtain ⟨-, -, some, -⟩ | ⟨-, rfl, -⟩ := fractionPart_ok_iff.mp fraction
    · exact absurd noFraction some
    obtain ⟨_, _, some, -⟩ | ⟨-, rfl, -⟩ := exponentPart_ok_iff.mp exponent
    · rw [noExponent] at some
      cases some
    obtain ⟨⟨some, noZero⟩, taken⟩ := wholePart_ok_iff.mp whole
    obtain ⟨cs, digits, values, rfl⟩ := exists_digits taken
    have value : Nat.ofDigitChars 10 cs 0 = w.val.toNat := by
      rw [← digitsValue_eq, ← values]
      exact foldl_of_appendDigits all
    rw [values] at some noZero
    have spelled := Text.toDigits_ofDigitChars digits (by simpa [digitValues] using some)
      fun c more same => noZero _ _ (congrArg digitValues same)
    rw [List.append_nil, Text.natText_toList, ← value, spelled]

/-- A value is read as a number that is not negative only from its digits, blanks before them aside. -/
theorem exists_literal {depth : Nat} {text : List Symbol} {w : Whole} (nonneg : 0 ≤ w.val)
    (read : readTree depth text = .ok (.number (.whole w), []))
    : ∃ blanks, Blank blanks ∧ text = blanks ++ (Text.natText w.val.toNat).toList.map .char := by
  rcases readTree_ok_iff.mp read with
    ⟨_, _, ⟨-, impossible⟩, -⟩ | ⟨_, _, ⟨-, impossible⟩, -⟩ | ⟨s, after, start, -, scalar⟩
  · cases impossible
  · cases impossible
  · obtain ⟨blanks, rfl, blank⟩ := exists_blanks start
    refine ⟨blanks, blank, ?_⟩
    rcases readScalar_ok_iff.mp scalar with
      ⟨impossible, -⟩ | ⟨impossible, -⟩ | ⟨impossible, -⟩ | ⟨_, impossible, -⟩ | ⟨number, same, read⟩
    · cases impossible
    · cases impossible
    · cases impossible
    · cases impossible
    · obtain rfl := Json.number.inj same
      rw [digits_of_readNumber nonneg read]

end Json

end NodeTrial
