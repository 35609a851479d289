import NodeTrial.Json.Scan
import NodeTrial.Json.Printer
import NodeTrial.Proofs.Text.Utf8

/-! Strings in JSON text read back: every character, whether it stands for itself or is escaped, is
read as the character it was written for.
-/

namespace NodeTrial

open Text (Symbol)

namespace Json

/-- No blank stands at the front of a text that starts with another symbol. -/
theorem skipSpace_cons {s : Symbol} (rest : List Symbol) (solid : isSpace s = false)
    : skipSpace (s :: rest) = s :: rest := by
  rw [skipSpace, List.dropWhile_cons_of_neg]
  simp [solid]

theorem literal_append (cs : List Char) (rest : List Symbol)
    : literal (cs.map .char ++ rest) cs = .ok rest := by
  induction cs with
  | nil => rw [List.map_nil, List.nil_append, literal]
  | cons c cs ih => rw [List.map_cons, List.cons_append, literal, if_pos rfl, ih]

theorem stringSymbols_plain {c : Char} (rest : List Symbol) (noQuote : c ≠ '"')
    (noEscape : c ≠ '\\') (printable : ¬ c < ' ')
    : stringSymbols (.char c :: rest) = (stringSymbols rest).map (prepend (.char c)) := by
  rw [stringSymbols, if_neg printable]
  all_goals simp [noQuote, noEscape]

theorem stringSymbols_code {c : Char} (rest : List Symbol) (control : c < ' ')
    : stringSymbols (.char '\\' :: .char 'u' :: .char '0' :: .char '0'
          :: .char (Nat.digitChar (c.toNat / 16)) :: .char (Nat.digitChar (c.toNat % 16)) :: rest)
      = (stringSymbols rest).map (prepend (.char c)) := by
  have small : c.toNat < 32 := control
  have codes : ∀ n < 32,
      hexFour? (.char '0') (.char '0') (.char (Nat.digitChar (n / 16)))
        (.char (Nat.digitChar (n % 16))) = some n := by decide
  have high : isHighSurrogate c.toNat = false := by
    simp [isHighSurrogate]
    omega
  have low : isLowSurrogate c.toNat = false := by
    simp [isLowSurrogate]
    omega
  simp only [stringSymbols, codes c.toNat small, high, low, Bool.false_eq_true, if_false,
    Char.ofNat_toNat]

/-- A character of a string is read back from how it is written. -/
theorem stringSymbols_writtenChar (c : Char) (rest : List Symbol)
    : stringSymbols ((writtenChar c).map .char ++ rest)
      = (stringSymbols rest).map (prepend (.char c)) := by
  unfold writtenChar
  split
  · next quote =>
    subst quote
    simp only [List.map_cons, List.map_nil, List.cons_append, List.nil_append]
    rfl
  · next noQuote =>
    split
    · next escape =>
      subst escape
      simp only [List.map_cons, List.map_nil, List.cons_append, List.nil_append]
      rfl
    · next noEscape =>
      split
      · next control =>
        unfold controlEscape
        split
        all_goals
          simp only [List.map_cons, List.map_nil, List.cons_append, List.nil_append]
        · rfl
        · rfl
        · rfl
        · rfl
        · rfl
        · exact stringSymbols_code rest control
      · next printable => exact stringSymbols_plain rest noQuote noEscape printable

/-- The characters of a string are read back up to the closing quote, by induction on them. -/
theorem stringSymbols_writtenChars (cs : List Char) (rest : List Symbol)
    : stringSymbols ((cs.flatMap writtenChar).map .char ++ .char '"' :: rest)
      = .ok (cs.map .char, rest) := by
  induction cs with
  | nil => rfl
  | cons c cs ih =>
      rw [List.flatMap_cons, List.map_append, List.append_assoc, stringSymbols_writtenChar, ih]
      rfl

/-- A string is read back after its opening quote. -/
theorem readString_written (s : String) (rest : List Symbol)
    : readString ((s.toList.flatMap writtenChar).map .char ++ .char '"' :: rest)
      = .ok (s, rest) := by
  simp only [readString, stringSymbols_writtenChars, bind, Except.bind,
    Text.charsOf?_map_char, String.ofList_toList]

end Json

end NodeTrial
