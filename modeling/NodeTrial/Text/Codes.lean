import NodeTrial.Text.Division
import NodeTrial.Text.Numeral

/-! Tables of code points that are written as texts. A row of a table holds words with spaces
between them; numbers are hexadecimal, in a range a hyphen stands between the two ends, and in
a row of codes a point stands between any two.
-/

namespace NodeTrial.Text

/-- The number that hexadecimal digits spell. -/
def hexNumber (digits : List Char) : Nat :=
  digits.foldl (fun n c => n * 16 + (hexValue? c).getD 0) 0

def wordsOf (row : String) : List (List Char) :=
  (sections (· == ' ') row.toList).filter fun word => !word.isEmpty

/-- The two ends of a range; a single code is both of them. -/
def codeRange (word : List Char) : Nat × Nat :=
  match splitFirst? (· == '-') word with
  | some (first, last) => (hexNumber first, hexNumber last)
  | none => (hexNumber word, hexNumber word)

def codeRanges (rows : List String) : List (Nat × Nat) :=
  (rows.flatMap wordsOf).map codeRange

/-- The codes that a word holds; the empty word holds none. -/
def codesOf (word : List Char) : List Nat :=
  if word.isEmpty then [] else (sections (· == '.') word).map hexNumber

end NodeTrial.Text
