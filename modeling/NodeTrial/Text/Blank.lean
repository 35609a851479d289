/-! Blank characters and trimming. A character is blank when Unicode gives it the property
White_Space; trimming takes blanks off both ends of a text and leaves the middle alone.
-/

namespace NodeTrial.Text

/-- The inclusive code point ranges with the property White_Space, in rising order. -/
def blankRanges : List (Nat × Nat) :=
  [(0x09, 0x0D), (0x20, 0x20), (0x85, 0x85), (0xA0, 0xA0), (0x1680, 0x1680),
   (0x2000, 0x200A), (0x2028, 0x2029), (0x202F, 0x202F), (0x205F, 0x205F), (0x3000, 0x3000)]

/-- A code point lies in one of the inclusive ranges. -/
def inRanges (ranges : List (Nat × Nat)) (code : Nat) : Bool :=
  ranges.any fun range => range.1 ≤ code && code ≤ range.2

/-- A character is blank when its code point lies in one of the blank ranges. -/
def isBlank (c : Char) : Bool :=
  inRanges blankRanges c.toNat

/-- Takes the blanks off both ends of a list of characters. -/
def trimChars (cs : List Char) : List Char :=
  ((cs.dropWhile isBlank).reverse.dropWhile isBlank).reverse

/-- Takes the blanks off both ends of a text. -/
def trim (s : String) : String :=
  String.ofList (trimChars s.toList)

/-- A text is blank when all its characters are; the empty text is blank. -/
def isBlankText (s : String) : Bool :=
  s.toList.all isBlank

end NodeTrial.Text
