/-! Patterns of names: a question mark stands for any character, an asterisk for any number of
them, and a bracket for one character of a set. A quoted character stands for itself.
-/

namespace NodeTrial.Script

/-- A character of an expanded word, and whether it was quoted. -/
structure Glyph where
  char : Char
  quoted : Bool
  deriving DecidableEq, Repr

/-- A part of a pattern. -/
inductive Glob where
  | char (c : Char)
  | one
  | many
  | set (negated : Bool) (ranges : List (Char × Char))
  deriving DecidableEq, Repr

namespace Glob

/-- The ranges of a named class of characters. -/
def classRanges (name : String) : List (Char × Char) :=
  match name with
  | "alpha" => [('A', 'Z'), ('a', 'z')]
  | "digit" => [('0', '9')]
  | "alnum" => [('0', '9'), ('A', 'Z'), ('a', 'z')]
  | "upper" => [('A', 'Z')]
  | "lower" => [('a', 'z')]
  | "space" => [('\t', '\r'), (' ', ' ')]
  | "blank" => [('\t', '\t'), (' ', ' ')]
  | "punct" => [('!', '/'), (':', '@'), ('[', '\x60'), ('\x7b', '~')]
  | "print" => [(' ', '~')]
  | "graph" => [('!', '~')]
  | "cntrl" => [('\x00', '\x1f'), ('\x7f', '\x7f')]
  | "xdigit" => [('0', '9'), ('A', 'F'), ('a', 'f')]
  | _ => []

/-- An unquoted character. -/
def isBare (c : Char) (g : Glyph) : Bool :=
  g == ⟨c, false⟩

/-- Takes the members of a set up to its bracket; the first one may be a bracket. -/
def takeMembers : (bound : Nat) → (isFirst : Bool) → List Glyph
    → Option (List (Char × Char) × List Glyph)
  | 0, _, _ => none
  | _, _, [] => none
  | bound + 1, isFirst, g :: rest =>
    if isBare ']' g ∧ ¬isFirst then some ([], rest)
    else
      let (ranges, after) := match g, rest with
        | ⟨'[', false⟩, ⟨':', _⟩ :: more =>
          let name := (more.takeWhile (·.char != ':')).map Glyph.char
          match more.drop name.length with
          | _ :: ⟨']', _⟩ :: after => (classRanges (String.ofList name), after)
          | _ => ([(g.char, g.char)], rest)
        | _, ⟨'-', false⟩ :: last :: more =>
          if isBare ']' last then ([(g.char, g.char)], rest) else ([(g.char, last.char)], more)
        | _, _ => ([(g.char, g.char)], rest)
      (takeMembers bound false after).map fun (more, left) => (ranges ++ more, left)

/-- The parts of a pattern; `bound` is at least its length. -/
def ofGlyphsFrom : (bound : Nat) → List Glyph → List Glob
  | 0, _ => []
  | _, [] => []
  | bound + 1, g :: rest =>
    if isBare '?' g then .one :: ofGlyphsFrom bound rest
    else if isBare '*' g then .many :: ofGlyphsFrom bound rest
    else if isBare '[' g then
      let negated := rest.head?.any fun first => isBare '!' first || isBare '^' first
      match takeMembers (rest.length + 1) true (if negated then rest.drop 1 else rest) with
      | some (ranges, after) => .set negated ranges :: ofGlyphsFrom bound after
      | none => .char '[' :: ofGlyphsFrom bound rest
    else .char g.char :: ofGlyphsFrom bound rest

/-- The parts of a pattern. -/
def ofGlyphs (glyphs : List Glyph) : List Glob :=
  ofGlyphsFrom glyphs.length glyphs

/-- A character is one that a part of a pattern stands for. -/
def accepts : Glob → Char → Bool
  | .char c, d => c = d
  | .one, _ | .many, _ => true
  | .set negated ranges, d => negated != ranges.any fun (low, high) => low ≤ d ∧ d ≤ high

/-- The ends of a text, the longest first. -/
def ends : List Char → List (List Char)
  | [] => [[]]
  | c :: rest => (c :: rest) :: ends rest

/-- A pattern stands for a text. -/
def matchesText : List Glob → List Char → Bool
  | [], cs => cs.isEmpty
  | .many :: globs, cs => (ends cs).any fun rest => matchesText globs rest
  | glob :: globs, cs =>
    match cs with
    | [] => false
    | c :: rest => glob.accepts c && matchesText globs rest

/-- The lengths from zero to that of a text, falling if the longest is wanted first. -/
def lengths (longest : Bool) (cs : List Char) : List Nat :=
  let rising := List.range (cs.length + 1)
  if longest then rising.reverse else rising

/-- The length of the longest or shortest front part of a text that a pattern stands for. -/
def frontLength? (longest : Bool) (globs : List Glob) (cs : List Char) : Option Nat :=
  (lengths longest cs).find? fun n => matchesText globs (cs.take n)

/-- A text without the longest or shortest part at its front or its end that a pattern stands
for.
-/
def cut (atEnd longest : Bool) (globs : List Glob) (cs : List Char) : List Char :=
  if atEnd then
    match (lengths longest cs).find? fun n => matchesText globs (cs.drop (cs.length - n)) with
    | some n => cs.take (cs.length - n)
    | none => cs
  else
    match frontLength? longest globs cs with
    | some n => cs.drop n
    | none => cs

/-- A text in which the longest parts that a pattern stands for are replaced, all of them or the
first one; an empty part is none.
-/
def replace (all : Bool) (globs : List Glob) (text : List Char) : (bound : Nat) → List Char
    → List Char
  | 0, cs => cs
  | _, [] => []
  | bound + 1, c :: rest =>
    match (frontLength? true globs (c :: rest)).filter (· != 0) with
    | some n =>
      let after := (c :: rest).drop n
      text ++ (if all then replace all globs text bound after else after)
    | none => c :: replace all globs text bound rest

/-- A text in which parts that a pattern stands for are replaced. A pattern that starts with a
number sign or a percent sign stands for a part at the front or at the end only.
-/
def replaced (all : Bool) (glyphs : List Glyph) (text cs : List Char) : List Char :=
  match glyphs with
  | ⟨'#', false⟩ :: pattern =>
    match frontLength? true (ofGlyphs pattern) cs with
    | some n => text ++ cs.drop n
    | none => cs
  | ⟨'%', false⟩ :: pattern =>
    match (lengths true cs).find? fun n =>
      matchesText (ofGlyphs pattern) (cs.drop (cs.length - n)) with
    | some n => cs.take (cs.length - n) ++ text
    | none => cs
  | _ => replace all (ofGlyphs glyphs) text (cs.length + 1) cs

end Glob

end NodeTrial.Script
