import NodeTrial.Executor.Script.Calculation
import NodeTrial.Executor.Script.Pattern

/-! From words to fields. A word falls into several fields where values outside of quotes hold
separators, and where it stands for all arguments. In the extended dialect braces in a word make
several words of it first.
-/

namespace NodeTrial.Script

/-- A piece of an expanded word: a text of the script, a text that was quoted, a value that may be
divided, or the boundary between two arguments.
-/
inductive Piece where
  | bare (text : String)
  | quoted (text : String)
  | divided (text : String)
  | boundary
  deriving DecidableEq, Repr

namespace Piece

def text : Piece → String
  | .bare text | .quoted text | .divided text => text
  | .boundary => " "

/-- The characters of a piece in a pattern. -/
def glyphs : Piece → List Glyph
  | .quoted text => text.toList.map fun c => ⟨c, true⟩
  | piece => piece.text.toList.map fun c => ⟨c, false⟩

/-- A piece of a text that stands in for a value outside of quotes. -/
def ofValue : Piece → Piece
  | .bare text => .divided text
  | piece => piece

end Piece

/-- Fields under way: those finished, the latest first, the one begun, if any, and whether blanks
have just ended one.
-/
structure Fields where
  done : List String
  current : Option String
  afterBlank : Bool
  deriving DecidableEq, Repr

namespace Fields

/-- Goes on with the field under way. -/
def extend (f : Fields) (text : String) : Fields :=
  { f with current := some (f.current.getD "" ++ text), afterBlank := false }

/-- Ends the field under way, if there is one. -/
def close (f : Fields) : Fields :=
  match f.current with
  | some text => ⟨text :: f.done, none, true⟩
  | none => f

def isBlank (c : Char) : Bool :=
  c == ' ' || c == '\t' || c == '\n'

/-- Goes on with a character of a value: a separator ends a field, and one that is no blank ends
an empty field too.
-/
def addDivided (separators : List Char) (f : Fields) (c : Char) : Fields :=
  if !separators.contains c then f.extend c.toString
  else if isBlank c then f.close
  else if f.current.isNone ∧ f.afterBlank then { f with afterBlank := false }
  else ⟨f.current.getD "" :: f.done, none, false⟩

/-- Goes on with a piece. A boundary may take the separator after it with it. -/
def add (takesNext : Bool) (separators : List Char) (f : Fields) : Piece → Fields
  | .bare text => if text.isEmpty then f else f.extend text
  | .quoted text => f.extend text
  | .divided text => text.toList.foldl (addDivided separators) f
  | .boundary => { f.close with afterBlank := takesNext }

/-- The fields of the pieces of a word. -/
def ofPieces (takesNext : Bool) (separators : List Char) (pieces : List Piece) : List String :=
  (pieces.foldl (add takesNext separators) ⟨[], none, false⟩).close.done.reverse

/-- The fields that a line is divided into for some number of variables; the last one takes all
that is left but blanks at the end. A character may be marked as no separator.
-/
def ofLine (separators : List Char) : (count : Nat) → List (Char × Bool) → List String
  | 0, _ => []
  | count + 1, cs =>
    let separates (c : Char × Bool) : Bool := !c.2 && separators.contains c.1
    let blank (c : Char × Bool) : Bool := separates c && isBlank c.1
    let cs := cs.dropWhile blank
    if count = 0 then
      let trimmed := (cs.reverse.dropWhile blank).reverse
      let one := trimmed.takeWhile fun c => !separates c
      let rest := (trimmed.drop one.length).dropWhile blank
      let isLone := rest.length = 1 && rest.head?.any separates
      [String.ofList ((if isLone then one else trimmed).map (·.1))]
    else
      let field := cs.takeWhile fun c => !separates c
      let rest := (cs.drop field.length).dropWhile blank
      let rest := match rest with
        | c :: more => if separates c then more else rest
        | [] => []
      String.ofList (field.map (·.1)) :: ofLine separators count rest

end Fields

namespace Braces

/-- A character of a word that may be a brace, or a part of it that holds none. -/
inductive Sign where
  | char (c : Char)
  | part (part : Part)

def signs (word : List Part) : List Sign :=
  word.flatMap fun part =>
    match part with
    | .text text false => text.toList.map .char
    | part => [.part part]

/-- The parts of a word again. -/
def parts (signs : List Sign) : List Part :=
  signs.map fun sign =>
    match sign with
    | .char c => .text c.toString false
    | .part part => part

/-- The choices between braces, and what follows them; none without the closing brace. -/
def choices? : (depth : Nat) → List Sign → Option (List (List Sign) × List Sign)
  | _, [] => none
  | depth, sign :: rest =>
    let go (depth : Nat) : Option (List (List Sign) × List Sign) :=
      (choices? depth rest).map fun (choices, after) =>
        match choices with
        | first :: more => ((sign :: first) :: more, after)
        | [] => ([[sign]], after)
    match sign with
    | .char '\x7b' => go (depth + 1)
    | .char '\x7d' => if depth = 0 then some ([[]], rest) else go (depth - 1)
    | .char ',' =>
      if depth = 0 then (choices? 0 rest).map fun (choices, after) => ([] :: choices, after)
      else go depth
    | _ => go depth

/-- The texts from one end to another by steps of a size. -/
def range (first last : Int) (step : Nat) (text : Int → String) : List String :=
  let count := (last - first).natAbs / max step 1 + 1
  (List.range count).map fun (n : Nat) =>
    let distance : Int := max step 1 * n
    text (if first ≤ last then first + distance else first - distance)

/-- The row of numbers or letters that a text between braces stands for. -/
def row? (signs : List Sign) : Option (List String) := do
  let cs ← signs.mapM fun sign =>
    match sign with
    | .char c => some c
    | .part _ => none
  let (ends, step) ← match (String.ofList cs).splitOn ".." with
    | [first, last] => some ((first, last), 1)
    | [first, last, step] =>
      (Text.integer? step.toList).map fun n => ((first, last), n.natAbs)
    | _ => none
  match Text.integer? ends.1.toList, Text.integer? ends.2.toList with
  | some first, some last =>
    let isPadded (s : String) : Bool :=
      let digits := s.toList.filter Text.isDigit
      digits.head? = some '0' && digits.length != 1
    let width :=
      if isPadded ends.1 || isPadded ends.2 then max ends.1.length ends.2.length else 0
    return range first last step fun n =>
      let digits := (Text.natText n.natAbs).toList
      let sign := if n < 0 then ['-'] else []
      String.ofList (sign ++
        List.replicate (width - sign.length - digits.length) '0' ++ digits)
  | _, _ =>
    match ends.1.toList, ends.2.toList with
    | [a], [b] =>
      if a.isAlpha ∧ b.isAlpha then
        return range a.toNat b.toNat step fun n => (Char.ofNat n.toNat).toString
      else none
    | _, _ => none

/-- The words that the braces in a word make of it; `bound` is more than its length. -/
def expandFrom : (bound : Nat) → List Sign → List (List Sign)
  | 0, signs => [signs]
  | _, [] => [[]]
  | bound + 1, .char '\x7b' :: rest =>
    let plain := (expandFrom bound rest).map (.char '\x7b' :: ·)
    match choices? 0 rest with
    | none => plain
    | some ([only], after) =>
      match row? only with
      | some texts =>
        texts.flatMap fun text =>
          (expandFrom bound after).map ((text.toList.map .char) ++ ·)
      | none => plain
    | some (choices, after) =>
      (choices.flatMap (expandFrom bound)).flatMap fun first =>
        (expandFrom bound after).map (first ++ ·)
  | bound + 1, sign :: rest => (expandFrom bound rest).map (sign :: ·)

/-- The words that the braces in a word make of it. -/
def expand (dialect : Dialect) (word : List Part) : List (List Part) :=
  let signs := signs word
  if dialect = .plain ∨ !(signs.any (· matches .char '\x7b')) then [word]
  else (expandFrom (signs.length + 1) signs).map parts

end Braces

end NodeTrial.Script
