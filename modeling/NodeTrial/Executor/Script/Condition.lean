import NodeTrial.Executor.Script.Calculation
import NodeTrial.Executor.Script.Expression

/-! Conditions in scripts: of texts, numbers and files. A condition in the plain form is a row of
arguments, whose number helps to tell operators from texts. One in the other form is made of
words, whose unquoted marks are operators, and compares with patterns.
-/

namespace NodeTrial.Script

/-- What conditions ask about files: there is one of this name, it is a directory, and it is not
empty.
-/
structure FileFacts where
  isFile : String → Bool
  isDirectory : String → Bool
  isDevice : String → Bool
  hasContent : String → Bool
  mayRun : String → Bool
  isSet : String → Bool

namespace Condition

/-- The operators before a text. -/
def unaryOperators : List String :=
  ["-n", "-z", "-e", "-f", "-d", "-r", "-w", "-x", "-s", "-t", "-h", "-L", "-p", "-S", "-b", "-c",
   "-g", "-u", "-k", "-O", "-G", "-v"]

/-- The operators between two texts. -/
def binaryOperators (dialect : Dialect) : List String :=
  ["=", "!=", "<", ">", "-eq", "-ne", "-lt", "-le", "-gt", "-ge", "-nt", "-ot", "-ef"] ++
    (if dialect = .extended then ["=="] else [])

/-- An operator before a text holds. -/
def unary (facts : FileFacts) (operator text : String) : Bool :=
  let exists? := facts.isFile text || facts.isDirectory text || facts.isDevice text
  match operator with
  | "-n" => text != ""
  | "-z" => text == ""
  | "-e" | "-r" | "-w" | "-O" | "-G" => exists?
  | "-f" => facts.isFile text
  | "-d" => facts.isDirectory text
  | "-c" => facts.isDevice text
  | "-s" => facts.isDirectory text || facts.hasContent text
  | "-x" => facts.isDirectory text || facts.mayRun text
  | "-v" => facts.isSet text
  | _ => false

/-- An operator between two texts holds; none if one of them should be a number and is not. -/
def binary? (operator a b : String) : Option Bool :=
  let compare (holds : Int → Int → Bool) : Option Bool :=
    match decimal? a, decimal? b with
    | some x, some y => some (holds x y)
    | _, _ => none
  match operator with
  | "=" | "==" => some (a == b)
  | "!=" => some (a != b)
  | "<" => some (a < b)
  | ">" => some (b < a)
  | "-eq" => compare (· == ·)
  | "-ne" => compare (· != ·)
  | "-lt" => compare fun x y => x < y
  | "-le" => compare fun x y => x ≤ y
  | "-gt" => compare fun x y => y < x
  | "-ge" => compare fun x y => y ≤ x
  | "-ef" => some (a == b)
  | _ => some false
where
  /-- The decimal number that a text spells, with blanks around it. -/
  decimal? (text : String) : Option Int :=
    let isSpace (c : Char) : Bool := c == ' ' || ('\t' ≤ c && c ≤ '\r')
    Text.integer? ((text.toList.dropWhile isSpace).reverse.dropWhile isSpace).reverse

/-- A reader of the arguments of a condition, which fails if they are none. -/
abbrev ArgReader : Type → Type :=
  StateT (List String) Option

mutual

/-- Reads conditions of which one must hold. -/
def readAny (dialect : Dialect) (facts : FileFacts) : Nat → ArgReader Bool
  | 0 => failure
  | bound + 1 => do
    let first ← readAll dialect facts bound
    match ← get with
    | "-o" :: rest =>
      set rest
      let second ← readAny dialect facts bound
      return first || second
    | _ => return first

/-- Reads conditions that must all hold. -/
def readAll (dialect : Dialect) (facts : FileFacts) : Nat → ArgReader Bool
  | 0 => failure
  | bound + 1 => do
    let first ← readOne dialect facts bound
    match ← get with
    | "-a" :: rest =>
      set rest
      let second ← readAll dialect facts bound
      return first && second
    | _ => return first

def readOne (dialect : Dialect) (facts : FileFacts) : Nat → ArgReader Bool
  | 0 => failure
  | bound + 1 => do
    match ← get with
    | [] => failure
    | [only] =>
      set ([] : List String)
      return only != ""
    | first :: second :: rest =>
      match rest with
      | third :: rest =>
        if (binaryOperators dialect).contains second then
          set rest
          match binary? second first third with
          | some holds => return holds
          | none => failure
      | [] => pure ()
      if first = "!" then
        set (second :: rest)
        return !(← readOne dialect facts bound)
      else if first = "(" then
        set (second :: rest)
        let inner ← readAny dialect facts bound
        match ← get with
        | ")" :: after =>
          set after
          return inner
        | _ => failure
      else if unaryOperators.contains first then
        set rest
        return unary facts first second
      else
        set (second :: rest)
        return first != ""

end

/-- A condition of arguments holds; none if they are none. -/
def test? (dialect : Dialect) (facts : FileFacts) (args : List String) : Option Bool :=
  match args with
  | [] => some false
  | args =>
    match (readAny dialect facts (4 * (args.length + 1))).run args with
    | some (holds, []) => some holds
    | _ => none

/-- A word of a condition: its text, as a pattern, and whether it is a bare mark. -/
structure Word where
  text : String
  glyphs : List Glyph
  isMark : Bool

abbrev WordReader : Type → Type :=
  StateT (List Word) Option

/-- The next word is this mark; it is taken then. -/
def takesMark (mark : String) : WordReader Bool := do
  match ← get with
  | word :: rest =>
    if word.isMark ∧ word.text = mark then
      set rest
      return true
    else return false
  | [] => return false

def nextWord : WordReader Word := do
  match ← get with
  | word :: rest =>
    set rest
    return word
  | [] => failure

mutual

/-- Reads conditions of which one must hold. -/
def readEither (facts : FileFacts) (number : String → Int) : Nat → WordReader Bool
  | 0 => failure
  | bound + 1 => do
    let first ← readBoth facts number bound
    if ← takesMark "||" then
      let second ← readEither facts number bound
      return first || second
    else return first

/-- Reads conditions that must all hold. -/
def readBoth (facts : FileFacts) (number : String → Int) : Nat → WordReader Bool
  | 0 => failure
  | bound + 1 => do
    let first ← readSingle facts number bound
    if ← takesMark "&&" then
      let second ← readBoth facts number bound
      return first && second
    else return first

def readSingle (facts : FileFacts) (number : String → Int) : Nat → WordReader Bool
  | 0 => failure
  | bound + 1 => do
    if ← takesMark "!" then return !(← readSingle facts number bound)
    if ← takesMark "(" then
      let inner ← readEither facts number bound
      if ← takesMark ")" then return inner else failure
    let first ← nextWord
    if first.isMark && unaryOperators.contains first.text then
      return unary facts first.text (← nextWord).text
    match ← get with
    | operator :: right :: rest =>
      if operator.isMark && ("=~" :: binaryOperators .extended).contains operator.text then
        set rest
        let isAlike := Glob.matchesText (Glob.ofGlyphs right.glyphs) first.text.toList
        match operator.text with
        | "=~" =>
          let e ← Expression.ofGlyphs? right.glyphs
          return (Expression.search? false e 0 first.text.toList).isSome
        | "=" | "==" => return isAlike
        | "!=" => return !isAlike
        | "<" | ">" => binary? operator.text first.text right.text
        | _ =>
          binary? operator.text (Text.intText (number first.text))
            (Text.intText (number right.text))
      else return first.text != ""
    | _ => return first.text != ""

end

/-- A condition of words holds; none if they are none. -/
def holds? (facts : FileFacts) (number : String → Int) (words : List Word) : Option Bool :=
  match (readEither facts number (4 * (words.length + 1))).run words with
  | some (holds, []) => some holds
  | _ => none

end Condition

end NodeTrial.Script
