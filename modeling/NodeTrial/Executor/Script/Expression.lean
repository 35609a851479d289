import NodeTrial.Executor.Script.Pattern
import NodeTrial.Executor.Script.Escape

/-! Regular expressions in their basic and their extended form. A search takes the first place where
an expression fits, and there the first way that it fits: repetitions take as much as they can.
-/

namespace NodeTrial.Script

/-- A regular expression. -/
inductive Expression where
  | empty
  | lineStart
  | lineEnd
  | char (item : Glob)
  | row (first second : Expression)
  | either (first second : Expression)
  | many (least : Nat) (most : Option Nat) (body : Expression)
  | group (index : Nat) (body : Expression)
  | again (index : Nat)
  deriving Repr

namespace Expression

/-- A reader of expressions: what is left, and the number of groups so far. -/
abbrev ExpressionReader : Type → Type :=
  StateT (List Char × Nat) Option

/-- What a sign after an item says of its repetitions, and what follows it. -/
def repetition? (extended : Bool) (cs : List Char) : Option (Nat × Option Nat × List Char) :=
  let counted (rest : List Char) : Option (Nat × Option Nat × List Char) :=
    let (_, least, rest) := takeDigits Text.digitValue? 10 rest.length 0 0 rest
    let (most, rest) := match rest with
      | ',' :: rest =>
        match takeDigits Text.digitValue? 10 rest.length 0 0 rest with
        | (0, _, _) => (none, rest)
        | (_, most, rest) => (some most, rest)
      | rest => (some least, rest)
    match extended, rest with
    | true, '\x7d' :: rest => some (least, most, rest)
    | false, '\\' :: '\x7d' :: rest => some (least, most, rest)
    | _, _ => none
  match extended, cs with
  | _, '*' :: rest => some (0, none, rest)
  | true, '+' :: rest | false, '\\' :: '+' :: rest => some (1, none, rest)
  | true, '?' :: rest | false, '\\' :: '?' :: rest => some (0, some 1, rest)
  | true, '\x7b' :: rest | false, '\\' :: '\x7b' :: rest => counted rest
  | _, _ => none

/-- A sign at the front of a text: a group starts or ends, or another choice follows. -/
def takesSign (extended : Bool) (sign : Char) (cs : List Char) : Option (List Char) :=
  match extended, cs with
  | true, c :: rest => if c = sign then some rest else none
  | false, '\\' :: c :: rest => if c = sign then some rest else none
  | _, _ => none

/-- Ranges of the letters, digits and underscores, and of blanks. -/
def wordRanges : List (Char × Char) :=
  [('0', '9'), ('A', 'Z'), ('_', '_'), ('a', 'z')]
def blankRanges : List (Char × Char) :=
  [('\t', '\r'), (' ', ' ')]

/-- What a character after a backslash stands for. -/
def escaped (c : Char) : Expression :=
  match c with
  | 'n' => .char (.char '\n')
  | 't' => .char (.char '\t')
  | 'w' => .char (.set false wordRanges)
  | 'W' => .char (.set true wordRanges)
  | 's' => .char (.set false blankRanges)
  | 'S' => .char (.set true blankRanges)
  | c =>
    match (Text.digitValue? c).filter (· != 0) with
    | some n => .again n
    | none => .char (.char c)

/-- A choice, a group or the whole expression ends here. -/
def endsRow (extended : Bool) (cs : List Char) : Bool :=
  cs.isEmpty || (takesSign extended '|' cs).isSome || (takesSign extended ')' cs).isSome

def readItem (extended isFirst : Bool) : ExpressionReader Expression := do
  let (cs, groups) ← get
  match cs with
  | '[' :: rest =>
    let negated := rest.head? = some '^'
    let glyphs := (if negated then rest.drop 1 else rest).map fun c => Glyph.mk c false
    match Glob.takeMembers (glyphs.length + 1) true glyphs with
    | some (ranges, after) =>
      set (after.map Glyph.char, groups)
      return .char (.set negated ranges)
    | none => failure
  | '\\' :: c :: rest =>
    set (rest, groups)
    return escaped c
  | '.' :: rest =>
    set (rest, groups)
    return .char .one
  | c :: rest =>
    set (rest, groups)
    if c = '^' ∧ (isFirst ∨ extended) then return .lineStart
    if c = '$' ∧ (endsRow extended rest ∨ extended) then return .lineEnd
    return .char (.char c)
  | [] => failure

mutual

def readChoices (extended : Bool) : Nat → ExpressionReader Expression
  | 0 => failure
  | bound + 1 => do
    let first ← readRow extended bound true
    let (cs, groups) ← get
    match takesSign extended '|' cs with
    | some rest =>
      set (rest, groups)
      return .either first (← readChoices extended bound)
    | none => return first

/-- Reads items in a row; a sign that repeats stands for itself at the start. -/
def readRow (extended : Bool) : Nat → (isFirst : Bool) → ExpressionReader Expression
  | 0, _ => failure
  | bound + 1, isFirst => do
    if endsRow extended (← get).1 then return .empty
    let item ← readGroup extended bound isFirst
    let isStart := item matches .lineStart
    let item ← if isStart then pure item else readRepetitions extended bound item
    return .row item (← readRow extended bound isStart)

/-- Reads a group, or another item. -/
def readGroup (extended : Bool) : Nat → (isFirst : Bool) → ExpressionReader Expression
  | 0, _ => failure
  | bound + 1, isFirst => do
    let (cs, groups) ← get
    match takesSign extended '(' cs with
    | none => readItem extended isFirst
    | some rest =>
      set (rest, groups + 1)
      let body ← readChoices extended bound
      let (cs, after) ← get
      match takesSign extended ')' cs with
      | some rest =>
        set (rest, after)
        return .group (groups + 1) body
      | none => failure

/-- Reads the signs that repeat an item. -/
def readRepetitions (extended : Bool) : Nat → Expression → ExpressionReader Expression
  | 0, _ => failure
  | bound + 1, item => do
    let (cs, groups) ← get
    match repetition? extended cs with
    | some (least, most, rest) =>
      set (rest, groups)
      readRepetitions extended bound (.many least most item)
    | none => return item

end

def read? (extended : Bool) (text : String) : Option Expression := do
  let (expression, (rest, _)) ←
    (readChoices extended (4 * (text.length + 2))).run (text.toList, 0)
  if rest.isEmpty then return expression else none

/-- Reads an expression in the extended form from the characters of a word, in which a quoted one
stands for itself.
-/
def ofGlyphs? (glyphs : List Glyph) : Option Expression :=
  read? true (String.ofList (glyphs.flatMap fun g =>
    if g.quoted ∧ ¬g.char.isAlphanum then ['\\', g.char] else [g.char]))

/-- A place in a text: what is left of it, how far it is from the start, and what the groups have
taken.
-/
structure Place where
  rest : List Char
  offset : Nat
  groups : List (Nat × List Char)
  deriving Repr

/-- Steps from a place to those that a body leads to, up to `bound` times, as often as possible
first.
-/
def repeated {α : Type} (one : Place → (Place → Option α) → Option α) (finish : Place → Option α)
    (least : Nat) (most : Option Nat) : (bound done : Nat) → Place → Option α
  | 0, _, _ => none
  | bound + 1, done, place =>
    let more :=
      if most.any (· ≤ done) then none
      else one place fun next =>
        if next.offset = place.offset ∧ least ≤ done then none
        else repeated one finish least most bound (done + 1) next
    match more with
    | some result => some result
    | none => if least ≤ done then finish place else none

/-- Two characters are the same one, perhaps but for their case. -/
def alike (ignoreCase : Bool) (item : Glob) (c : Char) : Bool :=
  item.accepts c || (ignoreCase && (item.accepts c.toLower || item.accepts c.toUpper))

/-- The first way on that an expression leads to from a place. -/
def fit? {α : Type} (ignoreCase : Bool) : Expression → Place → (Place → Option α) → Option α
  | .empty, place, go => go place
  | .lineStart, place, go => if place.offset = 0 then go place else none
  | .lineEnd, place, go => if place.rest.isEmpty then go place else none
  | .char item, place, go =>
    match place.rest with
    | c :: rest =>
      if alike ignoreCase item c then go { place with rest, offset := place.offset + 1 } else none
    | [] => none
  | .row first second, place, go =>
    fit? ignoreCase first place fun next => fit? ignoreCase second next go
  | .either first second, place, go =>
    match fit? ignoreCase first place go with
    | some result => some result
    | none => fit? ignoreCase second place go
  | .many least most body, place, go =>
    repeated (fun from' next => fit? ignoreCase body from' next) go least most
      (place.rest.length + least + 2) 0 place
  | .group index body, place, go =>
    fit? ignoreCase body place fun next =>
      let taken := place.rest.take (next.offset - place.offset)
      go { next with groups := (index, taken) :: next.groups }
  | .again index, place, go =>
    let taken := (place.groups.lookup index).getD []
    if taken.isPrefixOf place.rest then
      go { place with
        rest := place.rest.drop taken.length
        offset := place.offset + taken.length }
    else none

/-- What an expression takes of a text: the part before it, the part that it takes, what is left,
and the groups.
-/
structure Found where
  before : List Char
  taken : List Char
  after : List Char
  groups : List (Nat × List Char)
  deriving Repr

/-- The first part of a text that an expression takes, from a distance on. -/
def search? (ignoreCase : Bool) (e : Expression) : (offset : Nat) → List Char → Option Found
  | offset, cs =>
    match fit? ignoreCase e ⟨cs, offset, []⟩ some with
    | some next =>
      let length := next.offset - offset
      some ⟨[], cs.take length, next.rest, next.groups⟩
    | none =>
      match cs with
      | [] => none
      | c :: rest =>
        (search? ignoreCase e (offset + 1) rest).map fun found =>
          { found with before := c :: found.before }

/-- The parts of a text that an expression takes one after another; `bound` is more than the
length of the text. An empty part is passed over.
-/
def searchAll (ignoreCase : Bool) (e : Expression) : (bound offset : Nat) → List Char → List Found
  | 0, _, _ => []
  | bound + 1, offset, cs =>
    match search? ignoreCase e offset cs with
    | none => []
    | some found =>
      let next := offset + found.before.length + found.taken.length
      if found.taken.isEmpty then
        match found.after with
        | [] => [found]
        | c :: rest =>
          match searchAll ignoreCase e bound (next + 1) rest with
          | [] => [found]
          | second :: more => found :: { second with before := c :: second.before } :: more
      else found :: searchAll ignoreCase e bound next found.after

end Expression

end NodeTrial.Script
