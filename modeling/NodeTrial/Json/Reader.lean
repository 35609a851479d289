import NodeTrial.Json.Scan

/-! Reading JSON values from text. A reader takes a value off the front of the symbols and
leaves the rest; lists and objects are read by loops over any reader of their items or
members, and a value of any kind nests at most 127 brackets.
-/

namespace NodeTrial.Json

open Text (Symbol)

/-- A reader of values of a type: what it read and what follows, or why it refuses. -/
abbrev Reader (α : Type) := List Symbol → Except ReadError (α × List Symbol)

def orMalformed {α : Type} (result : Except Fault α) : Except ReadError α :=
  result.mapError .malformed

/-- Reads a value that is no list and no object, from its first symbol. -/
def readScalar (input : List Symbol) : Except Fault (Json × List Symbol) :=
  match input with
  | .char 'n' :: rest => (literal rest ['u', 'l', 'l']).map fun after => (.null, after)
  | .char 't' :: rest => (literal rest ['r', 'u', 'e']).map fun after => (.bool true, after)
  | .char 'f' :: rest =>
    (literal rest ['a', 'l', 's', 'e']).map fun after => (.bool false, after)
  | .char '"' :: rest => (readString rest).map fun (s, after) => (.text s, after)
  | [] => .error .endInValue
  | s :: rest =>
    if s = .char '-' ∨ (digitOf? s).isSome then
      (readNumber (s :: rest)).map fun (n, after) => (.number n, after)
    else .error .expectedValue

/-- The refusal of a value of the wrong kind, from its first symbol: a scalar is read, so that
its own faults come first and the message can show it.
-/
def refuse (expected : String) (input : List Symbol) : ReadError :=
  match input with
  | .char '[' :: _ => .unfit (.wrongType .sequence expected)
  | .char '{' :: _ => .unfit (.wrongType .map expected)
  | input =>
    match readScalar input with
    | .ok (j, _) => .unfit (.wrongType (.of j) expected)
    | .error fault => .malformed fault

/-- The colon between a key and its value. -/
def colon (input : List Symbol) : Except ReadError (List Symbol) :=
  match skipSpace input with
  | .char ':' :: rest => .ok rest
  | [] => .error (.malformed .endInObject)
  | _ => .error (.malformed .expectedColon)

/-- Finds the next item of a list, after its opening bracket or after an item: the text at the
item, or at the bracket that closes the list.
-/
def nextItem (first : Bool) (input : List Symbol) : Except Fault (Bool × List Symbol) :=
  match skipSpace input with
  | [] => .error .endInList
  | .char ']' :: rest => .ok (false, .char ']' :: rest)
  | s :: rest =>
    if first then .ok (true, s :: rest)
    else if s = .char ',' then
      match skipSpace rest with
      | [] => .error .endInValue
      | .char ']' :: _ => .error .trailingComma
      | after => .ok (true, after)
    else .error .expectedItemEnd

/-- Finds the next key of an object, after its opening brace or after a member: the text after
the key's opening quote, or after the brace that closes the object.
-/
def nextKey (first : Bool) (input : List Symbol) : Except Fault (Bool × List Symbol) :=
  match skipSpace input with
  | [] => .error .endInObject
  | .char '}' :: rest => .ok (false, rest)
  | s :: rest =>
    if first then
      if s = .char '"' then .ok (true, rest) else .error .keyNotString
    else if s = .char ',' then
      match skipSpace rest with
      | [] => .error .endInValue
      | .char '"' :: after => .ok (true, after)
      | .char '}' :: _ => .error .trailingComma
      | _ => .error .keyNotString
    else .error .expectedMemberEnd

/-- Reads the items of a list up to its closing bracket. The number bounds the items; each
takes at least one symbol, so the length of the text is enough.
-/
def readItems {α : Type} (item : Reader α) : Nat → Bool → Reader (List α)
  | 0, _, _ => .error (.malformed .endInList)
  | bound + 1, first, input => do
    match ← orMalformed (nextItem first input) with
    | (false, rest) => .ok ([], rest.drop 1)
    | (true, rest) =>
      let (head, rest) ← item rest
      let (tail, rest) ← readItems item bound false rest
      .ok (head :: tail, rest)

/-- Reads the members of an object up to its closing brace, each step taking in a key and then
the text from the colon on. The number bounds the members as that of items.
-/
def readMembers {σ : Type} (step : σ → String → Reader σ) : Nat → Bool → σ → Reader σ
  | 0, _, _, _ => .error (.malformed .endInObject)
  | bound + 1, first, state, input => do
    match ← orMalformed (nextKey first input) with
    | (false, rest) => .ok (state, rest)
    | (true, rest) =>
      let (key, rest) ← orMalformed (readString rest)
      let (state, rest) ← step state key rest
      readMembers step bound false state rest

/-- Reads one member's value and puts the member behind those read before. -/
def collect {α : Type} (value : Reader α) (members : List (String × α)) (key : String)
    : Reader (List (String × α)) :=
  fun input => do
    let (v, rest) ← value (← colon input)
    .ok (members ++ [(key, v)], rest)

/-- Reads a value of any kind with at most `depth` brackets open at once. -/
def readTree : (depth : Nat) → Reader Json
  | depth, input =>
    match skipSpace input, depth with
    | .char '[' :: _, 0 | .char '{' :: _, 0 => .error (.malformed .tooDeep)
    | .char '[' :: rest, depth + 1 => do
      let (items, rest) ← readItems (readTree depth) (rest.length + 1) true rest
      .ok (.list items, rest)
    | .char '{' :: rest, depth + 1 => do
      let (members, rest) ←
        readMembers (collect (readTree depth)) (rest.length + 1) true [] rest
      .ok (.object members, rest)
    | input, _ => orMalformed (readScalar input)

/-- The most brackets that may be open at once. -/
def maxDepth : Nat := 127

/-- Reads a whole text: after the value only blanks may follow. -/
def readWhole {α : Type} (reader : Reader α) (input : List Symbol) : Except ReadError α := do
  let (value, rest) ← reader input
  if (skipSpace rest).isEmpty then .ok value else .error (.malformed .trailingText)

/-- Reads a text that is one JSON value. -/
def parse (input : List Symbol) : Except ReadError Json :=
  readWhole (readTree maxDepth) input

end NodeTrial.Json
