import NodeTrial.Json.Reader

/-! Shapes: what a JSON value must look like to stand for a thing of the domain. A shape reads a
value straight from text, passing over what it does not want, and takes one that was read as a
whole before; both give the value in the shape's normal form, records as objects with their
fields in order.
-/

namespace NodeTrial.Json

open Text (Symbol)

/-- A shape: how a value is read from text with a number of brackets left to open, and how it
is taken from a value already read.
-/
structure Shape where
  read : (depth : Nat) → Reader Json
  take : Json → Except Mismatch Json

namespace Shape

/-- A shape of scalars: a function that accepts a value or refuses it. Of a list or an object
only its kind is looked at.
-/
def scalar (accept : Json → Except Mismatch Json) : Shape where
  take := accept
  read _ input :=
    match skipSpace input with
    | .char '[' :: rest => (accept (.list [])).mapError .unfit |>.map fun j => (j, rest)
    | .char '{' :: rest => (accept (.object [])).mapError .unfit |>.map fun j => (j, rest)
    | input => do
      let (j, rest) ← orMalformed (readScalar input)
      .ok (← (accept j).mapError .unfit, rest)

def text : Shape := .scalar fun j =>
  match j with
  | .text s => .ok (.text s)
  | j => .error (.wrongType (.of j) "a string")

/-- A whole number in the range of signed words. -/
def acceptSigned (j : Json) : Except Mismatch Json :=
  match j with
  | .number (.whole n) =>
    if n.val < 0x8000000000000000 then .ok j else .error (.outOfRange n.val "i64")
  | j => .error (.wrongType (.of j) "i64")

def signed : Shape := .scalar acceptSigned

/-- A signed word or nothing. -/
def optionalSigned : Shape := .scalar fun j =>
  match j with
  | .null => .ok .null
  | j => acceptSigned j

def unsigned : Shape := .scalar fun j =>
  match j with
  | .number (.whole n) =>
    if 0 ≤ n.val then .ok j else .error (.outOfRange n.val "u64")
  | j => .error (.wrongType (.of j) "u64")

/-- Any value, in canonical form. -/
def any : Shape where
  read depth input := (readTree depth input).map fun (j, rest) => (j.canonical, rest)
  take j := .ok j.canonical

/-- The normal form of members read in order: of those with one key the last, in key order. -/
def tableOf (members : List (String × Json)) : Json :=
  .object (Table.ofList members).entries

/-- An object with any keys, whose values all have one shape. -/
def table (item : Shape) : Shape where
  read depth input :=
    match skipSpace input, depth with
    | .char '{' :: _, 0 => .error (.malformed .tooDeep)
    | .char '{' :: rest, depth + 1 => do
      let (members, rest) ←
        readMembers (collect (item.read depth)) (rest.length + 1) true [] rest
      .ok (tableOf members, rest)
    | [], _ => .error (.malformed .endInValue)
    | input, _ => .error (refuse "a map" input)
  take j :=
    match j with
    | .object members => do
      let members ← members.mapM fun (key, value) => do return (key, ← item.take value)
      return tableOf members
    | j => .error (.wrongType (.of j) "a map")

def list (item : Shape) : Shape where
  read depth input :=
    match skipSpace input, depth with
    | .char '[' :: _, 0 => .error (.malformed .tooDeep)
    | .char '[' :: rest, depth + 1 => do
      let (items, rest) ← readItems (item.read depth) (rest.length + 1) true rest
      .ok (.list items, rest)
    | [], _ => .error (.malformed .endInValue)
    | input, _ => .error (refuse "a sequence" input)
  take j :=
    match j with
    | .list items => return .list (← items.mapM item.take)
    | j => .error (.wrongType (.of j) "a sequence")

/-- A field of a record: its name, its shape, and the value it has when it is left out, if it
may be.
-/
structure Field where
  name : String
  shape : Shape
  absent : Option Json

/-- A field that must be there. -/
def Field.required (name : String) (shape : Shape) : Field :=
  ⟨name, shape, none⟩

/-- A number of elements, as messages say it. -/
def elements (n : Nat) : String :=
  Text.natText n ++ if n = 1 then " element" else " elements"

/-- The field of a record with a given name. -/
def fieldNamed? (fields : List Field) (name : String) : Option Field :=
  fields.find? fun f => f.name = name

/-- The fields of a record in order: each has the value found under its name, or the one it
has when it is left out.
-/
def complete (found : List (String × Json)) : List Field → Except Mismatch (List (String × Json))
  | [] => .ok []
  | f :: fields =>
    match (lookupEntry f.name found).or f.absent with
    | some value => return (f.name, value) :: (← complete found fields)
    | none => .error (.missingField f.name)

/-- Takes in one member of a record: a field's value is read, but a field may not come twice;
the value of a member that is no field is passed over.
-/
def readField (fields : List Field) (depth : Nat) (found : List (String × Json)) (key : String)
    : Reader (List (String × Json)) :=
  fun input =>
    match fieldNamed? fields key with
    | some f =>
      if (lookupEntry key found).isSome then .error (.unfit (.duplicateField key))
      else collect (f.shape.read depth) found key input
    | none => do
      let rest ← colon input
      .ok (found, ← orMalformed (skipAny rest))

/-- Reads the fields of a record given as a list, in order. -/
def readElements (expected : String) (depth : Nat)
    : List Field → (index : Nat) → Reader (List (String × Json))
  | [], _, input => .ok ([], input)
  | f :: fields, index, input => do
    match ← orMalformed (nextItem (index = 0) input) with
    | (true, rest) =>
      let (value, rest) ← f.shape.read depth rest
      let (others, rest) ← readElements expected depth fields (index + 1) rest
      .ok ((f.name, value) :: others, rest)
    | (false, rest) =>
      match f.absent with
      | none => .error (.unfit (.wrongLength index expected))
      | some value =>
        let (others, rest) ← readElements expected depth fields index rest
        .ok ((f.name, value) :: others, rest)

/-- The end of a record given as a list: nothing but the bracket may follow its fields. -/
def closeList (input : List Symbol) : Except Fault (List Symbol) :=
  match skipSpace input with
  | .char ']' :: rest => .ok rest
  | .char ',' :: rest =>
    match skipSpace rest with
    | .char ']' :: _ => .error .trailingComma
    | _ => .error .trailingText
  | [] => .error .endInList
  | _ => .error .trailingText

/-- Takes in one member of a record already read. -/
def takeField (fields : List Field) (found : List (String × Json)) (member : String × Json)
    : Except Mismatch (List (String × Json)) :=
  match fieldNamed? fields member.1 with
  | some f =>
    if (lookupEntry member.1 found).isSome then .error (.duplicateField member.1)
    else return found ++ [(member.1, ← f.shape.take member.2)]
  | none => .ok found

/-- Takes the fields of a record given as a list; `expected` words a list too short, and one
with more items than fields is too long.
-/
def takeElements (expected : String) (total : Nat)
    : List Field → (index : Nat) → List Json → Except Mismatch (List (String × Json))
  | [], _, [] => .ok []
  | [], index, extra =>
    .error (.wrongLength (index + extra.length) (elements total ++ " in sequence"))
  | f :: fields, index, item :: items => do
    let value ← f.shape.take item
    return (f.name, value) :: (← takeElements expected total fields (index + 1) items)
  | f :: fields, index, [] =>
    match f.absent with
    | none => .error (.wrongLength index expected)
    | some value =>
      return (f.name, value) :: (← takeElements expected total fields index [])

/-- A record: an object with its fields in any order and any others, or the list of its
fields' values.
-/
def record (name : String) (fields : List Field) : Shape where
  read depth input :=
    let expected := "struct " ++ name
    match skipSpace input, depth with
    | .char '[' :: _, 0 | .char '{' :: _, 0 => .error (.malformed .tooDeep)
    | .char '[' :: rest, depth + 1 => do
      let lengthExpected := expected ++ " with " ++ elements fields.length
      let (found, rest) ← readElements lengthExpected depth fields 0 rest
      .ok (.object found, ← orMalformed (closeList rest))
    | .char '{' :: rest, depth + 1 => do
      let (found, rest) ← readMembers (readField fields depth) (rest.length + 1) true [] rest
      .ok (.object (← (complete found fields).mapError .unfit), rest)
    | [], _ => .error (.malformed .endInValue)
    | input, _ => .error (refuse expected input)
  take j :=
    let expected := "struct " ++ name
    match j with
    | .list items => do
      let lengthExpected := expected ++ " with " ++ elements fields.length
      return .object (← takeElements lengthExpected fields.length fields 0 items)
    | .object members => do
      let found ← members.foldlM (takeField fields) []
      return .object (← complete found fields)
    | j => .error (.wrongType (.of j) expected)

end Shape

end NodeTrial.Json
