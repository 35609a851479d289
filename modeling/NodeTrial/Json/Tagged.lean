import NodeTrial.Json.Shape

/-! Tagged unions: a value of one of several shapes, named by a tag that stands among its
members or before its elements. What stands beside the tag is read as a whole first and then
taken by the shape that the tag names, so faults of the text come before mismatches.
-/

namespace NodeTrial.Json

namespace Shape

/-- A variant of a union: its tag and the shape of what stands beside the tag. -/
structure Variant where
  tag : String
  body : Shape

/-- The variant with a given tag. -/
def variantNamed (variants : List Variant) (name : String) : Except Mismatch Variant :=
  match variants.find? fun v => v.tag = name with
  | some v => .ok v
  | none => .error (.unknownVariant name (variants.map (·.tag)))

/-- What is wrong with a tag that is no name. -/
def notATag (j : Json) : Mismatch :=
  .wrongType (.of j) "variant identifier"

/-- Reads a tag from text: a name of a variant. -/
def readTag (variants : List Variant) : Reader Variant :=
  fun input =>
    match skipSpace input with
    | .char '[' :: _ => .error (.unfit (notATag (.list [])))
    | .char '{' :: _ => .error (.unfit (notATag (.object [])))
    | input => do
      match ← orMalformed (readScalar input) with
      | (.text name, rest) => .ok (← (variantNamed variants name).mapError .unfit, rest)
      | (j, _) => .error (.unfit (notATag j))

/-- Takes a tag already read: a name of a variant or its index. -/
def takeTag (variants : List Variant) (j : Json) : Except Mismatch Variant :=
  match j with
  | .text name => variantNamed variants name
  | .number (.whole n) =>
    if n.val < 0 then .error (notATag j)
    else
      match variants[n.val.toNat]? with
      | some v => .ok v
      | none =>
        .error (.outOfRange n.val ("variant index 0 <= i < " ++ Text.natText variants.length))
  | j => .error (notATag j)

/-- The normal form of a tagged value: the tag, then the members of its body's normal form. -/
def tagValue (tagName : String) (v : Variant) (body : Json) : Json :=
  match body with
  | .object members => .object ((tagName, .text v.tag) :: members)
  | other => other

/-- The variant and the body that stand in one value: the tag may not be missing or come twice. -/
def withTag (tagName : String) (found : Option Variant × Json) : Except Mismatch Json :=
  match found with
  | (some v, body) => return tagValue tagName v (← v.body.take body)
  | (none, _) => .error (.missingField tagName)

/-- Takes in one member of a tagged object. -/
def readTagged (tagName : String) (variants : List Variant) (depth : Nat)
    (state : Option Variant × List (String × Json)) (key : String)
    : Reader (Option Variant × List (String × Json)) :=
  fun input =>
    if key = tagName then
      if state.1.isSome then .error (.unfit (.duplicateField tagName))
      else do
        let (v, rest) ← readTag variants (← colon input)
        .ok ((some v, state.2), rest)
    else do
      let (members, rest) ← collect (readTree depth) state.2 key input
      .ok ((state.1, members), rest)

/-- Takes in one member of a tagged object already read. -/
def takeTagged (tagName : String) (variants : List Variant)
    (state : Option Variant × List (String × Json)) (member : String × Json)
    : Except Mismatch (Option Variant × List (String × Json)) :=
  if member.1 = tagName then
    if state.1.isSome then .error (.duplicateField tagName)
    else return (some (← takeTag variants member.2), state.2)
  else .ok (state.1, state.2 ++ [member])

/-- A union of variants told apart by the member `tagName`, or by the first element of a list. -/
def tagged (title tagName : String) (variants : List Variant) : Shape where
  read depth input :=
    match skipSpace input, depth with
    | .char '[' :: _, 0 | .char '{' :: _, 0 => .error (.malformed .tooDeep)
    | .char '[' :: rest, depth + 1 => do
      match ← orMalformed (nextItem true rest) with
      | (false, _) => .error (.unfit (.missingField tagName))
      | (true, rest) =>
        let (v, rest) ← readTag variants rest
        let (items, rest) ← readItems (readTree depth) (rest.length + 1) false rest
        .ok (← (withTag tagName (some v, .list items)).mapError .unfit, rest)
    | .char '{' :: rest, depth + 1 => do
      let ((found, members), rest) ←
        readMembers (readTagged tagName variants depth) (rest.length + 1) true (none, []) rest
      .ok (← (withTag tagName (found, .object members)).mapError .unfit, rest)
    | [], _ => .error (.malformed .endInValue)
    | input, _ => .error (refuse title input)
  take j :=
    match j with
    | .list [] => .error (.missingField tagName)
    | .list (tag :: items) => do
      withTag tagName (some (← takeTag variants tag), .list items)
    | .object members => do
      let (found, members) ← members.foldlM (takeTagged tagName variants) (none, [])
      withTag tagName (found, .object members)
    | j => .error (.wrongType (.of j) title)

end Shape

/-- Parses a text that is one value of a shape, into the shape's normal form. -/
def Shape.parse (s : Shape) (input : List Text.Symbol) : Except ReadError Json :=
  readWhole (s.read maxDepth) input

/-- The text of a value, empty for any other. -/
def asText : Json → String
  | .text s => s
  | _ => ""

/-- The whole number of a value, zero for any other. -/
def asInt : Json → Int
  | .number (.whole n) => n.val
  | _ => 0

/-- The items of a list, none for any other value. -/
def asItems : Json → List Json
  | .list items => items
  | _ => []

/-- The members of an object, none for any other value. -/
def asMembers : Json → List (String × Json)
  | .object members => members
  | _ => []

end NodeTrial.Json
