import NodeTrial.Json.Basic
import NodeTrial.Text.Numeral

/-! Writing JSON values: compact, members in the order they stand, whole numbers in digits,
floating-point numbers by their shortest decimal. In strings the quote, the backslash and the
controls are escaped and every other character stands for itself.
-/

namespace NodeTrial.Json

/-- A control character's escape: a letter of its own, or its code in four digits. -/
def controlEscape (c : Char) : List Char :=
  match c with
  | '\x08' => ['\\', 'b']
  | '\x0C' => ['\\', 'f']
  | '\n' => ['\\', 'n']
  | '\r' => ['\\', 'r']
  | '\t' => ['\\', 't']
  | c => ['\\', 'u', '0', '0', Nat.digitChar (c.toNat / 16), Nat.digitChar (c.toNat % 16)]

/-- A character inside a string. -/
def writtenChar (c : Char) : List Char :=
  if c = '"' then ['\\', '"']
  else if c = '\\' then ['\\', '\\']
  else if c < ' ' then controlEscape c
  else [c]

/-- A string between quotes. -/
def writtenString (s : String) : List Char :=
  '"' :: s.toList.flatMap writtenChar ++ ['"']

def writtenNumber : Number → List Char
  | .whole n => (Text.intText n.val).toList
  | .real x => x.render.toList

mutual

/-- The characters of a value's text. -/
def write : Json → List Char
  | .null => ['n', 'u', 'l', 'l']
  | .bool true => ['t', 'r', 'u', 'e']
  | .bool false => ['f', 'a', 'l', 's', 'e']
  | .number n => writtenNumber n
  | .text s => writtenString s
  | .list [] => ['[', ']']
  | .list (item :: rest) => '[' :: item.write ++ writeItems rest ++ [']']
  | .object [] => ['\x7b', '\x7d']
  | .object ((key, value) :: rest) =>
    '\x7b' :: writtenString key ++ ':' :: value.write ++ writeMembers rest ++ ['\x7d']

/-- The characters of the further items of a list, a comma before each. -/
def writeItems : List Json → List Char
  | [] => []
  | item :: rest => ',' :: item.write ++ writeItems rest

/-- The characters of the further members of an object, a comma before each. -/
def writeMembers : List (String × Json) → List Char
  | [] => []
  | (key, value) :: rest => ',' :: writtenString key ++ ':' :: value.write ++ writeMembers rest

end

/-- The text of a value. -/
def render (j : Json) : String :=
  String.ofList j.write

end NodeTrial.Json
