import NodeTrial.Text.Numeral
import NodeTrial.Text.Utf8

/-! Percent encoding. A character that a part of a URL may not hold is written as the bytes of
its UTF-8 form, a percent sign and two hexadecimal digits each. Which characters those are
depends on the part; in every part they include the controls and all beyond ASCII.
-/

namespace NodeTrial.Percent

open Text (hexValue?)

/-- The hexadecimal digit of a value below sixteen, in upper case. -/
def upperDigit (n : Nat) : Char :=
  if n < 10 then Char.ofNat ('0'.toNat + n) else Char.ofNat ('A'.toNat + (n - 10))

def encodedByte (b : UInt8) : List Char :=
  ['%', upperDigit (b.toNat / 16), upperDigit (b.toNat % 16)]

/-- A character is a control, or lies beyond ASCII. -/
def isControl (c : Char) : Bool :=
  c < ' ' || '~' < c

/-- The characters encoded in a fragment. -/
def inFragment (c : Char) : Bool :=
  isControl c || [' ', '"', '<', '>', '\x60'].contains c

/-- The characters encoded in a query. -/
def inQuery (c : Char) : Bool :=
  isControl c || [' ', '"', '#', '<', '>'].contains c

/-- The characters encoded in the query of a special scheme. -/
def inSpecialQuery (c : Char) : Bool :=
  inQuery c || c == '\''

/-- The characters encoded in a path. -/
def inPath (c : Char) : Bool :=
  inFragment c || ['#', '?', '\x7b', '\x7d'].contains c

/-- The characters encoded in a user name or a password. -/
def inUserinfo (c : Char) : Bool :=
  inPath c || ['/', ':', ';', '=', '@', '[', '\\', ']', '^', '|'].contains c

/-- Encodes one character if it is in the set. -/
def encodeChar (set : Char → Bool) (c : Char) : List Char :=
  if set c then (String.utf8EncodeChar c).flatMap encodedByte else [c]

/-- Encodes the characters of a set, all others stand for themselves. -/
def encode (set : Char → Bool) (cs : List Char) : List Char :=
  cs.flatMap (encodeChar set)

/-- The bytes that a text stands for: an encoded byte for itself, any other character for the
bytes of its UTF-8 form.
-/
def decode : List Char → List UInt8
  | [] => []
  | '%' :: high :: low :: rest =>
    match hexValue? high, hexValue? low with
    | some h, some l => UInt8.ofNat (h * 16 + l) :: decode rest
    | _, _ => 37 :: decode (high :: low :: rest)
  | c :: rest => String.utf8EncodeChar c ++ decode rest

end NodeTrial.Percent
