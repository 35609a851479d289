import NodeTrial.Text.Utf8

/-! Texts of scripts. A script works on bytes, so a text of it is its bytes, each as the character
with that code.
-/

namespace NodeTrial.Script

def byteOf (n : Nat) : Char :=
  Char.ofNat (n % 256)

/-- The bytes of an escape with the code of a character: a script writes only the first ones of
them as characters.
-/
def bytesOfEscape (code : Nat) : List Char :=
  let digits := (Nat.toDigits 16 code).map Char.toUpper
  let inWidth (width : Nat) : List Char := List.replicate (width - digits.length) '0' ++ digits
  if code < 0x80 then [byteOf code]
  else if code < 0x10000 then ['\\', 'u'] ++ inWidth 4
  else ['\\', 'U'] ++ inWidth 8

def ofText (s : String) : String :=
  String.ofList ((Text.bytesOf s).map fun b => byteOf b.toNat)

/-- The bytes of a text of a script. -/
def bytesOf (s : String) : List UInt8 :=
  s.toList.map fun c => .ofNat c.toNat

end NodeTrial.Script
