/-! Bytes read as UTF-8. A byte string is cut into chunks, each a character or a broken run:
the longest run that starts a character without finishing it, or one byte that starts none.
Strict and lossy decoding, and the symbols that a reader of bytes works on, are views of the
chunks.
-/

namespace NodeTrial.Text

/-- A piece of a byte string: one character, or bytes that are no character. -/
inductive Chunk where
  | char (c : Char)
  | broken (bytes : List UInt8)
  deriving DecidableEq, Repr

/-- One unit of a text that may not be UTF-8: a character, or a byte that belongs to none. -/
inductive Symbol where
  | char (c : Char)
  | stray (byte : UInt8)
  deriving DecidableEq, Repr

/-- The number of bytes a symbol stands for. -/
def Symbol.width : Symbol → Nat
  | .char c => c.utf8Size
  | .stray _ => 1

def symbols (s : String) : List Symbol :=
  s.toList.map .char

namespace Utf8

/-- Where a decoder stands between two bytes: between characters, or inside one, with the
bytes seen, the code so far, the number of bytes owed and the range of the next one.
-/
inductive State where
  | ready
  | inside (seen : List UInt8) (code left : Nat) (low high : UInt8)
  deriving DecidableEq, Repr

/-- The start of a character: a one-byte character, the first byte of a longer one (the
ranges rule out overlong forms, surrogates and codes past U+10FFFF), or a broken byte.
-/
def start (b : UInt8) : State × List Chunk :=
  let code := b.toNat
  if b < 0x80 then (.ready, [.char (Char.ofNat code)])
  else if b < 0xC2 then (.ready, [.broken [b]])
  else if b < 0xE0 then (.inside [b] (code - 0xC0) 1 0x80 0xBF, [])
  else if b = 0xE0 then (.inside [b] 0 2 0xA0 0xBF, [])
  else if b = 0xED then (.inside [b] 0xD 2 0x80 0x9F, [])
  else if b < 0xF0 then (.inside [b] (code - 0xE0) 2 0x80 0xBF, [])
  else if b = 0xF0 then (.inside [b] 0 3 0x90 0xBF, [])
  else if b < 0xF4 then (.inside [b] (code - 0xF0) 3 0x80 0xBF, [])
  else if b = 0xF4 then (.inside [b] 4 3 0x80 0x8F, [])
  else (.ready, [.broken [b]])

/-- One byte of input. A byte that cannot continue the character begun before it breaks that
character off and is itself read as a start.
-/
def step : State → UInt8 → State × List Chunk
  | .ready, b => start b
  | .inside seen code left low high, b =>
    if low ≤ b ∧ b ≤ high then
      let code := code * 64 + (b.toNat - 0x80)
      if left = 1 then (.ready, [.char (Char.ofNat code)])
      else (.inside (seen ++ [b]) code (left - 1) 0x80 0xBF, [])
    else
      let (next, more) := start b
      (next, .broken seen :: more)

/-- What the end of the input leaves behind: a character begun and not finished is broken. -/
def State.finish : State → List Chunk
  | .ready => []
  | .inside seen .. => [.broken seen]

/-- The chunks of the bytes that follow a state. -/
def run : State → List UInt8 → List Chunk
  | state, [] => state.finish
  | state, b :: rest =>
    let (next, found) := step state b
    found ++ run next rest

end Utf8

/-- The chunks of a byte string. -/
def chunks (bytes : List UInt8) : List Chunk :=
  Utf8.run .ready bytes

/-- The symbols of one chunk: a broken run gives one stray symbol a byte. -/
def Chunk.symbols : Chunk → List Symbol
  | .char c => [.char c]
  | .broken bytes => bytes.map .stray

/-- The symbols of a byte string; every byte is part of exactly one. -/
def symbolsOfBytes (bytes : List UInt8) : List Symbol :=
  (chunks bytes).flatMap Chunk.symbols

/-- The characters of symbols, if none of them is a stray byte. -/
def charsOf? : List Symbol → Option (List Char)
  | [] => some []
  | .char c :: rest => (charsOf? rest).map (c :: ·)
  | .stray _ :: _ => none

/-- Strict decoding: the text that the bytes encode, if they are UTF-8. -/
def decode? (bytes : List UInt8) : Option String :=
  (charsOf? (symbolsOfBytes bytes)).map String.ofList

/-- The character a chunk is shown as: a broken run becomes one replacement character. -/
def Chunk.shown : Chunk → Char
  | .char c => c
  | .broken _ => '\uFFFD'

/-- Lossy decoding: every broken run is shown as one replacement character. -/
def decodeLossy (bytes : List UInt8) : String :=
  String.ofList ((chunks bytes).map Chunk.shown)

/-- The UTF-8 bytes of a text. -/
def bytesOf (s : String) : List UInt8 :=
  s.toUTF8.toList

end NodeTrial.Text
