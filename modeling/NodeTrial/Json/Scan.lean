import NodeTrial.Json.Numeral

/-! The words of JSON text: blanks, literals and strings, each read from the front of a list of
symbols. A string can be read for its characters or passed over; passing over checks its
escapes only as far as their digits and does not mind bytes that are not UTF-8.
-/

namespace NodeTrial.Json

open Text (Symbol)

/-- The blanks of JSON: space, tab, line feed and carriage return. -/
def isSpace : Symbol → Bool
  | .char ' ' | .char '\t' | .char '\n' | .char '\r' => true
  | _ => false

/-- The text after the blanks at its front. -/
def skipSpace (input : List Symbol) : List Symbol :=
  input.dropWhile isSpace

/-- The rest of a literal after its first letter. -/
def literal (input : List Symbol) : List Char → Except Fault (List Symbol)
  | [] => .ok input
  | c :: cs =>
    match input with
    | [] => .error .endInValue
    | s :: rest => if s = .char c then literal rest cs else .error .expectedLiteral

/-- The value of a hexadecimal digit. -/
def hexDigit? : Symbol → Option Nat
  | .char c =>
    if '0' ≤ c ∧ c ≤ '9' then some (c.toNat - '0'.toNat)
    else if 'a' ≤ c ∧ c ≤ 'f' then some (c.toNat - 'a'.toNat + 10)
    else if 'A' ≤ c ∧ c ≤ 'F' then some (c.toNat - 'A'.toNat + 10)
    else none
  | .stray _ => none

/-- The number that four hexadecimal digits spell. -/
def hexFour? (a b c d : Symbol) : Option Nat := do
  some (((← hexDigit? a) * 16 + (← hexDigit? b)) * 256
    + ((← hexDigit? c) * 16 + (← hexDigit? d)))

/-- What is wrong where four hexadecimal digits cannot be had from fewer than four symbols: the
text ends if it has fewer than four bytes, else some of them are no digits.
-/
def shortEscape (input : List Symbol) : Fault :=
  if input.foldr (fun s width => s.width + width) 0 < 4 then .endInString else .badEscape

/-- The character of a one-letter escape. -/
def escaped? : Symbol → Option Char
  | .char '"' => some '"'
  | .char '\\' => some '\\'
  | .char '/' => some '/'
  | .char 'b' => some '\x08'
  | .char 'f' => some '\x0C'
  | .char 'n' => some '\n'
  | .char 'r' => some '\r'
  | .char 't' => some '\t'
  | _ => none

/-- A code is the first half of a surrogate pair. -/
def isHighSurrogate (code : Nat) : Bool :=
  0xD800 ≤ code ∧ code ≤ 0xDBFF

/-- A code is the second half of a surrogate pair. -/
def isLowSurrogate (code : Nat) : Bool :=
  0xDC00 ≤ code ∧ code ≤ 0xDFFF

/-- The character of a surrogate pair. -/
def pairChar (high low : Nat) : Char :=
  Char.ofNat (0x10000 + (high - 0xD800) * 0x400 + (low - 0xDC00))

/-- Puts a symbol in front of what was read. -/
def prepend (s : Symbol) : List Symbol × List Symbol → List Symbol × List Symbol
  | (read, rest) => (s :: read, rest)

/-- The symbols of a string after its opening quote, escapes replaced, and what follows the
closing quote.
-/
def stringSymbols : List Symbol → Except Fault (List Symbol × List Symbol)
  | [] => .error .endInString
  | .char '"' :: rest => .ok ([], rest)
  | [.char '\\'] => .error .endInString
  | .char '\\' :: .char 'u' :: a :: b :: c :: d :: rest =>
    match hexFour? a b c d with
    | none => .error .badEscape
    | some code =>
      if isLowSurrogate code then .error .loneSurrogate
      else if isHighSurrogate code then
        match rest with
        | [] | [.char '\\'] => .error .endInString
        | .char '\\' :: .char 'u' :: e :: f :: g :: h :: after =>
          match hexFour? e f g h with
          | none => .error .badEscape
          | some low =>
            if isLowSurrogate low then
              (stringSymbols after).map (prepend (.char (pairChar code low)))
            else .error .loneSurrogate
        | .char '\\' :: .char 'u' :: short => .error (shortEscape short)
        | _ => .error .halfSurrogatePair
      else (stringSymbols rest).map (prepend (.char (Char.ofNat code)))
  | .char '\\' :: .char 'u' :: short => .error (shortEscape short)
  | .char '\\' :: mark :: rest =>
    match escaped? mark with
    | none => .error .badEscape
    | some c => (stringSymbols rest).map (prepend (.char c))
  | .char c :: rest =>
    if c < ' ' then .error .controlCharacter
    else (stringSymbols rest).map (prepend (.char c))
  | .stray b :: rest => (stringSymbols rest).map (prepend (.stray b))

/-- Reads a string after its opening quote; one with stray bytes is no text. -/
def readString (input : List Symbol) : Except Fault (String × List Symbol) := do
  let (read, rest) ← stringSymbols input
  match Text.charsOf? read with
  | some cs => .ok (String.ofList cs, rest)
  | none => .error .notUtf8

/-- Passes over a string after its opening quote. -/
def skipString : List Symbol → Except Fault (List Symbol)
  | [] => .error .endInString
  | .char '"' :: rest => .ok rest
  | [.char '\\'] => .error .endInString
  | .char '\\' :: .char 'u' :: a :: b :: c :: d :: rest =>
    if (hexFour? a b c d).isSome then skipString rest else .error .badEscape
  | .char '\\' :: .char 'u' :: short => .error (shortEscape short)
  | .char '\\' :: mark :: rest =>
    if (escaped? mark).isSome then skipString rest else .error .badEscape
  | .char c :: rest => if c < ' ' then .error .controlCharacter else skipString rest
  | .stray _ :: rest => skipString rest

mutual

/-- Passes over a value whose content is not wanted: its words are checked, its size, its depth
and its characters are not. The first argument bounds the steps.
-/
def skipValue : Nat → List Symbol → Except Fault (List Symbol)
  | 0, _ => .error .endInValue
  | fuel + 1, input =>
    match skipSpace input with
    | [] => .error .endInValue
    | .char 'n' :: rest => literal rest ['u', 'l', 'l']
    | .char 't' :: rest => literal rest ['r', 'u', 'e']
    | .char 'f' :: rest => literal rest ['a', 'l', 's', 'e']
    | .char '"' :: rest => skipString rest
    | .char '[' :: rest =>
      match skipSpace rest with
      | [] => .error .endInList
      | .char ']' :: after => .ok after
      | rest => skipItems fuel rest
    | .char '{' :: rest =>
      match skipSpace rest with
      | [] => .error .endInObject
      | .char '}' :: after => .ok after
      | rest => skipMembers fuel rest
    | s :: rest =>
      if s = .char '-' ∨ (digitOf? s).isSome then skipNumeral (s :: rest)
      else .error .expectedValue

/-- Passes over the items of a list, from one of them to the closing bracket. -/
def skipItems : Nat → List Symbol → Except Fault (List Symbol)
  | 0, _ => .error .endInList
  | fuel + 1, input => do
    match skipSpace (← skipValue fuel input) with
    | [] => .error .endInList
    | .char ']' :: rest => .ok rest
    | .char ',' :: rest => skipItems fuel rest
    | _ => .error .expectedItemEnd

/-- Passes over the members of an object, from one of them to the closing brace. -/
def skipMembers : Nat → List Symbol → Except Fault (List Symbol)
  | 0, _ => .error .endInObject
  | fuel + 1, input => do
    match skipSpace input with
    | [] => .error .endInObject
    | .char '"' :: rest =>
      match skipSpace (← skipString rest) with
      | [] => .error .endInObject
      | .char ':' :: rest =>
        match skipSpace (← skipValue fuel rest) with
        | [] => .error .endInObject
        | .char '}' :: rest => .ok rest
        | .char ',' :: rest => skipMembers fuel rest
        | _ => .error .expectedMemberEnd
      | _ => .error .expectedColon
    | _ => .error .keyNotString

end

/-- Passes over a value; a step takes at least half a symbol, so the bound is never met. -/
def skipAny (input : List Symbol) : Except Fault (List Symbol) :=
  skipValue (2 * input.length + 2) input

end NodeTrial.Json
