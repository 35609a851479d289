import NodeTrial.Executor.Script.Bytes
import NodeTrial.Text.Division
import NodeTrial.Text.Numeral

/-! Escapes in texts of scripts: a backslash and a letter or digits stand for one byte.
-/

namespace NodeTrial.Script

/-- The value of an octal digit. -/
def octal? (c : Char) : Option Nat :=
  (Text.digitValue? c).filter (· < 8)

/-- Takes at most `most` digits of a base from the front: how many there are, their value, and
what follows.
-/
def takeDigits (digit? : Char → Option Nat) (base : Nat)
    : (most : Nat) → (count value : Nat) → List Char → Nat × Nat × List Char
  | 0, count, value, cs => (count, value, cs)
  | _, count, value, [] => (count, value, [])
  | most + 1, count, value, c :: rest =>
    match digit? c with
    | some d => takeDigits digit? base most (count + 1) (value * base + d) rest
    | none => (count, value, c :: rest)

/-- The byte of an escape's letter. -/
def escapeByte? (c : Char) : Option Char :=
  match c with
  | 'a' => some '\x07'
  | 'b' => some '\x08'
  | 'e' => some '\x1b'
  | 'f' => some '\x0c'
  | 'n' => some '\n'
  | 'r' => some '\r'
  | 't' => some '\t'
  | 'v' => some '\x0b'
  | '\\' => some '\\'
  | _ => none

/-- Takes a text with escapes up to its closing quote. -/
def takeEscapedFrom : (bound : Nat) → List Char → Option (List Char × List Char)
  | 0, _ => none
  | _, [] => none
  | bound + 1, cs => do
    let (bytes, rest) ← match cs with
      | '\'' :: _ => pure ([], cs)
      | '\\' :: 'x' :: rest =>
        let (count, value, after) := takeDigits Text.hexValue? 16 2 0 0 rest
        pure (if count = 0 then (['\\', 'x'], rest) else ([byteOf value], after))
      | '\\' :: 'u' :: rest =>
        let (count, value, after) := takeDigits Text.hexValue? 16 4 0 0 rest
        pure (if count = 0 then (['\\', 'u'], rest) else (bytesOfEscape value, after))
      | '\\' :: 'U' :: rest =>
        let (count, value, after) := takeDigits Text.hexValue? 16 8 0 0 rest
        pure (if count = 0 then (['\\', 'U'], rest) else (bytesOfEscape value, after))
      | '\\' :: 'c' :: c :: rest => pure ([byteOf (c.toUpper.toNat % 32)], rest)
      | '\\' :: 'E' :: rest => pure (['\x1b'], rest)
      | '\\' :: c :: rest =>
        match octal? c, escapeByte? c with
        | some _, _ =>
          let (_, value, after) := takeDigits octal? 8 3 0 0 (c :: rest)
          pure ([byteOf value], after)
        | none, some byte => pure ([byte], rest)
        | none, none =>
          pure (if ['\'', '"', '?'].contains c then ([c], rest) else (['\\', c], rest))
      | c :: rest => pure ([c], rest)
      | [] => none
    if bytes.isEmpty then some ([], rest.drop 1)
    else
      let (text, after) ← takeEscapedFrom bound rest
      return (bytes ++ text, after)

/-- Takes a text with escapes up to its closing quote. -/
def takeEscaped (cs : List Char) : Option (List Char × List Char) :=
  takeEscapedFrom (cs.length + 1) cs

end NodeTrial.Script
