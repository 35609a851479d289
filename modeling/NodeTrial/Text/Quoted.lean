import NodeTrial.Text.Printable

/-! Quoted text in diagnostics: the text between double quotes, with escapes for the quote, the
backslash, the usual controls, and every character that does not show by itself, which is
written by its code point in braces.
-/

namespace NodeTrial.Text

/-- The lower-case hexadecimal digits of a number. -/
def hexText (n : Nat) : String :=
  String.ofList (Nat.toDigits 16 n)

/-- A character as it stands inside quotes. -/
def quotedChar (c : Char) : String :=
  match c with
  | '"' => "\\\""
  | '\\' => "\\\\"
  | '\x00' => "\\0"
  | '\t' => "\\t"
  | '\n' => "\\n"
  | '\r' => "\\r"
  | c =>
    if showsAlone c then c.toString else "\\u\x7b" ++ hexText c.toNat ++ "\x7d"

/-- A text in double quotes. -/
def quoted (s : String) : String :=
  "\"" ++ String.join (s.toList.map quotedChar) ++ "\""

end NodeTrial.Text
