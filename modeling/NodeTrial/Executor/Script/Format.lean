import NodeTrial.Decimal.Double
import NodeTrial.Decimal.Fixed
import NodeTrial.Executor.Script.Calculation

/-! What a script prints: texts with escapes, and formats with fields that arguments fill. A format
is used again as long as arguments are left.
-/

namespace NodeTrial.Script

/-- A text whose escapes are put in, and whether an escape ended it. -/
structure Unescaped where
  text : List Char
  ended : Bool
  deriving DecidableEq, Repr

/-- The bytes of the escape after a backslash and what follows it, in the forms that texts have:
an octal number may have a zero before its three digits. None for an escape that ends all.
-/
def takeEscape (dialect : Dialect) (digitsNeedZero : Bool)
    : List Char → Option (List Char × List Char)
  | [] => some (['\\'], [])
  | c :: rest =>
    let number (digits : List Char) : List Char × List Char :=
      let (_, value, after) := takeDigits octal? 8 3 0 0 digits
      ([byteOf value], after)
    let inHex (most : Nat) (bytes : Nat → List Char) : List Char × List Char :=
      match takeDigits Text.hexValue? 16 most 0 0 rest with
      | (0, _, _) => (['\\', c], rest)
      | (_, value, after) => (bytes value, after)
    if c = 'c' then none
    else if c = '0' then some (number rest)
    else if (octal? c).isSome ∧ ¬digitsNeedZero then some (number (c :: rest))
    else if dialect = .extended ∧ c = 'x' then some (inHex 2 fun value => [byteOf value])
    else if dialect = .extended ∧ c = 'u' then some (inHex 4 bytesOfEscape)
    else if dialect = .extended ∧ c = 'U' then some (inHex 8 bytesOfEscape)
    else if dialect = .extended ∧ c = 'E' then some (['\x1b'], rest)
    else
      match escapeByte? c with
      | some byte => some ([byte], rest)
      | none => some (['\\', c], rest)

/-- A text with its escapes put in; `bound` is more than its length. -/
def unescape (dialect : Dialect) (digitsNeedZero : Bool) : (bound : Nat) → List Char → Unescaped
  | 0, _ => ⟨[], false⟩
  | _, [] => ⟨[], false⟩
  | bound + 1, c :: rest =>
    if c = '\\' then
      match takeEscape dialect digitsNeedZero rest with
      | none => ⟨[], true⟩
      | some (bytes, after) =>
        let more := unescape dialect digitsNeedZero bound after
        { more with text := bytes ++ more.text }
    else
      let more := unescape dialect digitsNeedZero bound rest
      { more with text := c :: more.text }

/-- What printing words gives. The plain dialect puts escapes in; the other does so if an option
asks for it.
-/
def echoText (dialect : Dialect) (words : List String) : String :=
  let isOption (word : String) : Bool :=
    match dialect, word.toList with
    | .plain, cs => cs == ['-', 'n']
    | .extended, '-' :: c :: cs => (c :: cs).all ['n', 'e', 'E'].contains
    | .extended, _ => false
  let options := match dialect with
    | .plain => (words.take 1).filter isOption
    | .extended => words.takeWhile isOption
  let letters := options.flatMap String.toList
  let escapes := match dialect, (letters.filter fun c => c == 'e' || c == 'E').getLast? with
    | .plain, _ => true
    | .extended, last => last = some 'e'
  let text := (" ".intercalate (words.drop options.length)).toList
  let unescaped :=
    if escapes then unescape dialect (dialect = .extended) (text.length + 1) text
    else ⟨text, false⟩
  String.ofList unescaped.text ++
    (if unescaped.ended ∨ letters.contains 'n' then "" else "\n")

/-- A width or a precision: a number, or one that an argument gives. -/
inductive Extent where
  | fixed (n : Nat)
  | argument
  deriving DecidableEq, Repr

/-- A part of a format: a text, a field, or something that is no field. -/
inductive FormatPart where
  | text (text : List Char)
  | field (flags : List Char) (width precision : Option Extent) (kind : Char)
  | invalid
  deriving DecidableEq, Repr

/-- Takes a width or a precision. -/
def takeExtent (cs : List Char) : Option Extent × List Char :=
  match cs with
  | '*' :: rest => (some .argument, rest)
  | cs =>
    match takeDigits Text.digitValue? 10 cs.length 0 0 cs with
    | (0, _, _) => (none, cs)
    | (_, value, after) => (some (.fixed value), after)

def fieldKinds (dialect : Dialect) : List Char :=
  ['s', 'd', 'i', 'o', 'u', 'x', 'X', 'c', 'b', 'f', 'F', 'e', 'E', 'g', 'G'] ++
    (if dialect = .extended then ['q'] else [])

/-- The escape after a backslash in a format, and what follows it. -/
def takeFormatEscape (dialect : Dialect) (cs : List Char) : List Char × List Char :=
  match cs with
  | [] => (['\\'], [])
  | c :: rest =>
    if (octal? c).isSome then
      let (_, value, after) := takeDigits octal? 8 3 0 0 cs
      ([byteOf value], after)
    else if c = 'c' then (['\\', 'c'], rest)
    else if dialect = .extended ∧ (c = '"' ∨ c = '\'' ∨ c = '?') then ([c], rest)
    else (takeEscape dialect false cs).getD ([], rest)

def formatParts (dialect : Dialect) : (bound : Nat) → List Char → List FormatPart
  | 0, _ => []
  | _, [] => []
  | bound + 1, '%' :: '%' :: rest => .text ['%'] :: formatParts dialect bound rest
  | bound + 1, '%' :: rest =>
    let flags := rest.takeWhile ['-', '+', ' ', '#', '0'].contains
    let (width, rest) := takeExtent (rest.drop flags.length)
    let (precision, rest) := match rest with
      | '.' :: more =>
        match takeExtent more with
        | (none, more) => (some (Extent.fixed 0), more)
        | found => found
      | rest => (none, rest)
    let rest := if dialect = .extended then rest.dropWhile ['l', 'h', 'j', 'z', 't', 'L'].contains
      else rest
    match rest with
    | kind :: rest =>
      if (fieldKinds dialect).contains kind then
        .field flags width precision kind :: formatParts dialect bound rest
      else [.invalid]
    | [] => [.invalid]
  | bound + 1, '\\' :: rest =>
    let (bytes, after) := takeFormatEscape dialect rest
    .text bytes :: formatParts dialect bound after
  | bound + 1, c :: rest => .text [c] :: formatParts dialect bound rest

/-- The number of an argument, and whether all of the argument spells it. A quote before a
character stands for its code.
-/
def argumentNumber (arg : String) : Int × Bool :=
  match arg.toList with
  | '"' :: c :: _ | '\'' :: c :: _ => (c.toNat, true)
  | ['"'] | ['\''] => (0, true)
  | cs =>
    let cs := cs.dropWhile fun c => c == ' ' || ('\t' ≤ c && c ≤ '\r')
    let (sign, digits) : Int × List Char := match cs with
      | '-' :: rest => (-1, rest)
      | '+' :: rest => (1, rest)
      | cs => (1, cs)
    if digits.head?.any Text.isDigit then
      let (value, rest) := Sum.takeNumber digits
      (sign * value, rest.isEmpty)
    else (0, arg.isEmpty)

/-- The number of an argument in decimal notation as a fraction, with its sign, and whether all of
the argument spells it.
-/
def argumentFraction (arg : String) : Bool × (Nat × Nat) × Bool :=
  match arg.toList with
  | '"' :: c :: _ | '\'' :: c :: _ => (false, (c.toNat, 1), true)
  | cs =>
    let (negative, digits) := match cs with
      | '-' :: rest => (true, rest)
      | '+' :: rest => (false, rest)
      | cs => (false, cs)
    let (count, whole, rest) := takeDigits Text.digitValue? 10 digits.length 0 0 digits
    let (places, mantissa, rest) := match rest with
      | '.' :: more => takeDigits Text.digitValue? 10 more.length 0 whole more
      | rest => (0, whole, rest)
    let (exponent, rest) : Int × List Char := match rest with
      | e :: more =>
        let (sign, digits) : Int × List Char := match more with
          | '-' :: digits => (-1, digits)
          | '+' :: digits => (1, digits)
          | digits => (1, digits)
        match takeDigits Text.digitValue? 10 4 0 0 digits with
        | (0, _, _) => (0, rest)
        | (_, value, after) => if e = 'e' ∨ e = 'E' then (sign * value, after) else (0, rest)
      | [] => (0, rest)
    let scale := exponent - places
    let nearest := Double.ofFloat (Float.ofScientific mantissa (scale < 0) scale.natAbs)
    (negative, nearest.magnitude, (count + places ≠ 0 ∧ rest.isEmpty) ∨ arg.isEmpty)

/-- A text filled up to a width: at its end, or at its front with blanks or after its sign with
zeros.
-/
def padded (width : Nat) (atEnd zeros : Bool) (lead body : List Char) : List Char :=
  let missing := width - (lead.length + body.length)
  if atEnd then lead ++ body ++ List.replicate missing ' '
  else if zeros then lead ++ List.replicate missing '0' ++ body
  else List.replicate missing ' ' ++ lead ++ body

/-- The digits of a fraction in scientific notation, and its exponent. -/
def scientific (places numerator denominator : Nat) : List Char × Int :=
  if numerator = 0 then (List.replicate (places + 1) '0', 0)
  else
    let size (n : Nat) : Int := (Nat.toDigits 10 n).length
    let digitsAt (exponent : Int) : Nat :=
      let scale := (places : Int) - exponent
      Decimal.roundDiv (numerator * Nat.pow 10 scale.toNat)
        (denominator * Nat.pow 10 (-scale).toNat)
    let guess := size numerator - size denominator
    let isLess := numerator * Nat.pow 10 (-guess).toNat < denominator * Nat.pow 10 guess.toNat
    let exponent := if isLess then guess - 1 else guess
    let digits := Nat.toDigits 10 (digitsAt exponent)
    if digits.length ≤ places + 1 then (digits, exponent)
    else (Nat.toDigits 10 (digitsAt (exponent + 1)), exponent + 1)

/-- Digits with a point after the first one. -/
def pointed (digits : List Char) : List Char :=
  match digits with
  | first :: second :: rest => first :: '.' :: second :: rest
  | digits => digits

/-- A decimal text without the zeros at its end. -/
def trimmed (cs : List Char) : List Char :=
  if cs.contains '.' then
    ((cs.reverse.dropWhile (· = '0')).dropWhile (· = '.')).reverse
  else cs

/-- The exponent of a scientific notation, with two digits or more. -/
def exponentText (exponent : Int) : List Char :=
  let digits := Nat.toDigits 10 exponent.natAbs
  ['e', if exponent < 0 then '-' else '+'] ++ List.replicate (2 - digits.length) '0' ++ digits

/-- The text of a fraction in a field of decimal notation. -/
def fractionText (kind : Char) (precision : Nat) (keepsZeros : Bool) (fraction : Nat × Nat)
    : List Char :=
  let (numerator, denominator) := fraction
  let fixed (places : Nat) : List Char :=
    let text := (Decimal.fixedText places numerator denominator).toList
    if places = 0 then text.dropLast else text
  match kind.toLower with
  | 'f' => fixed precision
  | 'e' =>
    let (digits, exponent) := scientific precision numerator denominator
    pointed digits ++ exponentText exponent
  | _ =>
    let significant := max precision 1
    let (digits, exponent) := scientific (significant - 1) numerator denominator
    let trim (cs : List Char) : List Char := if keepsZeros then cs else trimmed cs
    if exponent < -4 ∨ (significant : Int) ≤ exponent then
      trim (pointed digits) ++ exponentText exponent
    else trim (fixed ((significant : Int) - 1 - exponent).toNat)

/-- A word quoted so that a script reads it back. -/
def quotedWord (word : List Char) : List Char :=
  let isPlain (c : Char) : Bool :=
    c.isAlphanum || ['%', '+', '-', '.', '/', ':', '=', '@', '_', ','].contains c
  if word.isEmpty then ['\'', '\'']
  else word.flatMap fun c => if isPlain c then [c] else ['\\', c]

/-- A use of a format: what is printed, the arguments that are left, whether one was taken, the
status, whether something was wrong with an argument, and whether all has ended.
-/
structure Filling where
  output : List Char
  args : List String
  taken : Bool
  status : Nat
  warned : Bool
  ended : Bool
  deriving DecidableEq, Repr

namespace Filling

def print (f : Filling) (text : List Char) : Filling :=
  { f with output := f.output ++ text }

/-- Takes the next argument; a missing one is empty. -/
def next (f : Filling) : String × Filling :=
  (f.args.headD "", { f with args := f.args.drop 1, taken := f.taken || !f.args.isEmpty })

/-- Notes that an argument was no number. -/
def note (f : Filling) (isFine : Bool) : Filling :=
  if isFine then f else { f with status := 1, warned := true }

/-- Takes a width or a precision, which may be an argument. -/
def extent (f : Filling) : Option Extent → Option Int × Filling
  | none => (none, f)
  | some (.fixed n) => (some n, f)
  | some .argument =>
    let (arg, f) := f.next
    let (value, isFine) := argumentNumber arg
    (some value, f.note isFine)

def number (f : Filling) (dialect : Dialect) (flags : List Char) (precision : Option Nat)
    (pad : Bool → List Char → List Char → List Char) (kind : Char) : Filling :=
  let (arg, f) := f.next
  let (value, isFine) := argumentNumber arg
  let isSigned := kind = 'd' ∨ kind = 'i'
  let least : Int := -Sum.greatest - 1
  let most : Int := if isSigned then Sum.greatest else Sum.modulus - 1
  let bounded := max least (min value most)
  let isInside : Bool := bounded = value
  let f := f.note (isFine && (isInside || dialect == .extended))
  let f := if isInside then f else { f with warned := true }
  let isNegative : Bool := isSigned ∧ bounded < 0
  let magnitude := if isSigned then bounded.natAbs else (bounded % Sum.modulus).toNat
  let base := match kind with
    | 'o' => 8
    | 'x' | 'X' => 16
    | _ => 10
  let digits := if magnitude = 0 ∧ precision = some 0 then [] else Nat.toDigits base magnitude
  let digits := List.replicate (precision.getD 1 - digits.length) '0' ++ digits
  let digits :=
    if kind = 'o' ∧ flags.contains '#' ∧ digits.head? ≠ some '0' then '0' :: digits else digits
  let digits := if kind = 'X' then digits.map Char.toUpper else digits
  let sign :=
    if isNegative then ['-']
    else if isSigned ∧ flags.contains '+' then ['+']
    else if isSigned ∧ flags.contains ' ' then [' ']
    else if base = 16 ∧ flags.contains '#' ∧ magnitude ≠ 0 then ['0', kind]
    else []
  f.print (pad (flags.contains '0' && precision.isNone) sign digits)

def fraction (f : Filling) (flags : List Char) (precision : Option Nat)
    (pad : Bool → List Char → List Char → List Char) (kind : Char) : Filling :=
  let (arg, f) := f.next
  let (isNegative, fraction, isFine) := argumentFraction arg
  let sign :=
    if isNegative then ['-']
    else if flags.contains '+' then ['+']
    else if flags.contains ' ' then [' ']
    else []
  let text := fractionText kind (precision.getD 6) (flags.contains '#') fraction
  let text := if kind.isUpper then text.map Char.toUpper else text
  (f.note isFine).print (pad (flags.contains '0') sign text)

def part (dialect : Dialect) (f : Filling) : FormatPart → Filling
  | .text text => if f.ended then f else f.print text
  | .invalid =>
    if f.ended then f
    else { f with status := if dialect = .plain then 2 else 1, ended := true }
  | .field flags width precision kind =>
    if f.ended then f
    else
      let (width, f) := f.extent width
      let (precision, f) := f.extent precision
      let precision := (precision.filter fun n => 0 ≤ n).map Int.toNat
      let atEnd := flags.contains '-' || width.any fun n => n < 0
      let pad (zeros : Bool) (lead body : List Char) : List Char :=
        padded (width.getD 0).natAbs atEnd zeros lead body
      let cut (text : List Char) : List Char :=
        match precision with
        | some n => text.take n
        | none => text
      match kind with
      | 's' =>
        let (arg, f) := f.next
        f.print (pad false [] (cut arg.toList))
      | 'q' =>
        let (arg, f) := f.next
        f.print (pad false [] (quotedWord arg.toList))
      | 'c' =>
        let (arg, f) := f.next
        f.print (pad false [] [arg.toList.headD '\x00'])
      | 'b' =>
        let (arg, f) := f.next
        let unescaped := unescape dialect false (arg.length + 1) arg.toList
        { f.print (pad false [] (cut unescaped.text)) with ended := unescaped.ended }
      | kind =>
        if ['f', 'F', 'e', 'E', 'g', 'G'].contains kind then f.fraction flags precision pad kind
        else f.number dialect flags precision pad kind

end Filling

/-- Uses a format again and again while it takes arguments and some are left; it is used up to
`bound` times.
-/
def fill (dialect : Dialect) (parts : List FormatPart) : (bound : Nat) → Filling → Filling
  | 0, f => f
  | bound + 1, f =>
    let f := parts.foldl (Filling.part dialect) { f with taken := false }
    if f.ended ∨ f.args.isEmpty ∨ ¬f.taken then f else fill dialect parts bound f

/-- What a format and arguments print, the status, and whether something was wrong with them. -/
def formatText (dialect : Dialect) (format : String) (args : List String)
    : String × Nat × Bool :=
  let parts := formatParts dialect (format.length + 1) format.toList
  let f := fill dialect parts (args.length + 1) ⟨[], args, false, 0, false, false⟩
  (String.ofList f.output, f.status, f.warned || f.status != 0)

end NodeTrial.Script
