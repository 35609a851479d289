/-! Decimal numerals for whole numbers. Reading takes an optional plus sign and at least one
digit, leading zeros allowed, and refuses a value that its range cannot hold; writing gives
the digits without leading zeros.
-/

namespace NodeTrial.Text

def digitValue? (c : Char) : Option Nat :=
  if '0' ≤ c ∧ c ≤ '9' then some (c.toNat - '0'.toNat) else none

/-- The value of a hexadecimal digit of either case. -/
def hexValue? (c : Char) : Option Nat :=
  if '0' ≤ c ∧ c ≤ '9' then some (c.toNat - '0'.toNat)
  else if 'A' ≤ c ∧ c ≤ 'F' then some (c.toNat - 'A'.toNat + 10)
  else if 'a' ≤ c ∧ c ≤ 'f' then some (c.toNat - 'a'.toNat + 10)
  else none

def isDigit (c : Char) : Bool :=
  (digitValue? c).isSome

/-- The number that digits spell after a value already read. -/
def digitsFrom (value : Nat) : List Char → Option Nat
  | [] => some value
  | c :: rest => do digitsFrom (value * 10 + (← digitValue? c)) rest

/-- The number that a non-empty run of digits spells. -/
def digits? : List Char → Option Nat
  | [] => none
  | cs => digitsFrom 0 cs

/-- A whole number with an optional plus sign. -/
def natural? : List Char → Option Nat
  | '+' :: cs => digits? cs
  | cs => digits? cs

/-- A whole number with an optional sign. -/
def integer? : List Char → Option Int
  | '-' :: cs => (digits? cs).map fun n => -(n : Int)
  | cs => (natural? cs).map Int.ofNat

/-- A whole number below `bound`. -/
def naturalBelow? (bound : Nat) (s : String) : Option Nat :=
  (natural? s.toList).filter (· < bound)

/-- A 64-bit word, never wrapped or cut. -/
def word? (s : String) : Option UInt64 :=
  (naturalBelow? UInt64.size s).map .ofNat

/-- A signed 64-bit number. -/
def signed? (s : String) : Option Int :=
  (integer? s.toList).filter fun n => -0x8000000000000000 ≤ n ∧ n < 0x8000000000000000

/-- The digits of a natural number. -/
def natText (n : Nat) : String :=
  String.ofList (Nat.toDigits 10 n)

/-- The digits of an integer, after a minus sign if it is negative. -/
def intText : Int → String
  | .ofNat n => natText n
  | .negSucc n => "-" ++ natText (n + 1)

end NodeTrial.Text
