import NodeTrial.Json.Error
import NodeTrial.Text.Utf8

/-! Numbers in JSON text. Scanning splits a number into its digits; its value is the whole
number they spell where that is in range and no point or exponent stands, and otherwise a
floating-point number made from the leading digits that fit a word and a power of ten.
-/

namespace NodeTrial.Json

open Text (Symbol)

/-- A number as written: its sign and the digits of its parts. -/
structure Numeral where
  negative : Bool
  whole : List Nat
  fraction : List Nat
  exponent : Option (Bool × List Nat)
  deriving DecidableEq, Repr

def digitOf? : Symbol → Option Nat
  | .char c => Text.digitValue? c
  | .stray _ => none

/-- The digits at the front of a text, and what follows them. -/
def takeDigits : List Symbol → List Nat × List Symbol
  | [] => ([], [])
  | s :: rest =>
    match digitOf? s with
    | some d => let (more, after) := takeDigits rest; (d :: more, after)
    | none => ([], s :: rest)

/-- At least one digit; the text may not end before it. -/
def someDigits (input : List Symbol) : Except Fault (List Nat × List Symbol) :=
  match takeDigits input, input with
  | (d :: ds, rest), _ => .ok (d :: ds, rest)
  | ([], _), [] => .error .endInValue
  | ([], _), _ :: _ => .error .badNumber

/-- The part before the point: a zero by itself, or digits that start with another. -/
def wholePart (input : List Symbol) : Except Fault (List Nat × List Symbol) := do
  match ← someDigits input with
  | (0 :: _ :: _, _) => .error .badNumber
  | found => .ok found

/-- The digits after a point, if there is one. -/
def fractionPart : List Symbol → Except Fault (List Nat × List Symbol)
  | .char '.' :: rest => someDigits rest
  | input => .ok ([], input)

/-- The sign and the digits after an exponent mark, if there is one. -/
def exponentPart : List Symbol → Except Fault (Option (Bool × List Nat) × List Symbol)
  | .char 'e' :: rest | .char 'E' :: rest => do
    let (negative, rest) := match rest with
      | .char '+' :: after => (false, after)
      | .char '-' :: after => (true, after)
      | after => (false, after)
    let (digits, rest) ← someDigits rest
    .ok (some (negative, digits), rest)
  | input => .ok (none, input)

/-- Scans a number from its sign or first digit. -/
def scanNumeral (input : List Symbol) : Except Fault (Numeral × List Symbol) := do
  let (negative, input) := match input with
    | .char '-' :: after => (true, after)
    | after => (false, after)
  let (whole, input) ← wholePart input
  let (fraction, input) ← fractionPart input
  let (exponent, input) ← exponentPart input
  .ok ({ negative, whole, fraction, exponent }, input)

/-- Passes over a number whose value is not wanted; one cut short is a bad number. -/
def skipNumeral (input : List Symbol) : Except Fault (List Symbol) :=
  match scanNumeral input with
  | .ok (_, rest) => .ok rest
  | .error _ => .error .badNumber

/-- Appends decimal digits to a number while it fits an unsigned word of 64 bits; the digits
from the first that does not fit are left over.
-/
def appendDigits (value : Nat) : List Nat → Nat × List Nat
  | [] => (value, [])
  | d :: ds =>
    if value * 10 + d < UInt64.size then appendDigits (value * 10 + d) ds else (value, d :: ds)

/-- The number that a list of digits spells. -/
def digitsValue (ds : List Nat) : Nat :=
  ds.foldl (fun n d => n * 10 + d) 0

/-- Ten to a power up to 308, as a floating-point number. -/
def powerOfTen (n : Nat) : Float :=
  Float.ofScientific 1 false n

/-- Scales a float by a power of ten, dividing in steps when the power is beyond the range of
floats; `none` when the result is too large. Four steps bring any word down to zero.
-/
def scaleByTen (x : Float) (exponent : Int) : (steps : Nat) → Option Float
  | 0 => some x
  | steps + 1 =>
    if exponent.natAbs ≤ 308 then
      if 0 ≤ exponent then
        let scaled := x * powerOfTen exponent.natAbs
        if scaled.isInf then none else some scaled
      else some (x / powerOfTen exponent.natAbs)
    else if x == 0 then some x
    else if 0 ≤ exponent then none
    else scaleByTen (x / powerOfTen 308) (exponent + 308) steps

/-- The floating-point number of a word and a power of ten. -/
def realOf (negative : Bool) (significand : Nat) (exponent : Int) : Except Fault Number :=
  match scaleByTen (UInt64.ofNat significand).toFloat exponent 4 with
  | none => .error .numberOutOfRange
  | some x => .ok (.real (.ofFloat (if negative then -x else x)))

/-- The value of a number. An exponent that fits no signed word of 32 bits makes a number out of
range if it is large, and zero if it is tiny or has only zeros.
-/
def Numeral.value (n : Numeral) : Except Fault Number :=
  let (leading, dropped) := appendDigits 0 n.whole
  match n.fraction, n.exponent, dropped with
  | [], none, [] =>
    if n.negative then
      if 1 ≤ leading ∧ leading ≤ 0x8000000000000000 then
        match Whole.ofInt? (-leading) with
        | some w => .ok (.whole w)
        | none => .error .numberOutOfRange
      else realOf true leading 0
    else
      match Whole.ofInt? leading with
      | some w => .ok (.whole w)
      | none => .error .numberOutOfRange
  | fraction, exponent, dropped =>
    let (significand, cut) := appendDigits leading fraction
    let scale : Int := dropped.length - (fraction.length - cut.length : Nat)
    match exponent with
    | none => realOf n.negative significand scale
    | some (negative, digits) =>
      let power := digitsValue digits
      if power < 0x80000000 then
        realOf n.negative significand (if negative then scale - power else scale + power)
      else if significand ≠ 0 ∧ !negative then .error .numberOutOfRange
      else .ok (.real (.ofFloat (if n.negative then -0.0 else 0.0)))

def readNumber (input : List Symbol) : Except Fault (Number × List Symbol) := do
  let (numeral, rest) ← scanNumeral input
  .ok (← numeral.value, rest)

end NodeTrial.Json
