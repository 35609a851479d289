import NodeTrial.Decimal.Double
import NodeTrial.Text.Numeral

/-! The shortest decimal that reads back as a given binary number, and its two spellings. Among
the decimals with the fewest digits the nearest is taken; a number of moderate size is spelled
positionally, any other with an exponent, and both show that the number is no integer.
-/

namespace NodeTrial.Decimal

/-- A positive decimal: `digits` times ten to the power `exponent`. -/
structure Scaled where
  digits : Nat
  exponent : Int
  deriving DecidableEq, Repr

/-- The numbers around a value, over one denominator: those from `low` to `high` round to it,
the two ends included only if `closed`.
-/
structure Rounding where
  value : Nat
  low : Nat
  high : Nat
  denominator : Nat
  closed : Bool
  deriving DecidableEq, Repr

/-- The numbers that round to a positive double, counted in quarters of its last place. -/
def Rounding.ofDouble (d : Double) : Rounding :=
  let quarters := 4 * d.significand
  let below := if d.isBinadeStart then 1 else 2
  let (scale, denominator) :=
    match d.exponent - 2 with
    | .ofNat e => (1 <<< e, 1)
    | .negSucc e => (1, 1 <<< (e + 1))
  { value := quarters * scale
    low := (quarters - below) * scale
    high := (quarters + 2) * scale
    denominator
    closed := d.significand % 2 = 0 }

/-- The least number of places, up to `fuel`, by which a fraction below one must be shifted for
its first digit to stand before the point, less one.
-/
def leadingZeros (value denominator : Nat) : Nat → Nat
  | 0 => 0
  | fuel + 1 =>
    if denominator ≤ value * 10 then 0 else leadingZeros (value * 10) denominator fuel + 1

/-- Where the point stands: the value is at least ten to the power of this less one, and below
ten to the power of this.
-/
def Rounding.point (r : Rounding) : Int :=
  if r.denominator ≤ r.value then (Nat.toDigits 10 (r.value / r.denominator)).length
  else -(leadingZeros r.value r.denominator 400 : Nat)

/-- The decimal on the grid of `count` digits that rounds to the value: of the value's two
neighbours on the grid the one that does, the nearer one if both do.
-/
def Rounding.onGrid? (r : Rounding) (count : Nat) : Option Scaled :=
  let exponent := r.point - count
  let (step, factor) :=
    match exponent with
    | .ofNat e => (Nat.pow 10 e * r.denominator, 1)
    | .negSucc e => (r.denominator, Nat.pow 10 (e + 1))
  let target := r.value * factor
  let inside (n : Nat) : Bool :=
    if r.closed then r.low * factor ≤ n * step ∧ n * step ≤ r.high * factor
    else r.low * factor < n * step ∧ n * step < r.high * factor
  let lower := target / step
  let upper := lower + 1
  match inside lower, inside upper with
  | true, true =>
    let below := target - lower * step
    let above := upper * step - target
    some ⟨if below < above ∨ (below = above ∧ lower % 2 = 0) then lower else upper, exponent⟩
  | true, false => some ⟨lower, exponent⟩
  | false, true => some ⟨upper, exponent⟩
  | false, false => none

/-- The shortest decimal that reads back as a positive double: the first grid with one. -/
def shortest (d : Double) : Scaled :=
  let r := Rounding.ofDouble d
  ((List.range 17).findSome? fun n => r.onGrid? (n + 1)).getD ⟨d.significand, 0⟩

/-- Where the positional spelling of a number ends: it is used while the decimal point falls
from `leastPoint` to `greatestPoint` places behind the first digit's place.
-/
structure Style where
  leastPoint : Int
  greatestPoint : Int

/-- Numbers from 0.00001 up to, and not including, 10000000000000000 are positional. -/
def style : Style := ⟨-4, 16⟩

/-- The spelling of a decimal: with a point and at least one digit after it, or as one digit,
the others after a point, and a signed exponent.
-/
def Scaled.render (s : Scaled) : String :=
  let all := Nat.toDigits 10 s.digits
  let kept := (all.reverse.dropWhile (· = '0')).reverse
  let point := s.exponent + all.length
  if style.leastPoint ≤ point ∧ point ≤ style.greatestPoint then
    if point ≤ 0 then
      String.ofList ("0.".toList ++ List.replicate (-point).toNat '0' ++ kept)
    else
      let whole := kept.take point.toNat
      let pad := List.replicate (point.toNat - whole.length) '0'
      let fraction := kept.drop point.toNat
      String.ofList (whole ++ pad ++ '.' :: (if fraction.isEmpty then ['0'] else fraction))
  else
    let mantissa := match kept with
      | first :: second :: more => first :: '.' :: second :: more
      | digits => digits
    let power := point - 1
    let sign := if power < 0 then "" else "+"
    String.ofList mantissa ++ "e" ++ sign ++ Text.intText power

end NodeTrial.Decimal

namespace NodeTrial

/-- The text of a finite double: its sign, then its shortest decimal; zero is `0.0`. -/
def Double.render (d : Double) : String :=
  let sign := if d.isNegative then "-" else ""
  if d.significand = 0 then sign ++ "0.0" else sign ++ (Decimal.shortest d).render

end NodeTrial
