import NodeTrial.Text.Numeral

/-! Fractions written with a fixed number of decimal places. The exact value is rounded to the
nearest written one, and a tie goes to the even digit.
-/

namespace NodeTrial.Decimal

/-- The quotient rounded to the nearest whole number, a tie to the even one. -/
def roundDiv (numerator denominator : Nat) : Nat :=
  let quotient := numerator / denominator
  let twice := 2 * (numerator % denominator)
  if twice < denominator ∨ (twice = denominator ∧ quotient % 2 = 0) then quotient
  else quotient + 1

/-- A fraction written with `places` digits after the point. -/
def fixedText (places numerator denominator : Nat) : String :=
  let units := roundDiv (numerator * Nat.pow 10 places) denominator
  let digits := Nat.toDigits 10 units
  let padded := List.replicate (places + 1 - digits.length) '0' ++ digits
  let whole := padded.take (padded.length - places)
  String.ofList whole ++ "." ++ String.ofList (padded.drop whole.length)

end NodeTrial.Decimal
