/-! Binary floating-point numbers of 64 bits, kept by their bits so that equality and printing
are decided on whole numbers. A finite number is its significand times a power of two.
-/

namespace NodeTrial

/-- A binary64 number. -/
structure Double where
  bits : UInt64
  deriving DecidableEq, Repr

namespace Double

def ofFloat (x : Float) : Double :=
  ⟨x.toBits⟩

def toFloat (d : Double) : Float :=
  Float.ofBits d.bits

/-- The sign bit is set. -/
def isNegative (d : Double) : Bool :=
  d.bits.toNat >>> 63 = 1

def exponentBits (d : Double) : Nat :=
  d.bits.toNat >>> 52 % 0x800

/-- The fifty-two fraction bits. -/
def fractionBits (d : Double) : Nat :=
  d.bits.toNat % 0x10000000000000

/-- The whole number that, times a power of two, is the magnitude of a finite number. -/
def significand (d : Double) : Nat :=
  if d.exponentBits = 0 then d.fractionBits else 0x10000000000000 + d.fractionBits

/-- The exponent of that power of two. -/
def exponent (d : Double) : Int :=
  (if d.exponentBits = 0 then 1 else (d.exponentBits : Int)) - 1075

/-- The magnitude of a finite number as a fraction of whole numbers. -/
def magnitude (d : Double) : Nat × Nat :=
  match d.exponent with
  | .ofNat e => (d.significand <<< e, 1)
  | .negSucc e => (d.significand, 1 <<< (e + 1))

/-- The gap to the number below is half the gap to the one above: the significand is the
least of its binade and the binade below has a finer grid.
-/
def isBinadeStart (d : Double) : Bool :=
  d.fractionBits = 0 ∧ 1 < d.exponentBits

end Double

end NodeTrial
