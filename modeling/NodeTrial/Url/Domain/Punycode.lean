import NodeTrial.Text.Division

/-! Punycode: a text beyond ASCII in letters, digits and hyphens. The characters of ASCII come
first, then a hyphen, then for every other character, in the order of the codes, how far it
lies from the one before it, counting all places that any code in between could have taken. Such
a distance is a number with digits of base 36, the lowest first, and the greatest digit that can
end it adapts to the distances before.
-/

namespace NodeTrial.Domain.Punycode

/-- The value of a digit: letters, then the decimal digits. -/
def digitValue? (c : Char) : Option Nat :=
  if 'a' ≤ c ∧ c ≤ 'z' then some (c.toNat - 'a'.toNat)
  else if '0' ≤ c ∧ c ≤ '9' then some (c.toNat - '0'.toNat + 26)
  else none

def digitOf (value : Nat) : Char :=
  if value < 26 then Char.ofNat ('a'.toNat + value) else Char.ofNat ('0'.toNat + (value - 26))

/-- The least value of a digit after which a number goes on, 36 times the place of the digit
counting as its step.
-/
def threshold (step bias : Nat) : Nat :=
  if step ≤ bias then 1 else if bias + 26 ≤ step then 26 else step - bias

theorem one_le_threshold (step bias : Nat)
    : 1 ≤ threshold step bias := by
  unfold threshold
  split
  · omega
  · split <;> omega

/-- A distance divided until it is small, and 36 for each division. -/
def scaled (distance step : Nat) : Nat × Nat :=
  if 455 < distance then scaled (distance / 35) (step + 36) else (distance, step)
termination_by distance
decreasing_by omega

/-- The bias after a distance, by the number of characters there are then. -/
def adapted (distance count : Nat) (isFirst : Bool) : Nat :=
  let damped := if isFirst then distance / 700 else distance / 2
  let (rest, step) := scaled (damped + damped / count) 0
  step + 36 * rest / (rest + 38)

def isCode (n : Nat) : Bool :=
  n < 0xD800 || (0xDFFF < n && n < 0x110000)

/-- What reading has come to: the text, the last code, the place after it, the bias, and the
number being read with the weight and the step of its next digit.
-/
structure Reading where
  text : List Nat
  code : Nat
  start : Nat
  bias : Nat
  place : Nat
  weight : Nat
  step : Nat

/-- Ready to read a number. -/
def Reading.at (text : List Nat) (code place bias : Nat) : Reading :=
  ⟨text, code, place, bias, place, 1, 36⟩

def insertAt (place code : Nat) (text : List Nat) : List Nat :=
  text.take place ++ code :: text.drop place

/-- Reads numbers and puts their characters into the text. -/
def readFrom (r : Reading) : List Char → Option (List Nat)
  | [] => if r.step = 36 then some r.text else none
  | c :: rest => do
    let digit ← digitValue? c
    let place := r.place + digit * r.weight
    let least := threshold r.step r.bias
    if least ≤ digit then
      readFrom { r with place, weight := r.weight * (36 - least), step := r.step + 36 } rest
    else
      let count := r.text.length + 1
      let code := r.code + place / count
      let here := place % count
      if isCode code then
        let bias := adapted (place - r.start) count (r.start = 0)
        readFrom (.at (insertAt here code r.text) code (here + 1) bias) rest
      else none

/-- The characters of ASCII that a text starts with, and its numbers. A hyphen at the front does
not divide them.
-/
def parts (text : List Char) : List Char × List Char :=
  match Text.splitLast? (· == '-') text with
  | some (first :: more, numbers) => (first :: more, numbers)
  | _ => ([], text)

/-- The text that a Punycode text stands for. -/
def decode? (text : List Char) : Option (List Char) :=
  let (basic, numbers) := parts text
  (readFrom (.at (basic.map Char.toNat) 128 0 72) numbers).map (·.map Char.ofNat)

def digitsOf (bias step n : Nat) : List Char :=
  let least := threshold step bias
  if n < least then [digitOf n]
  else
    digitOf (least + (n - least) % (36 - least)) ::
      digitsOf bias (step + 36) ((n - least) / (36 - least))
termination_by n
decreasing_by
  have positive := one_le_threshold step bias
  have smaller := Nat.div_le_self (n - threshold step bias) (36 - threshold step bias)
  omega

/-- What writing has come to: the numbers, the distance since the last one, the bias, and how
many characters have been written.
-/
structure Writing where
  numbers : List Char
  distance : Nat
  bias : Nat
  written : Nat

/-- Goes past one character on the way to the places of a code. -/
def pass (basic target : Nat) (w : Writing) (code : Nat) : Writing :=
  if code < target then { w with distance := w.distance + 1 }
  else if code = target then
    { numbers := w.numbers ++ digitsOf w.bias 36 w.distance
      distance := 0
      bias := adapted w.distance (w.written + 1) (w.written = basic)
      written := w.written + 1 }
  else w

/-- Writes the codes of a list wherever they are in a text. -/
def writeCodes (text : List Nat) (basic : Nat) : (next : Nat) → Writing → List Nat → Writing
  | _, w, [] => w
  | next, w, code :: rest =>
    let reached := { w with distance := w.distance + (code - next) * (w.written + 1) }
    let w := text.foldl (pass basic code) reached
    writeCodes text basic (code + 1) { w with distance := w.distance + 1 } rest

/-- Adds a code to a rising list, unless it is there. -/
def insertCode (code : Nat) : List Nat → List Nat
  | [] => [code]
  | next :: rest =>
    if code < next then code :: next :: rest
    else if code = next then next :: rest
    else next :: insertCode code rest

def encode (text : List Char) : List Char :=
  let basic := text.filter fun c => c.toNat < 128
  let codes := text.map Char.toNat
  let beyond := (codes.filter fun code => 128 ≤ code).foldr insertCode []
  let w := writeCodes codes basic.length 128 ⟨[], 0, 72, basic.length⟩ beyond
  (if basic.isEmpty then [] else basic ++ ['-']) ++ w.numbers

end NodeTrial.Domain.Punycode
