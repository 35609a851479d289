import NodeTrial.Text.Division
import NodeTrial.Url.Basic
import NodeTrial.Url.Domain
import NodeTrial.Url.Percent

/-! Reading hosts. The host of a special scheme is a domain, in ASCII once its percent encoding
is undone, or an address; a domain whose last label is a number must be a short address. Other
schemes take any host text without delimiters.
-/

namespace NodeTrial.Host

open Text (sections)

/-- The number that digits of some base spell, zero for none. -/
def numberIn? (base : Nat) (digits : List Char) : Option Nat :=
  digits.foldl (fun value c => do
    let digit ← Text.hexValue? c
    if digit < base then return (← value) * base + digit else none) (some 0)

/-- One number of a short address: hexadecimal after `0x`, octal after another zero, else
decimal.
-/
def ipv4Number? : List Char → Option Nat
  | [] => none
  | '0' :: 'x' :: digits | '0' :: 'X' :: digits => numberIn? 16 digits
  | '0' :: digit :: digits => numberIn? 8 (digit :: digits)
  | digits => numberIn? 10 digits

/-- The sections between the points of a domain, without an empty last one. -/
def labels (domain : List Char) : List (List Char) :=
  match (sections (· == '.') domain).reverse with
  | [] :: rest => rest.reverse
  | all => all.reverse

/-- The last label of a domain is a number, be it one that no address can hold. -/
def endsInNumber (domain : List Char) : Bool :=
  match (labels domain).getLast? with
  | none => false
  | some last => (!last.isEmpty && last.all Char.isDigit) || (ipv4Number? last).isSome

/-- The address that numbers make: all but the last are bytes, the last fills what is left. -/
def ipv4Of? (numbers : List Nat) : Option UInt32 :=
  match numbers.reverse with
  | [] => none
  | last :: before =>
    let count := before.length
    if count < 4 ∧ before.all (· < 256) ∧ last < 1 <<< (8 * (4 - count)) then
      let upper := before.reverse.foldl (fun value n => value * 256 + n) 0
      some (.ofNat (upper <<< (8 * (4 - count)) + last))
    else none

/-- Reads a short address. -/
def readIpv4 (domain : List Char) : Except UrlError Host :=
  match (labels domain).mapM ipv4Number? >>= ipv4Of? with
  | some address => .ok (.ipv4 address)
  | none => .error .badIpv4

/-- One piece of a long address: one to four hexadecimal digits. -/
def piece? (digits : List Char) : Option Nat :=
  if 1 ≤ digits.length ∧ digits.length ≤ 4 then numberIn? 16 digits else none

/-- One byte of an address inside a long one: decimal, without leading zeros. -/
def byte? (digits : List Char) : Option Nat :=
  match digits with
  | [] => none
  | '0' :: _ :: _ => none
  | digits => (numberIn? 10 digits).filter (· < 256)

/-- The two pieces that an address inside a long one stands for. -/
def dottedPieces? (text : List Char) : Option (List Nat) :=
  match (sections (· == '.') text).mapM byte? with
  | some [a, b, c, d] => some [a * 256 + b, c * 256 + d]
  | _ => none

/-- The pieces of sections between colons; the last one may be an address of its own. -/
def piecesOf? (mayEndDotted : Bool) : List (List Char) → Option (List Nat)
  | [] => some []
  | [last] =>
    if mayEndDotted && last.contains '.' then dottedPieces? last
    else (piece? last).map fun n => [n]
  | head :: rest => do return (← piece? head) :: (← piecesOf? mayEndDotted rest)

/-- The pieces of a text, none for the empty text. -/
def piecesIn? (mayEndDotted : Bool) : List Char → Option (List Nat)
  | [] => some []
  | text => piecesOf? mayEndDotted (sections (· == ':') text)

/-- The parts before and after the first two colons in a row. -/
def splitDouble? : List Char → Option (List Char × List Char)
  | [] => none
  | ':' :: ':' :: rest => some ([], rest)
  | c :: rest => (splitDouble? rest).map fun (before, after) => (c :: before, after)

/-- Reads the eight pieces of a long address; two colons stand for one or more zeros. -/
def ipv6Pieces? (text : List Char) : Option (List Nat) :=
  match splitDouble? text with
  | none => (piecesIn? true text).filter (·.length = 8)
  | some (before, after) => do
    let front ← piecesIn? false before
    let back ← piecesIn? true after
    if front.length + back.length ≤ 7 then
      return front ++ List.replicate (8 - front.length - back.length) 0 ++ back
    else none

/-- Reads what stands after the opening bracket of a long address. -/
def readBracketed (text : List Char) : Except UrlError Host :=
  match text.reverse with
  | ']' :: inner =>
    match ipv6Pieces? inner.reverse with
    | some pieces => .ok (.ipv6 pieces)
    | none => .error .badIpv6
  | _ => .error .badIpv6

/-- Reads the host of a special scheme. -/
def read (text : List Char) : Except UrlError Host :=
  match text with
  | '[' :: rest => readBracketed rest
  | text =>
    match Text.decode? (Percent.decode text) >>= fun s => Domain.toAscii? s.toList with
    | none => .error .badDomain
    | some name =>
      if name.isEmpty then .error .emptyHost
      else if endsInNumber name then readIpv4 name
      else .ok (.domain (String.ofList name))

/-- Reads the host of another scheme; it may be empty. -/
def readPlain (text : List Char) : Except UrlError Host :=
  match text with
  | '[' :: rest => readBracketed rest
  | text =>
    if text.any Domain.delimiters.contains then .error .badHostCharacter
    else .ok (.domain (String.ofList (Percent.encode Percent.isControl text)))

end NodeTrial.Host
