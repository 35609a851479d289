import NodeTrial.Text.Numeral

/-! URLs and their text. A URL is a scheme, credentials, a host, a port, a path, a query and a
fragment; the text of a URL is put together from the texts of its parts. Parts are kept as they
are written, percent encoding included.
-/

namespace NodeTrial

/-- What a URL names: a domain, or an address of one of two lengths. The empty domain is the
host of a URL that has none but could have one.
-/
inductive Host where
  | domain (name : String)
  | ipv4 (address : UInt32)
  | ipv6 (pieces : List Nat)
  deriving DecidableEq, Repr

namespace Host

/-- The four bytes of an address, the upper ones first. -/
def bytes (address : UInt32) : List Nat :=
  [3, 2, 1, 0].map fun i => address.toNat >>> (8 * i) % 256

/-- The hexadecimal digits of a number, in lower case. -/
def hexDigits (n : Nat) : List Char :=
  Nat.toDigits 16 n

/-- The number of zeros that a list of pieces starts with. -/
def leadingZeros (pieces : List Nat) : Nat :=
  (pieces.takeWhile (· = 0)).length

/-- The place and length of the longest run of zeros, the first one of that length. -/
def longestZeros : (place : Nat) → List Nat → Nat × Nat
  | place, [] => (place, 0)
  | place, piece :: rest =>
    let here := leadingZeros (piece :: rest)
    let later := longestZeros (place + 1) rest
    if later.2 ≤ here then (place, here) else later

def colonText (pieces : List Nat) : List Char :=
  [':'].intercalate (pieces.map hexDigits)

/-- The text of the pieces of a long address: the longest run of at least two zeros is left
out between two colons.
-/
def piecesText (pieces : List Nat) : List Char :=
  let (place, length) := longestZeros 0 pieces
  if length < 2 then colonText pieces
  else
    colonText (pieces.take place) ++ [':', ':'] ++ colonText (pieces.drop (place + length))

def text : Host → String
  | .domain name => name
  | .ipv4 address => ".".intercalate ((bytes address).map Text.natText)
  | .ipv6 pieces => "[" ++ String.ofList (piecesText pieces) ++ "]"

def isEmpty (h : Host) : Bool :=
  h = .domain ""

end Host

/-- The path of a URL: segments, each after a slash, or a bare text that nothing can be joined
onto.
-/
inductive UrlPath where
  | bare (text : String)
  | rooted (segments : List String)
  deriving DecidableEq, Repr

def UrlPath.text : UrlPath → String
  | .bare text => text
  | .rooted segments => String.join (segments.map fun segment => "/" ++ segment)

/-- A URL. -/
structure Url where
  scheme : String
  username : String
  password : String
  host : Option Host
  port : Option UInt16
  path : UrlPath
  query : Option String
  fragment : Option String
  deriving DecidableEq, Repr

/-- The schemes with a host, slashes of both kinds and, but for `file`, a default port. -/
def specialSchemes : List (String × Option UInt16) :=
  [("http", some 80), ("https", some 443), ("ws", some 80), ("wss", some 443),
   ("ftp", some 21), ("file", none)]

def isSpecial (scheme : String) : Bool :=
  specialSchemes.any fun entry => entry.1 = scheme

/-- The port that a scheme stands for if none is given. -/
def defaultPort? (scheme : String) : Option UInt16 :=
  (specialSchemes.lookup scheme).join

/-- Why a text is no URL, or a name cannot be joined onto one. -/
inductive UrlError where
  | emptyHost
  | badDomain
  | badPort
  | badIpv4
  | badIpv6
  | badHostCharacter
  | noScheme
  | notABase
  deriving DecidableEq, Repr

namespace UrlError

def message : UrlError → String
  | .emptyHost => "empty host"
  | .badDomain => "invalid international domain name"
  | .badPort => "invalid port number"
  | .badIpv4 => "invalid IPv4 address"
  | .badIpv6 => "invalid IPv6 address"
  | .badHostCharacter => "invalid domain character"
  | .noScheme => "relative URL without a base"
  | .notABase => "relative URL with a cannot-be-a-base base"

def diagnostic : UrlError → String
  | .emptyHost => "EmptyHost"
  | .badDomain => "IdnaError"
  | .badPort => "InvalidPort"
  | .badIpv4 => "InvalidIpv4Address"
  | .badIpv6 => "InvalidIpv6Address"
  | .badHostCharacter => "InvalidDomainCharacter"
  | .noScheme => "RelativeUrlWithoutBase"
  | .notABase => "RelativeUrlWithCannotBeABaseBase"

end UrlError

namespace Url

/-- The credentials before a host, with the sign that ends them. -/
def userinfo (u : Url) : String :=
  if u.username = "" ∧ u.password = "" then ""
  else if u.password = "" then u.username ++ "@"
  else u.username ++ ":" ++ u.password ++ "@"

/-- A port after a host. -/
def portText : Option UInt16 → String
  | none => ""
  | some port => ":" ++ Text.natText port.toNat

/-- What stands between the scheme and the path. Without a host, a path that starts with two
slashes is kept apart by a dot, so that it is not taken for a host.
-/
def authority (u : Url) : String :=
  match u.host with
  | some host => "//" ++ u.userinfo ++ host.text ++ portText u.port
  | none => if u.path.text.toList.take 2 = ['/', '/'] then "/." else ""

/-- A part that starts with a mark, if it is there. -/
def marked (mark : String) : Option String → String
  | none => ""
  | some part => mark ++ part

def text (u : Url) : String :=
  u.scheme ++ ":" ++ u.authority ++ u.path.text ++ marked "?" u.query
    ++ marked "#" u.fragment

/-- A URL with a bare path takes no name joined onto it. -/
def isBase (u : Url) : Bool :=
  match u.path with
  | .bare _ => false
  | .rooted _ => true

end Url

end NodeTrial
