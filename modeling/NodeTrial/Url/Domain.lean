import NodeTrial.Text.Division
import NodeTrial.Url.Domain.Composition
import NodeTrial.Url.Domain.Direction
import NodeTrial.Url.Domain.Joiner
import NodeTrial.Url.Domain.Mapping
import NodeTrial.Url.Domain.Punycode
import NodeTrial.Url.Percent

/-! Domain names. A name is mapped to small letters and composed characters, its labels stand
between points, and a label beyond ASCII is written in Punycode after a mark. A label with the
mark is read back to see that it stands for a label that could be written so, and is then left
as it is.
-/

namespace NodeTrial.Domain

open Text (sections)

/-- The characters that no host holds. -/
def delimiters : List Char :=
  ['\x00', '\t', '\n', '\r', ' ', '#', '/', ':', '<', '>', '?', '@', '[', '\\', ']', '^', '|']

/-- A character that a domain may hold once it is mapped. -/
def isAllowed (c : Char) : Bool :=
  !isAscii c || !(Percent.isControl c || c == '%' || delimiters.contains c)

/-- The form in which a text counts, unless a character of it is refused. -/
def mapped? (cs : List Char) : Option (List Char) := do
  let parts ← cs.mapM mapChar?
  return composed parts.flatten

/-- A text that is mapped to itself. -/
def isStable (cs : List Char) : Bool :=
  (cs.all fun c => mapChar? c == some [c]) && composed cs == cs

def punycodeMark : List Char := ['x', 'n', '-', '-']

/-- The greatest length of a text that is read from Punycode, and of one that is written so. -/
def readLimit : Nat := 2000
def writeLimit : Nat := 1000

/-- The label that a Punycode text stands for; it goes beyond ASCII and counts as it is. -/
def readPunycode? (text : List Char) : Option (List Char) :=
  if readLimit < text.length then none
  else (Punycode.decode? text).filter fun label => !label.all isAscii && isStable label

def readLabel? (label : List Char) : Option (List Char) :=
  if punycodeMark.isPrefixOf label then readPunycode? (label.drop 4) else some label

/-- A label may stand in a domain: it does not start with a mark on a letter, and the joiners in
it are in their places.
-/
def isLabel (label : List Char) : Bool :=
  label.all isAscii
    || (!label.head?.any fun c => isMark c.toNat) && joinersFit [] (label.map Char.toNat)

/-- Labels go together if none of them holds anything written from the right, or if each has a
direction.
-/
def areDirected (labels : List (List Char)) : Bool :=
  !labels.any holdsRight || labels.all fun label => label.isEmpty || isDirected label

def writeLabel? (label : List Char) : Option (List Char) :=
  if label.all isAscii then some label
  else if writeLimit < label.length then none
  else some (punycodeMark ++ Punycode.encode label)

/-- The name in ASCII of a domain. -/
def toAscii? (cs : List Char) : Option (List Char) := do
  let name ← mapped? cs
  let labels := sections (· == '.') name
  let meant ← labels.mapM readLabel?
  if name.all isAllowed && meant.all isLabel && areDirected meant then
    return ['.'].intercalate (← labels.mapM writeLabel?)
  else none

end NodeTrial.Domain
