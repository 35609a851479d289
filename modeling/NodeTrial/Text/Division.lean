/-! Dividing a text at marked characters: at the first one, at the last one, or at every one.
-/

namespace NodeTrial.Text

/-- The parts before and after the first marked character. -/
def splitFirst? (mark : Char → Bool) : List Char → Option (List Char × List Char)
  | [] => none
  | c :: rest =>
    if mark c then some ([], rest)
    else (splitFirst? mark rest).map fun (before, after) => (c :: before, after)

/-- The parts before and after the last marked character. -/
def splitLast? (mark : Char → Bool) : List Char → Option (List Char × List Char)
  | [] => none
  | c :: rest =>
    match splitLast? mark rest with
    | some (before, after) => some (c :: before, after)
    | none => if mark c then some ([], rest) else none

/-- The sections between the marked characters, one more than there are marks. -/
def sections (mark : Char → Bool) : List Char → List (List Char)
  | [] => [[]]
  | c :: rest =>
    if mark c then [] :: sections mark rest
    else
      match sections mark rest with
      | [] => [[c]]
      | first :: others => (c :: first) :: others

/-- The longest front part without a marked character, and what follows it. -/
def upTo (mark : Char → Bool) (cs : List Char) : List Char × List Char :=
  (cs.takeWhile fun c => !mark c, cs.dropWhile fun c => !mark c)

end NodeTrial.Text
