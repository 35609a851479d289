import NodeTrial.Ledger

/-! The random choice of a sender and a receiver. Chance is a stream of 32-bit words that ends
in zeros. To choose among `n` items a word is widened by a multiplication with `n`: the upper
half of the product is the choice, and a word whose lower half lies past a zone is passed
over, so that every item has the same number of words.
-/

namespace NodeTrial

/-- A stream of random words: those to come before the endless zeros, and the number drawn. -/
structure Words where
  upcoming : List UInt32
  drawn : Nat
  deriving DecidableEq, Repr

namespace Words

/-- The stream of a list of words, none of them drawn. -/
def ofList (words : List UInt32) : Words :=
  ⟨words, 0⟩

/-- The greatest lower half that a choice among `count` items accepts: `count` shifted up to
the top of a word, less one.
-/
def zone (count : Nat) : Nat :=
  count <<< (31 - count.log2) - 1

/-- Draws words up to the first one that chooses among `count` items; a zero always does. -/
def chooseFrom (count : Nat) : List UInt32 → (drawn : Nat) → Nat × Words
  | [], drawn => (0, ⟨[], drawn + 1⟩)
  | word :: rest, drawn =>
    let product := word.toNat * count
    if product % UInt32.size ≤ zone count then (product / UInt32.size, ⟨rest, drawn + 1⟩)
    else chooseFrom count rest (drawn + 1)

/-- The number below `count` that the stream chooses. -/
def index (ws : Words) (count : Nat) : Nat × Words :=
  chooseFrom count ws.upcoming ws.drawn

/-- Chooses an item of a list; an empty list draws no word. -/
def choose {α : Type} (ws : Words) : List α → Option α × Words
  | [] => (none, ws)
  | item :: rest =>
    let (i, after) := ws.index (rest.length + 1)
    ((item :: rest)[i]?, after)

end Words

/-- Why no two accounts can be chosen. -/
inductive SelectionError where
  | tooFewAccounts (count : Nat)
  | noEligibleSender (amount : UInt64)
  deriving DecidableEq, Repr

namespace SelectionError

def message : SelectionError → String
  | .tooFewAccounts count =>
    "at least two accounts are needed for transfers; got " ++ Text.natText count
  | .noEligibleSender amount => "no account can afford to send " ++ Text.natText amount.toNat

/-- The short form of a selection error: its name and its argument. -/
def diagnostic : SelectionError → String
  | .tooFewAccounts count => "NotEnoughAccounts(" ++ Text.natText count ++ ")"
  | .noEligibleSender amount => "NoEligibleSender(" ++ Text.natText amount.toNat ++ ")"

end SelectionError

namespace Ledger

/-- Chooses a sender that can pay the amount, then a receiver among all other accounts. -/
def select (l : Ledger) (amount : UInt64) (ws : Words)
    : Except SelectionError (String × String) × Words :=
  if l.count < 2 then (.error (.tooFewAccounts l.count), ws)
  else
    match ws.choose (l.eligible amount) with
    | (none, ws) => (.error (.noEligibleSender amount), ws)
    | (some sender, ws) =>
      match ws.choose (l.keys.filter fun key => key != sender) with
      | (none, ws) => (.error (.tooFewAccounts l.count), ws)
      | (some receiver, ws) => (.ok (sender, receiver), ws)

end Ledger

end NodeTrial
