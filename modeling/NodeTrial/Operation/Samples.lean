import NodeTrial.Operation.Basic

/-! The fixed operations that a load run sends: every kind, with deep refs, nested objects,
lists, repeated refs of which the last counts, and a batch of two kinds.
-/

namespace NodeTrial.Operation

def number (n : Nat) : Json :=
  .number (.whole (.ofWord (.ofNat n)))

def numberValue (n : Nat) : Value :=
  .word (.ofNat n)

/-- The refs and values that are set, each one operation of its own. -/
def sampleSets : List (String × Value) :=
  [("test/comeonnnnnnn", .text "testme"),
   ("test/comeonnnnnnn", .text "no meeeee"),
   ("test/comeon/nnnnnn", .text "through"),
   ("test/comeonnnnnnn/new", .ofJson (.object [("new", .text "path")])),
   ("test/builed/some/deep",
    .ofJson (.object [("place", .object [("next", number 1), ("level", .text "down")])])),
   ("test/builed/heliii",
    .ofJson (.object [("range", .list ([1, 2, 3, 1, 4, 5].map number))])),
   ("test/b/u/i/l/e/d/hel",
    .ofJson (.object
      [("range", .list ([1, 4, 5].map number)), ("another", .list [number 234])])),
   ("test/b/u/i/l/e/d/hel", .text "very nested"),
   ("test/b/u/i/l/e/d/hel",
    .ofJson (.object [("1", number 2), ("3", number 4), ("5", number 6)])),
   ("test/new/final/path",
    .ofJson (.object [("neste", .list ([1, 2, 3, 4, 5].map number))])),
   ("test/new/final/path",
    .ofJson (.object [("more", .object [("now", number 12), ("hellloooo", number 123)])]))]

/-- The deltas of each increase. -/
def sampleIncreases : List (List (String × Int64)) :=
  [[("test/increase/first/level", 10), ("test/increase/first/level2", 20)],
   [("test/increase/second/level/deeper", 20), ("test/increase/second/level/deeper", 1000)],
   [("test/increase", 1)],
   [("test/new", 1), ("test/b", 30)],
   [("test/increase", -10000), ("test/increase", 10000)],
   [("test/b/u", 10000)],
   [("test/builed/some/deep/place/next", 100002)]]

/-- The values of each update. -/
def sampleUpdates : List (List (String × Nat)) :=
  [[("test/increase/first/level", 10), ("test/increase/first/level2", 20)],
   [("test/increase/second/level/deeper", 20), ("test/increase/second/level/deeper", 1000)],
   [("test/increase", 1)],
   [("test/new", 1), ("test/b", 30)],
   [("test/increase", 10000), ("test/increase", 10000)],
   [("test/b/u", 10000)],
   [("test/builed/some/deep/place/next", 100002)]]

/-- The batches: one of two kinds, then each of the sets but the first and the last by itself. -/
def sampleBatches : List (List BatchEntry) :=
  [.set ⟨"test/comeonnnnnnn", .text "testme"⟩,
   .update ⟨.ofList [("test/b/u", numberValue 10000)]⟩]
  :: ((sampleSets.drop 1).take 9).map fun (ref, value) => [.set ⟨ref, value⟩]

/-- All sample operations in the order in which a load run sends them. -/
def samples : List Operation :=
  sampleSets.map (fun (ref, value) => ofSet ref value)
  ++ sampleIncreases.map ofIncrease
  ++ sampleUpdates.map (fun data => ofUpdate (data.map fun (ref, n) => (ref, numberValue n)))
  ++ sampleBatches.map ofBatch

end NodeTrial.Operation
