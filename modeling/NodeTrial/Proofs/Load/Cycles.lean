import NodeTrial.Load.Plan
import NodeTrial.Proofs.Result

/-! Two cycles side by side. The item that is next in a cycle is the one at the remainder of its
index, so two cycles pair the items at the two remainders of each index, and a plan is made of the
pairs that the servers and the operations form in this way, one request for each pair.
-/

namespace NodeTrial.Load

section Pairs

variable {α β : Type} {firsts : List α} {seconds : List β}

/-- The items of two lists that are next at an index when both are gone through in cycles; none if
one of them is empty.
-/
def pairAt (firsts : List α) (seconds : List β) (index : Nat) : Option (α × β) :=
  match firsts[index % firsts.length]?, seconds[index % seconds.length]? with
  | some first, some second => some (first, second)
  | _, _ => none

/-- The pairs that two lists form from an index on, as many as are left. -/
def pairsFrom (firsts : List α) (seconds : List β) (left index : Nat) : List (α × β) :=
  (List.range' index left).filterMap (pairAt firsts seconds)

theorem pairAt_eq_some_iff {index : Nat} {first : α} {second : β}
    : pairAt firsts seconds index = some (first, second)
      ↔ firsts[index % firsts.length]? = some first
        ∧ seconds[index % seconds.length]? = some second := by
  unfold pairAt
  split
  · next found also => simp [found, also]
  · next missing =>
    refine iff_of_false nofun fun h => ?_
    exact missing _ _ h.1 h.2

/-- Both cycles have a next item at every index, unless one of the lists is empty. -/
theorem exists_pairAt (someFirst : firsts ≠ []) (someSecond : seconds ≠ []) (index : Nat)
    : ∃ pair, pairAt firsts seconds index = some pair := by
  have small := Nat.mod_lt index (List.length_pos_iff.mpr someFirst)
  have small' := Nat.mod_lt index (List.length_pos_iff.mpr someSecond)
  exact ⟨_, pairAt_eq_some_iff.mpr
    ⟨List.getElem?_eq_getElem small, List.getElem?_eq_getElem small'⟩⟩

theorem pairAt_of_empty (empty : firsts = [] ∨ seconds = []) (index : Nat)
    : pairAt firsts seconds index = none := by
  refine Option.eq_none_iff_forall_ne_some.mpr fun pair found => ?_
  obtain ⟨found, also⟩ := pairAt_eq_some_iff.mp found
  rcases empty with rfl | rfl
  · cases found
  · cases also

theorem pairsFrom_of_empty (empty : firsts = [] ∨ seconds = []) (left index : Nat)
    : pairsFrom firsts seconds left index = [] :=
  List.filterMap_eq_nil_iff.mpr fun i _ => pairAt_of_empty empty i

theorem pairsFrom_succ {left index : Nat} {pair : α × β}
    (found : pairAt firsts seconds index = some pair)
    : pairsFrom firsts seconds (left + 1) index
      = pair :: pairsFrom firsts seconds left (index + 1) := by
  rw [pairsFrom, List.range'_succ, List.filterMap_cons_some found]
  rfl

/-- The pairs from an index on are those of the indices after it, by induction on how many are left.
-/
theorem getElem?_pairsFrom (left index i : Nat)
    : (pairsFrom firsts seconds left index)[i]?
      = if i < left then pairAt firsts seconds (index + i) else none := by
  by_cases empty : firsts = [] ∨ seconds = []
  · rw [pairsFrom_of_empty empty, pairAt_of_empty empty, ite_self]
    rfl
  obtain ⟨someFirst, someSecond⟩ := not_or.mp empty
  induction left generalizing index i with
  | zero => rfl
  | succ left ih =>
      obtain ⟨pair, found⟩ := exists_pairAt someFirst someSecond index
      rw [pairsFrom_succ found]
      cases i with
      | zero => simpa using found.symm
      | succ i =>
          rw [List.getElem?_cons_succ, ih]
          simp only [Nat.add_lt_add_iff_right, Nat.add_assoc, Nat.add_comm 1]

theorem length_pairsFrom (someFirst : firsts ≠ []) (someSecond : seconds ≠ []) (left index : Nat)
    : (pairsFrom firsts seconds left index).length = left := by
  induction left generalizing index with
  | zero => rfl
  | succ left ih =>
      obtain ⟨pair, found⟩ := exists_pairAt someFirst someSecond index
      rw [pairsFrom_succ found, List.length_cons, ih]

-----------------------------------------------------------------------------------------
-- Where a cycle stands
-----------------------------------------------------------------------------------------

/-- A cycle of a list stands at an index: the index leaves the same remainder as the place from
which on its round is left. At the end of a round that place is the length of the list.
-/
structure Cycle.StandsAt (items : List α) (index : Nat) (c : Cycle α) : Prop where
  round : c.round = items
  left
    : ∃ place ≤ items.length,
        c.left = items.drop place ∧ index % items.length = place % items.length

theorem Cycle.standsAt_of (items : List α) : (Cycle.of items).StandsAt items 0 :=
  ⟨rfl, 0, Nat.zero_le _, rfl, rfl⟩

/-- After the item at a place a cycle stands one index further. -/
theorem Cycle.standsAt_succ {items : List α} {index place : Nat} (inside : place < items.length)
    (same : index % items.length = place % items.length)
    : (⟨items.drop (place + 1), items⟩ : Cycle α).StandsAt items (index + 1) :=
  ⟨rfl, place + 1, inside, rfl, by rw [Nat.add_mod, same, ← Nat.add_mod]⟩

/-- A cycle of a list gives the item at the remainder of its index and stands at the next index
then, or its list is empty and it gives nothing.
-/
theorem Cycle.StandsAt.next {items : List α} {index : Nat} {c : Cycle α}
    (stands : c.StandsAt items index)
    : (items = [] ∧ c.next? = none)
      ∨ ∃ item after, c.next? = some (item, after)
          ∧ items[index % items.length]? = some item
          ∧ after.StandsAt items (index + 1) := by
  obtain ⟨round, place, inside, left, same⟩ := stands
  rcases Nat.lt_or_eq_of_le inside with inside | ended
  · rw [List.drop_eq_getElem_cons inside] at left
    refine .inr ⟨_, _, by rw [next?, left, round], ?_, standsAt_succ inside same⟩
    rw [same, Nat.mod_eq_of_lt inside, List.getElem?_eq_getElem inside]
  · rw [ended, List.drop_length] at left
    rw [ended, Nat.mod_self] at same
    cases items with
    | nil => exact .inl ⟨rfl, by rw [next?, left, round]⟩
    | cons item items =>
        -- The next round starts with the first item, and leaves what the place after it leaves.
        have inside : 0 < (item :: items).length := Nat.succ_pos _
        refine .inr ⟨item, ⟨items, item :: items⟩, by rw [next?, left, round], ?_, ?_⟩
        · rw [same]
          rfl
        · exact standsAt_succ inside same

/-- Two cycles that stand at one index form the pairs from that index on, by induction on how many
are asked for.
-/
theorem Cycle.StandsAt.pairs_eq (count : Nat)
    : ∀ {index : Nat} {c : Cycle α} {d : Cycle β},
        c.StandsAt firsts index → d.StandsAt seconds index →
        Cycle.pairs count c d = pairsFrom firsts seconds count index := by
  induction count with
  | zero => exact fun _ _ => rfl
  | succ count ih =>
      intro index c d stands standsToo
      rw [Cycle.pairs]
      rcases stands.next with ⟨rfl, done⟩ | ⟨first, c', next, found, further⟩
      · rw [done, pairsFrom_of_empty (.inl rfl)]
      rcases standsToo.next with ⟨rfl, done⟩ | ⟨second, d', next', found', further'⟩
      · rw [next, done, pairsFrom_of_empty (.inr rfl)]
      · rw [next, next', pairsFrom_succ (pairAt_eq_some_iff.mpr ⟨found, found'⟩)]
        exact congrArg _ (ih further further')

end Pairs

/-- The requests are those of the pairs of all indices from the first one on. -/
theorem requestsOf_eq (servers : List Url) (operations : List Operation) (count : Nat)
    : requestsOf servers operations count
      = (pairsFrom servers operations count 0).mapM fun pair => request pair.1 pair.2 := by
  rw [requestsOf, (Cycle.standsAt_of servers).pairs_eq count (Cycle.standsAt_of operations)]

end NodeTrial.Load
