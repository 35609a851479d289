import NodeTrial.Selection

/-! Drawing words to choose an item. Words are passed over up to the first one that chooses, which is
there at the latest when the words have run out and a zero is drawn. What a word chooses is an item of
the list, and every item of a list that words can count is chosen by some word.
-/

namespace NodeTrial.Words

/-- The word of a stream at an index: one of those to come, or a zero after them. -/
def word (ws : Words) (i : Nat) : UInt32 :=
  ws.upcoming[i]?.getD 0

/-- The stream after its first words. -/
def skip (ws : Words) (count : Nat) : Words :=
  ⟨ws.upcoming.drop count, ws.drawn + count⟩

/-- A word chooses among `count` items: the lower half of its product with `count` is in the zone. -/
def Chooses (count : Nat) (word : UInt32) : Prop :=
  word.toNat * count % UInt32.size ≤ zone count

/-- What a word chooses among `count` items: the upper half of its product with `count`. -/
def choice (count : Nat) (word : UInt32) : Nat :=
  word.toNat * count / UInt32.size

/-- The first word of a stream that chooses among `count` items is the one at an index. -/
structure FirstChoice (ws : Words) (count k : Nat) : Prop where
  passed : ∀ i < k, ¬ Chooses count (ws.word i)
  chooses : Chooses count (ws.word k)

variable {α : Type} {ws : Words} {count : Nat}

theorem skip_skip (ws : Words) (some more : Nat) : (ws.skip some).skip more = ws.skip (some + more) := by
  simp [skip, Nat.add_assoc]

theorem FirstChoice.unique {j k : Nat} (h : ws.FirstChoice count j) (other : ws.FirstChoice count k)
    : j = k := by
  rcases Nat.lt_trichotomy j k with before | same | after
  · exact absurd h.chooses (other.passed j before)
  · exact same
  · exact absurd other.chooses (h.passed k after)

theorem chooses_zero (count : Nat) : Chooses count 0 := by
  simp [Chooses]

/-- A word chooses one of the items: its product with their number is less than that many words. -/
theorem choice_lt (positive : 0 < count) (word : UInt32) : choice count word < count :=
  Nat.div_lt_of_lt_mul (Nat.mul_lt_mul_of_pos_right word.toNat_lt positive)

-----------------------------------------------------------------------------------------
-- The loop
-----------------------------------------------------------------------------------------

/-- Words are drawn up to the first one that chooses, by induction on the words to come: past their
end a zero is drawn, which always chooses.
-/
theorem chooseFrom_eq (count : Nat) (words : List UInt32)
    : ∀ (drawn : Nat), ∃ k ≤ words.length,
        FirstChoice ⟨words, drawn⟩ count k
        ∧ chooseFrom count words drawn
          = (choice count (word ⟨words, drawn⟩ k), skip ⟨words, drawn⟩ (k + 1)) := by
  induction words with
  | nil =>
      intro drawn
      refine ⟨0, Nat.le_refl 0, ⟨nofun, chooses_zero count⟩, ?_⟩
      simp [chooseFrom, choice, word, skip]
  | cons first rest ih =>
      intro drawn
      rw [chooseFrom]
      split
      · next chooses => exact ⟨0, Nat.zero_le _, ⟨nofun, chooses⟩, rfl⟩
      · next passed =>
        obtain ⟨k, within, ⟨earlier, chooses⟩, drawn⟩ := ih (drawn + 1)
        refine ⟨k + 1, Nat.succ_le_succ within, ⟨fun i small => ?_, chooses⟩, ?_⟩
        · cases i with
          | zero => exact passed
          | succ i => exact earlier i (Nat.lt_of_succ_lt_succ small)
        · rw [drawn]
          simp [skip, word, Nat.add_assoc, Nat.add_comm 1]

theorem exists_firstChoice (ws : Words) (count : Nat)
    : ∃ k ≤ ws.upcoming.length, ws.FirstChoice count k := by
  obtain ⟨k, within, first, -⟩ := chooseFrom_eq count ws.upcoming ws.drawn
  exact ⟨k, within, first⟩

theorem index_of_firstChoice {k : Nat} (first : ws.FirstChoice count k)
    : ws.index count = (choice count (ws.word k), ws.skip (k + 1)) := by
  obtain ⟨j, -, same, drawn⟩ := chooseFrom_eq count ws.upcoming ws.drawn
  obtain rfl : k = j := first.unique same
  exact drawn

-----------------------------------------------------------------------------------------
-- Choosing from a list
-----------------------------------------------------------------------------------------

/-- The item at an index of a list is what the first word that chooses makes of it, and the words up
to that one are drawn.
-/
theorem choose_of_firstChoice {items : List α} {k : Nat} (nonempty : items ≠ [])
    (first : ws.FirstChoice items.length k)
    : ws.choose items = (items[choice items.length (ws.word k)]?, ws.skip (k + 1)) := by
  cases items with
  | nil => exact absurd rfl nonempty
  | cons item rest =>
      have drawn : ws.index (rest.length + 1)
          = (choice (rest.length + 1) (ws.word k), ws.skip (k + 1)) :=
        index_of_firstChoice first
      simp only [choose, drawn, List.length_cons]

theorem choose_mem {items : List α} {item : α} (h : (ws.choose items).1 = some item)
    : item ∈ items := by
  cases items with
  | nil => cases h
  | cons first rest => exact List.mem_of_getElem? h

-----------------------------------------------------------------------------------------
-- Every item can be chosen
-----------------------------------------------------------------------------------------

theorem pred_le_zone (count : Nat) : count - 1 ≤ zone count := by
  have shifted : count ≤ count <<< (31 - count.log2) := by
    rw [Nat.shiftLeft_eq]
    exact Nat.le_mul_of_pos_right count (Nat.two_pow_pos _)
  exact Nat.sub_le_sub_right shifted 1

/-- From any number on the next multiple of a positive number is less than that number away. -/
theorem exists_multiple (positive : 0 < count) (start : Nat)
    : ∃ v, start ≤ v * count ∧ v * count ≤ start + (count - 1) := by
  refine ⟨(start + (count - 1)) / count, ?_, Nat.div_mul_le_self _ _⟩
  have next : start + (count - 1) < count * ((start + (count - 1)) / count + 1) :=
    Nat.lt_mul_div_succ _ positive
  rw [Nat.mul_comm count, Nat.add_one_mul] at next
  omega

/-- Every index is chosen by a word: the one whose product is the first multiple of the number of items
in the index's part of all products. Its lower half is less than that number, and so in the zone.
-/
theorem exists_word {i : Nat} (few : count ≤ UInt32.size) (small : i < count)
    : ∃ word : UInt32, Chooses count word ∧ choice count word = i := by
  have positive : 0 < count := Nat.zero_lt_of_lt small
  obtain ⟨v, reaches, near⟩ := exists_multiple positive (i * UInt32.size)
  have inWord : v < UInt32.size := by
    have last : i * UInt32.size ≤ (count - 1) * UInt32.size :=
      Nat.mul_le_mul_right _ (Nat.le_sub_one_of_lt small)
    have whole : (count - 1) * UInt32.size + UInt32.size = count * UInt32.size := by
      rw [← Nat.add_one_mul, Nat.sub_add_cancel positive]
    refine Nat.lt_of_mul_lt_mul_right (a := count) ?_
    rw [Nat.mul_comm UInt32.size]
    omega
  obtain ⟨low, product⟩ := Nat.exists_eq_add_of_le reaches
  have lowest : low < UInt32.size := by omega
  have held : (UInt32.ofNat v).toNat = v := UInt32.toNat_ofNat_of_lt inWord
  refine ⟨.ofNat v, ?_, ?_⟩
  · rw [Chooses, held, product, Nat.mul_comm i, Nat.mul_add_mod, Nat.mod_eq_of_lt lowest]
    exact Nat.le_trans (by omega) (pred_le_zone count)
  · rw [choice, held, product, Nat.mul_comm i, Nat.mul_add_div (by decide),
      Nat.div_eq_of_lt lowest, Nat.add_zero]

end NodeTrial.Words
