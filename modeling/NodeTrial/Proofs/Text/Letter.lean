/-! Letters of either case. Only a letter differs from its small letter, so a text whose small
letters are known is known up to the case of its letters.
-/

namespace NodeTrial.Text

/-- A small letter is that of itself or of a capital one, any other character is its own. -/
theorem eq_or_of_toLower {c d : Char} (h : c.toLower = d)
    : c = d ∨ 97 ≤ d.toNat ∧ d.toNat = c.toNat + 32 := by
  unfold Char.toLower at h
  split at h
  · next capital =>
    have low : 65 ≤ c.toNat := capital.1
    have high : c.toNat ≤ 90 := capital.2
    have value : d.toNat = c.toNat + 32 := by
      rw [← h]
      change (c.val + 32).toNat = c.toNat + 32
      rw [UInt32.toNat_add]
      change (c.toNat + 32) % 4294967296 = _
      omega
    exact .inr ⟨by omega, value⟩
  · exact .inl h

theorem eq_of_toLower {c d : Char} (h : c.toLower = d) (noLetter : d.toNat < 97) : c = d :=
  (eq_or_of_toLower h).resolve_right fun letter => absurd letter.1 (Nat.not_le.mpr noLetter)

/-- A test that gives one answer for some small letters and for their capital ones gives it for all
characters of a text that is written in them, in whatever case.
-/
theorem forall_of_toLower {test : Char → Bool} {answer : Bool} {lower cs : List Char}
    (letters : (lower.all fun d => test d == answer && test (Char.ofNat (d.toNat - 32)) == answer)
      = true)
    (same : cs.map Char.toLower = lower)
    : ∀ c ∈ cs, test c = answer := by
  intro c member
  have found : c.toLower ∈ lower := same ▸ List.mem_map_of_mem member
  obtain ⟨small, capital⟩ := Bool.and_eq_true_iff.mp (List.all_eq_true.mp letters _ found)
  rcases eq_or_of_toLower (c := c) rfl with own | ⟨-, value⟩
  · rw [own]
    exact eq_of_beq small
  · have own : Char.ofNat (c.toLower.toNat - 32) = c := by
      rw [value, Nat.add_sub_cancel, Char.ofNat_toNat]
    rw [← own]
    exact eq_of_beq capital

end NodeTrial.Text
