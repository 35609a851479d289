import NodeTrial.Proofs.Text.Utf8
import NodeTrial.Url.Percent

/-! Percent encoding. An encoded text holds none of the characters that are encoded, so encoding it
again changes nothing, and a text of dots can only come from one.
-/

namespace NodeTrial.Percent

/-- A set of characters to encode leaves out all that an encoding is made of, and the dot. -/
structure Spares (set : Char → Bool) : Prop where
  percent : set '%' = false
  digits : ∀ n < 16, set (upperDigit n) = false
  dot : set '.' = false

theorem inPath_spares : Spares inPath :=
  ⟨by decide, by decide, by decide⟩

theorem isControl_spares : Spares isControl :=
  ⟨by decide, by decide, by decide⟩

theorem inUserinfo_spares : Spares inUserinfo :=
  ⟨by decide, by decide, by decide⟩

theorem inSpecialQuery_spares : Spares inSpecialQuery :=
  ⟨by decide, by decide, by decide⟩

theorem inFragment_spares : Spares inFragment :=
  ⟨by decide, by decide, by decide⟩

variable {set : Char → Bool} {c : Char} {cs : List Char}

theorem encodeChar_of_mem (h : set c = true)
    : encodeChar set c = (String.utf8EncodeChar c).flatMap encodedByte :=
  if_pos h

theorem encodeChar_of_not_mem (h : set c = false) : encodeChar set c = [c] :=
  if_neg (Bool.eq_false_iff.mp h)

theorem encode_cons : encode set (c :: cs) = encodeChar set c ++ encode set cs :=
  List.flatMap_cons

/-- A text without characters to encode stays as it is, by induction on its characters. -/
theorem encode_of_unmarked (plain : ∀ c ∈ cs, set c = false) : encode set cs = cs := by
  induction cs with
  | nil => rfl
  | cons c cs ih =>
      obtain ⟨head, tail⟩ := List.forall_mem_cons.mp plain
      rw [encode_cons, encodeChar_of_not_mem head, ih tail, List.singleton_append]

/-- What an encoded text holds: characters of the text that stay as they are, percent signs and
digits.
-/
theorem mem_encode (h : c ∈ encode set cs)
    : c ∈ cs ∧ set c = false ∨ c = '%' ∨ ∃ n < 16, c = upperDigit n := by
  obtain ⟨d, member, inside⟩ := List.mem_flatMap.mp h
  cases encoded : set d with
  | false =>
      rw [encodeChar_of_not_mem encoded] at inside
      obtain rfl := List.mem_singleton.mp inside
      exact .inl ⟨member, encoded⟩
  | true =>
      rw [encodeChar_of_mem encoded] at inside
      obtain ⟨b, -, digit⟩ := List.mem_flatMap.mp inside
      have size : b.toNat < 256 := b.toNat_lt
      simp only [encodedByte, List.mem_cons, List.not_mem_nil, or_false] at digit
      obtain rfl | rfl | rfl := digit
      · exact .inr (.inl rfl)
      · exact .inr (.inr ⟨_, by omega, rfl⟩)
      · exact .inr (.inr ⟨_, Nat.mod_lt _ (by decide), rfl⟩)

theorem unmarked_of_mem_encode (spares : Spares set) : ∀ c ∈ encode set cs, set c = false := by
  intro c member
  obtain ⟨_, plain⟩ | rfl | ⟨n, small, rfl⟩ := mem_encode member
  · exact plain
  · exact spares.percent
  · exact spares.digits n small

-----------------------------------------------------------------------------------------
-- Fronts of encoded texts
-----------------------------------------------------------------------------------------

/-- The encoding of a character starts with a percent sign and the digits of its first byte. -/
theorem exists_encodeChar (h : set c = true)
    : ∃ b bytes, String.utf8EncodeChar c = b :: bytes
        ∧ encodeChar set c = '%' :: upperDigit (b.toNat / 16) :: upperDigit (b.toNat % 16)
            :: bytes.flatMap encodedByte := by
  obtain ⟨b, bytes, whole⟩ := List.exists_cons_of_ne_nil (String.utf8EncodeChar_ne_nil (c := c))
  refine ⟨b, bytes, whole, ?_⟩
  rw [encodeChar_of_mem h, whole]
  rfl

/-- An encoded text that starts with another character than a percent sign comes from a text that
starts with it.
-/
theorem cons_of_encode {rest : List Char} (h : encode set cs = c :: rest) (plain : c ≠ '%')
    : ∃ tail, cs = c :: tail ∧ encode set tail = rest := by
  cases cs with
  | nil => cases h
  | cons d tail =>
      rw [encode_cons] at h
      cases encoded : set d with
      | false =>
          rw [encodeChar_of_not_mem encoded, List.singleton_append] at h
          obtain ⟨rfl, same⟩ := List.cons.inj h
          exact ⟨tail, rfl, same⟩
      | true =>
          obtain ⟨b, bytes, -, front⟩ := exists_encodeChar encoded
          rw [front] at h
          exact absurd (List.cons.inj h).1.symm plain

theorem eq_nil_of_encode (h : encode set cs = []) : cs = [] := by
  cases cs with
  | nil => rfl
  | cons c tail =>
      rw [encode_cons] at h
      cases encoded : set c with
      | false => simp [encodeChar_of_not_mem encoded] at h
      | true =>
          obtain ⟨b, bytes, -, front⟩ := exists_encodeChar encoded
          simp [front] at h

-----------------------------------------------------------------------------------------
-- Decoding
-----------------------------------------------------------------------------------------

/-- A text without percent signs stands for its own bytes, by induction on its characters. -/
theorem decode_of_unmarked (unmarked : ∀ c ∈ cs, c ≠ '%')
    : decode cs = Text.bytesOf (String.ofList cs) := by
  rw [Text.bytesOf_eq_flatMap, String.toList_ofList]
  induction cs with
  | nil => rfl
  | cons c cs ih =>
      obtain ⟨head, tail⟩ := List.forall_mem_cons.mp unmarked
      rw [decode, ih tail, List.flatMap_cons]
      exact fun _ _ _ same => absurd same head

end NodeTrial.Percent
