import NodeTrial.Text.Utf8

/-! Reading UTF-8 undoes writing it: the decoder finds in the bytes of a text exactly the
characters of the text. The decoder takes one byte at a time, so the proof follows one character
through its one to four bytes and then goes on from character to character.
-/

namespace NodeTrial.Text

/-- The list of an array of bytes holds them in order, by induction on the bytes left. -/
theorem byteArray_toList (bytes : ByteArray) : bytes.toList = bytes.data.toList := by
  have loop (left : Nat)
      : ∀ (i : Nat) (read : List UInt8), bytes.size - i = left →
          ByteArray.toList.loop bytes i read = read.reverse ++ bytes.data.toList.drop i := by
    induction left with
    | zero =>
        intro i read ended
        have beyond : bytes.data.toList.length ≤ i := by
          rw [Array.length_toList]
          exact Nat.sub_eq_zero_iff_le.mp ended
        rw [ByteArray.toList.loop, if_neg (by omega), List.drop_eq_nil_of_le beyond,
          List.append_nil]
    | succ left ih =>
        intro i read more
        have inside : i < bytes.size := by omega
        have inList : i < bytes.data.toList.length := by
          rw [Array.length_toList]
          exact inside
        have first : bytes.get! i = bytes.data.toList[i] := by
          rw [Array.getElem_toList]
          exact getElem!_pos bytes.data i inside
        rw [ByteArray.toList.loop, if_pos inside, ih (i + 1) _ (by omega), first,
          List.drop_eq_getElem_cons inList, List.reverse_cons, List.append_assoc,
          List.singleton_append]
  rw [ByteArray.toList, loop _ 0 [] rfl]
  rfl

theorem bytesOf_eq_flatMap (s : String)
    : bytesOf s = s.toList.flatMap String.utf8EncodeChar := by
  rw [bytesOf, String.toUTF8_eq_toByteArray, byteArray_toList, ← String.utf8Encode_toList,
    List.utf8Encode, List.toList_data_toByteArray]

namespace Utf8

theorem toNat_ofNat_of_lt {n : Nat} (h : n < 256) : (UInt8.ofNat n).toNat = n := by
  rw [UInt8.toNat_ofNat']
  exact Nat.mod_eq_of_lt h

theorem start_one {n : Nat} (low : n < 0x80)
    : start (UInt8.ofNat n) = (.ready, [.char (Char.ofNat n)]) := by
  have value := toNat_ofNat_of_lt (show n < 256 by omega)
  simp [start, UInt8.lt_iff_toNat_lt, value, low]

/-- The first byte of two: it gives five bits of the code. -/
theorem start_two {n : Nat} (low : 0xC2 ≤ n) (high : n < 0xE0)
    : start (UInt8.ofNat n) = (.inside [UInt8.ofNat n] (n - 0xC0) 1 0x80 0xBF, []) := by
  have value := toNat_ofNat_of_lt (show n < 256 by omega)
  have notOne : ¬ n < 0x80 := by omega
  have notBroken : ¬ n < 0xC2 := by omega
  simp [start, UInt8.lt_iff_toNat_lt, value, notOne, notBroken, high]

/-- The first byte of three: it gives four bits of the code, and at the two ends of its range it
narrows the range of the next byte.
-/
theorem start_three {n : Nat} (low : 0xE0 ≤ n) (high : n < 0xF0)
    : ∃ least most : UInt8,
        start (UInt8.ofNat n) = (.inside [UInt8.ofNat n] (n - 0xE0) 2 least most, [])
        ∧ least.toNat = (if n = 0xE0 then 0xA0 else 0x80)
        ∧ most.toNat = (if n = 0xED then 0x9F else 0xBF) := by
  have value := toNat_ofNat_of_lt (show n < 256 by omega)
  have notOne : ¬ n < 0x80 := by omega
  have notBroken : ¬ n < 0xC2 := by omega
  have notTwo : ¬ n < 0xE0 := by omega
  by_cases first : n = 0xE0
  · subst first
    exact ⟨0xA0, 0xBF, by decide, by decide, by decide⟩
  · by_cases surrogates : n = 0xED
    · subst surrogates
      exact ⟨0x80, 0x9F, by decide, by decide, by decide⟩
    · refine ⟨0x80, 0xBF, ?_, by simp [first], by simp [surrogates]⟩
      simp [start, UInt8.lt_iff_toNat_lt, ← UInt8.toNat_inj, value, notOne, notBroken, notTwo,
        first, surrogates, high]

/-- The first byte of four: it gives three bits of the code, and at the two ends of its range it
narrows the range of the next byte.
-/
theorem start_four {n : Nat} (low : 0xF0 ≤ n) (high : n ≤ 0xF4)
    : ∃ least most : UInt8,
        start (UInt8.ofNat n) = (.inside [UInt8.ofNat n] (n - 0xF0) 3 least most, [])
        ∧ least.toNat = (if n = 0xF0 then 0x90 else 0x80)
        ∧ most.toNat = (if n = 0xF4 then 0x8F else 0xBF) := by
  have cases : n = 0xF0 ∨ n = 0xF1 ∨ n = 0xF2 ∨ n = 0xF3 ∨ n = 0xF4 := by omega
  rcases cases with rfl | rfl | rfl | rfl | rfl
  · exact ⟨0x90, 0xBF, by decide, by decide, by decide⟩
  · exact ⟨0x80, 0xBF, by decide, by decide, by decide⟩
  · exact ⟨0x80, 0xBF, by decide, by decide, by decide⟩
  · exact ⟨0x80, 0xBF, by decide, by decide, by decide⟩
  · exact ⟨0x80, 0x8F, by decide, by decide, by decide⟩

/-- A byte in range continues a character with six more bits. -/
theorem step_inside (seen : List UInt8) (code left n : Nat) {least most : UInt8}
    (low : least.toNat ≤ n) (high : n ≤ most.toNat)
    : step (.inside seen code left least most) (UInt8.ofNat n)
      = if left = 1 then (.ready, [.char (Char.ofNat (code * 64 + (n - 0x80)))])
        else
          (.inside (seen ++ [UInt8.ofNat n]) (code * 64 + (n - 0x80)) (left - 1) 0x80 0xBF,
            []) := by
  have bound := most.toNat_lt
  have value := toNat_ofNat_of_lt (show n < 256 by omega)
  simp only [step, UInt8.le_iff_toNat_le, value, low, high, and_self, if_true]

section Characters

variable {n : Nat} (rest : List UInt8)

theorem run_one (high : n < 0x80)
    : run .ready (UInt8.ofNat n :: rest) = .char (Char.ofNat n) :: run .ready rest := by
  simp only [run, step, start_one high, List.cons_append, List.nil_append]

theorem run_two (low : 0x80 ≤ n) (high : n < 0x800)
    : run .ready (UInt8.ofNat (n / 64 % 32 + 0xC0) :: UInt8.ofNat (n % 64 + 0x80) :: rest)
      = .char (Char.ofNat n) :: run .ready rest := by
  have value : (n / 64 % 32 + 0xC0 - 0xC0) * 64 + (n % 64 + 0x80 - 0x80) = n := by omega
  simp only [run]
  rw [step, start_two (by omega) (by omega)]
  simp only [List.nil_append]
  rw [step_inside _ _ _ _ (by simp) (by simp; omega), if_pos rfl]
  simp only [value, List.cons_append, List.nil_append]

/-- A code of three bytes is no surrogate, so its second byte is in the narrowed range. -/
theorem run_three (low : 0x800 ≤ n) (high : n < 0x10000) (valid : n < 0xD800 ∨ 0xDFFF < n)
    : run .ready
        (UInt8.ofNat (n / 4096 % 16 + 0xE0) :: UInt8.ofNat (n / 64 % 64 + 0x80)
          :: UInt8.ofNat (n % 64 + 0x80) :: rest)
      = .char (Char.ofNat n) :: run .ready rest := by
  have lead : n / 4096 % 16 + 0xE0 < 0xF0 := by omega
  obtain ⟨least, most, first, leastIs, mostIs⟩ := start_three (Nat.le_add_left _ _) lead
  have value
      : ((n / 4096 % 16 + 0xE0 - 0xE0) * 64 + (n / 64 % 64 + 0x80 - 0x80)) * 64
          + (n % 64 + 0x80 - 0x80)
        = n := by omega
  have above : least.toNat ≤ n / 64 % 64 + 0x80 := by rw [leastIs]; split <;> omega
  have below : n / 64 % 64 + 0x80 ≤ most.toNat := by rw [mostIs]; split <;> omega
  simp only [run]
  rw [step, first]
  simp only [List.nil_append]
  rw [step_inside _ _ _ _ above below, if_neg (by decide)]
  simp only [List.nil_append]
  rw [step_inside _ _ _ _ (by simp) (by simp; omega), if_pos rfl]
  simp only [value, List.cons_append, List.nil_append]

/-- A code of four bytes is below 0x110000, so its second byte is in the narrowed range. -/
theorem run_four (low : 0x10000 ≤ n) (high : n < 0x110000)
    : run .ready
        (UInt8.ofNat (n / 262144 % 8 + 0xF0) :: UInt8.ofNat (n / 4096 % 64 + 0x80)
          :: UInt8.ofNat (n / 64 % 64 + 0x80) :: UInt8.ofNat (n % 64 + 0x80) :: rest)
      = .char (Char.ofNat n) :: run .ready rest := by
  have lead : n / 262144 % 8 + 0xF0 ≤ 0xF4 := by omega
  obtain ⟨least, most, first, leastIs, mostIs⟩ := start_four (Nat.le_add_left _ _) lead
  have value
      : (((n / 262144 % 8 + 0xF0 - 0xF0) * 64 + (n / 4096 % 64 + 0x80 - 0x80)) * 64
          + (n / 64 % 64 + 0x80 - 0x80)) * 64 + (n % 64 + 0x80 - 0x80)
        = n := by omega
  have above : least.toNat ≤ n / 4096 % 64 + 0x80 := by rw [leastIs]; split <;> omega
  have below : n / 4096 % 64 + 0x80 ≤ most.toNat := by rw [mostIs]; split <;> omega
  simp only [run]
  rw [step, first]
  simp only [List.nil_append]
  rw [step_inside _ _ _ _ above below, if_neg (by decide)]
  simp only [List.nil_append]
  rw [step_inside _ _ _ _ (by simp) (by simp; omega), if_neg (by decide)]
  simp only [List.nil_append]
  rw [step_inside _ _ _ _ (by simp) (by simp; omega), if_pos rfl]
  simp only [value, List.cons_append, List.nil_append]

end Characters

/-- A character's bytes are read as that character, by the number of its bytes. -/
theorem run_encodeChar (c : Char) (rest : List UInt8)
    : run .ready (String.utf8EncodeChar c ++ rest) = .char c :: run .ready rest := by
  have valid : c.toNat < 0xD800 ∨ 0xDFFF < c.toNat ∧ c.toNat < 0x110000 := c.valid
  have code : c.val.toNat = c.toNat := rfl
  have coded : run .ready (String.utf8EncodeChar c ++ rest)
      = .char (Char.ofNat c.toNat) :: run .ready rest := by
    unfold String.utf8EncodeChar
    simp only [code]
    split
    · next one => exact run_one rest (Nat.lt_succ_of_le one)
    · next notOne =>
      split
      · next two => exact run_two rest (by omega) (by omega)
      · next notTwo =>
        split
        · next three => exact run_three rest (by omega) (by omega) (by omega)
        · next notThree => exact run_four rest (by omega) (by omega)
  rw [coded, Char.ofNat_toNat]

theorem run_encodeChars_append (cs : List Char) (rest : List UInt8)
    : run .ready (cs.flatMap String.utf8EncodeChar ++ rest)
      = cs.map Chunk.char ++ run .ready rest := by
  induction cs with
  | nil => rfl
  | cons c others ih =>
      rw [List.flatMap_cons, List.append_assoc, run_encodeChar, ih, List.map_cons, List.cons_append]

theorem run_encodeChars (cs : List Char)
    : run .ready (cs.flatMap String.utf8EncodeChar) = cs.map Chunk.char := by
  have read := run_encodeChars_append cs []
  rwa [List.append_nil, run, State.finish, List.append_nil] at read

end Utf8

/-- A character that is no control has no byte that is one, by the number of its bytes. -/
theorem le_of_mem_encodeChar {c : Char} {b : UInt8} (printable : ' ' ≤ c)
    (member : b ∈ String.utf8EncodeChar c)
    : 32 ≤ b := by
  have code : c.val.toNat = c.toNat := rfl
  have low : 32 ≤ c.toNat := printable
  have printed {n : Nat} (above : 32 ≤ n) (below : n < 256) : 32 ≤ UInt8.ofNat n := by
    rw [UInt8.le_iff_toNat_le, Utf8.toNat_ofNat_of_lt below]
    exact above
  unfold String.utf8EncodeChar at member
  simp only [code] at member
  split at member
  · next one =>
    obtain rfl := List.mem_singleton.mp member
    exact printed low (by omega)
  · split at member
    · simp only [List.mem_cons, List.not_mem_nil, or_false] at member
      rcases member with rfl | rfl
      · exact printed (by omega) (by omega)
      · exact printed (by omega) (by omega)
    · split at member
      · simp only [List.mem_cons, List.not_mem_nil, or_false] at member
        rcases member with rfl | rfl | rfl
        · exact printed (by omega) (by omega)
        · exact printed (by omega) (by omega)
        · exact printed (by omega) (by omega)
      · simp only [List.mem_cons, List.not_mem_nil, or_false] at member
        rcases member with rfl | rfl | rfl | rfl
        · exact printed (by omega) (by omega)
        · exact printed (by omega) (by omega)
        · exact printed (by omega) (by omega)
        · exact printed (by omega) (by omega)

/-- A text's bytes are read as the text's own symbols: no byte of them is stray. -/
theorem symbolsOfBytes_bytesOf (s : String) : symbolsOfBytes (bytesOf s) = symbols s := by
  rw [symbolsOfBytes, chunks, bytesOf_eq_flatMap, Utf8.run_encodeChars, List.flatMap_map,
    symbols, List.map_eq_flatMap]
  rfl

theorem charsOf?_map_char (cs : List Char) : charsOf? (cs.map .char) = some cs := by
  induction cs with
  | nil => rfl
  | cons c rest ih => rw [List.map_cons, charsOf?, ih, Option.map_some]

theorem decode?_bytesOf (s : String) : decode? (bytesOf s) = some s := by
  rw [decode?, symbolsOfBytes_bytesOf, symbols, charsOf?_map_char, Option.map_some,
    String.ofList_toList]

/-- Bytes of ASCII are the codes of their characters, by induction on them. -/
theorem decode?_of_ascii {bytes : List UInt8} (ascii : ∀ b ∈ bytes, b.toNat < 0x80)
    : decode? bytes = some (String.ofList (bytes.map fun b => Char.ofNat b.toNat)) := by
  have chars : chunks bytes = (bytes.map fun b => Char.ofNat b.toNat).map Chunk.char := by
    rw [chunks]
    induction bytes with
    | nil => rfl
    | cons b rest ih =>
        obtain ⟨first, others⟩ := List.forall_mem_cons.mp ascii
        have step := Utf8.run_one rest first
        rw [UInt8.ofNat_toNat] at step
        rw [step, ih others]
        rfl
  have whole : symbolsOfBytes bytes = (bytes.map fun b => Char.ofNat b.toNat).map Symbol.char := by
    rw [symbolsOfBytes, chars, List.flatMap_map]
    exact List.map_eq_flatMap.symm
  rw [decode?, whole, charsOf?_map_char]
  rfl

/-- A character of ASCII is one byte. -/
theorem encodeChar_of_ascii {c : Char} (ascii : c.toNat < 0x80)
    : String.utf8EncodeChar c = [UInt8.ofNat c.toNat] := by
  have code : c.val.toNat = c.toNat := rfl
  have one : c.toNat ≤ 0x7f := by omega
  simp only [String.utf8EncodeChar, code, if_pos one]

end NodeTrial.Text
