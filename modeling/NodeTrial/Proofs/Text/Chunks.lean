import NodeTrial.Proofs.Text.Utf8

/-! The chunks of a byte string tile it: laid one after the other they are the bytes again, so
nothing is read twice or passed over. While a character is being read, every way to finish it gives
the character that the bytes seen and the bytes to come write; one byte more keeps that.
-/

namespace NodeTrial.Text

/-- The bytes that a chunk was read from. -/
def Chunk.bytes : Chunk → List UInt8
  | .char c => String.utf8EncodeChar c
  | .broken bytes => bytes

@[simp]
theorem Chunk.bytes_char (c : Char) : (Chunk.char c).bytes = String.utf8EncodeChar c :=
  rfl

@[simp]
theorem Chunk.bytes_broken (found : List UInt8) : (Chunk.broken found).bytes = found :=
  rfl

namespace Utf8

-----------------------------------------------------------------------------------------
-- Codes in the form of one to four bytes
-----------------------------------------------------------------------------------------

/-- A code in the form of a first byte and as many more as are said, whether it needs them or not.
-/
def form : (more code : Nat) → List UInt8
  | 0, code => [UInt8.ofNat code]
  | 1, code => [UInt8.ofNat (code / 64 + 0xC0), UInt8.ofNat (code % 64 + 0x80)]
  | 2, code =>
    [UInt8.ofNat (code / 4096 + 0xE0), UInt8.ofNat (code / 64 % 64 + 0x80),
      UInt8.ofNat (code % 64 + 0x80)]
  | 3, code =>
    [UInt8.ofNat (code / 262144 + 0xF0), UInt8.ofNat (code / 4096 % 64 + 0x80),
      UInt8.ofNat (code / 64 % 64 + 0x80), UInt8.ofNat (code % 64 + 0x80)]
  | _, _ => []

/-- The least code that needs so many bytes after the first. -/
def leastCode : (more : Nat) → Nat
  | 0 => 0
  | 1 => 0x80
  | 2 => 0x800
  | _ => 0x10000

/-- How many bytes a first byte announces after itself. -/
def announced (b : UInt8) : Nat :=
  if b.toNat < 0xC0 then 0
  else if b.toNat < 0xE0 then 1
  else if b.toNat < 0xF0 then 2
  else if b.toNat < 0xF8 then 3
  else 0

section Announced

variable {b : UInt8}

theorem announced_zero (high : b.toNat < 0xC0) : announced b = 0 :=
  if_pos high

theorem announced_one (low : 0xC0 ≤ b.toNat) (high : b.toNat < 0xE0) : announced b = 1 :=
  (if_neg (by omega)).trans (if_pos high)

theorem announced_two (low : 0xE0 ≤ b.toNat) (high : b.toNat < 0xF0) : announced b = 2 :=
  (if_neg (by omega)).trans ((if_neg (by omega)).trans (if_pos high))

theorem announced_three (low : 0xF0 ≤ b.toNat) (high : b.toNat < 0xF8) : announced b = 3 :=
  (if_neg (by omega)).trans ((if_neg (by omega)).trans ((if_neg (by omega)).trans (if_pos high)))

end Announced

/-- A byte that continues a character. -/
def IsTail (b : UInt8) : Prop :=
  0x80 ≤ b ∧ b ≤ 0xBF

theorem isTail_iff {b : UInt8} : IsTail b ↔ 0x80 ≤ b.toNat ∧ b.toNat ≤ 0xBF :=
  and_congr UInt8.le_iff_toNat_le UInt8.le_iff_toNat_le

/-- A byte of a range that lies among those of the tails. -/
theorem isTail_of_between {least most b : UInt8} (low : 0x80 ≤ least.toNat)
    (high : most.toNat ≤ 0xBF) (above : least ≤ b) (below : b ≤ most)
    : IsTail b :=
  isTail_iff.mpr
    ⟨Nat.le_trans low (UInt8.le_iff_toNat_le.mp above),
      Nat.le_trans (UInt8.le_iff_toNat_le.mp below) high⟩

theorem toNat_charOfNat {code : Nat} (valid : code.isValidChar)
    : (Char.ofNat code).toNat = code := by
  rw [Char.ofNat, dif_pos valid]
  rfl

section Codes

variable {code : Nat}

theorem encodeChar_form_one (low : 0x80 ≤ code) (high : code < 0x800)
    : String.utf8EncodeChar (Char.ofNat code) = form 1 code := by
  have value : (Char.ofNat code).val.toNat = code := toNat_charOfNat (.inl (by omega))
  rw [String.utf8EncodeChar, value, if_neg (by omega), if_pos (by omega),
    Nat.mod_eq_of_lt (a := code / 64) (by omega)]
  rfl

theorem encodeChar_form_two (low : 0x800 ≤ code) (high : code < 0x10000)
    (noSurrogate : code < 0xD800 ∨ 0xDFFF < code)
    : String.utf8EncodeChar (Char.ofNat code) = form 2 code := by
  have valid : code.isValidChar := noSurrogate.imp_right fun above => ⟨above, by omega⟩
  have value : (Char.ofNat code).val.toNat = code := toNat_charOfNat valid
  rw [String.utf8EncodeChar, value, if_neg (by omega), if_neg (by omega), if_pos (by omega),
    Nat.mod_eq_of_lt (a := code / 4096) (by omega)]
  rfl

theorem encodeChar_form_three (low : 0x10000 ≤ code) (high : code < 0x110000)
    : String.utf8EncodeChar (Char.ofNat code) = form 3 code := by
  have value : (Char.ofNat code).val.toNat = code :=
    toNat_charOfNat (.inr ⟨by omega, high⟩)
  rw [String.utf8EncodeChar, value, if_neg (by omega), if_neg (by omega), if_neg (by omega),
    Nat.mod_eq_of_lt (a := code / 262144) (by omega)]
  rfl

end Codes

section Bytes

variable {b t u v : UInt8}

theorem ofNat_eq {n : Nat} (same : n = b.toNat) : UInt8.ofNat n = b := by
  rw [same, UInt8.ofNat_toNat]

theorem form_one (low : 0xC0 ≤ b.toNat) (second : IsTail t)
    : form 1 ((b.toNat - 0xC0) * 64 + (t.toNat - 0x80)) = [b, t] := by
  have := isTail_iff.mp second
  change [UInt8.ofNat _, UInt8.ofNat _] = _
  rw [ofNat_eq (b := b) (by omega), ofNat_eq (b := t) (by omega)]

theorem form_two (low : 0xE0 ≤ b.toNat) (second : IsTail t) (third : IsTail u)
    : form 2 (((b.toNat - 0xE0) * 64 + (t.toNat - 0x80)) * 64 + (u.toNat - 0x80)) = [b, t, u] := by
  have := isTail_iff.mp second
  have := isTail_iff.mp third
  change [UInt8.ofNat _, UInt8.ofNat _, UInt8.ofNat _] = _
  rw [ofNat_eq (b := b) (by omega), ofNat_eq (b := t) (by omega), ofNat_eq (b := u) (by omega)]

theorem form_three (low : 0xF0 ≤ b.toNat) (second : IsTail t) (third : IsTail u) (fourth : IsTail v)
    : form 3
          ((((b.toNat - 0xF0) * 64 + (t.toNat - 0x80)) * 64 + (u.toNat - 0x80)) * 64
            + (v.toNat - 0x80))
      = [b, t, u, v] := by
  have := isTail_iff.mp second
  have := isTail_iff.mp third
  have := isTail_iff.mp fourth
  change [UInt8.ofNat _, UInt8.ofNat _, UInt8.ofNat _, UInt8.ofNat _] = _
  rw [ofNat_eq (b := b) (by omega), ofNat_eq (b := t) (by omega), ofNat_eq (b := u) (by omega),
    ofNat_eq (b := v) (by omega)]

end Bytes

-----------------------------------------------------------------------------------------
-- Characters that are being read
-----------------------------------------------------------------------------------------

/-- The bytes seen begin a character: with as many bytes after them as are owed, whichever of those
in range they are, they are the bytes of the character whose code comes out.
-/
def Begins (code : Nat) (low high : UInt8) : (left : Nat) → (seen : List UInt8) → Prop
  | 0, seen => String.utf8EncodeChar (Char.ofNat code) = seen
  | left + 1, seen =>
    ∀ b, low ≤ b → b ≤ high → Begins (code * 64 + (b.toNat - 0x80)) 0x80 0xBF left (seen ++ [b])

namespace State

/-- The bytes of the character that was begun. -/
def seen : State → List UInt8
  | .ready => []
  | .inside seen .. => seen

/-- Inside a character the bytes seen begin it, and tails are owed. -/
def Sound : State → Prop
  | .ready => True
  | .inside seen code left low high =>
    0 < left ∧ (∀ b, low ≤ b → b ≤ high → IsTail b) ∧ Begins code low high left seen

@[simp]
theorem seen_ready : seen .ready = [] :=
  rfl

@[simp]
theorem seen_inside (found : List UInt8) (code left : Nat) (low high : UInt8)
    : seen (.inside found code left low high) = found :=
  rfl

theorem sound_ready : Sound .ready :=
  trivial

end State

section First

variable {b least most : UInt8}

theorem begins_one (low : 0xC2 ≤ b.toNat) (high : b.toNat < 0xE0)
    : Begins (b.toNat - 0xC0) 0x80 0xBF 1 [b] := by
  intro t above below
  have second : IsTail t := ⟨above, below⟩
  have := isTail_iff.mp second
  have code := form_one (b := b) (by omega) second
  exact (encodeChar_form_one (by omega) (by omega)).trans code

/-- The narrowed range of the second byte keeps out the codes below 0x800 and the surrogates. -/
theorem begins_two (low : 0xE0 ≤ b.toNat) (high : b.toNat < 0xF0)
    (leastIs : least.toNat = if b.toNat = 0xE0 then 0xA0 else 0x80)
    (mostIs : most.toNat = if b.toNat = 0xED then 0x9F else 0xBF)
    : (∀ t, least ≤ t → t ≤ most → IsTail t) ∧ Begins (b.toNat - 0xE0) least most 2 [b] := by
  have tails (t : UInt8) (above : least ≤ t) (below : t ≤ most) : IsTail t :=
    isTail_of_between (by rw [leastIs]; split <;> omega) (by rw [mostIs]; split <;> omega) above
      below
  refine ⟨tails, fun t above below u above' below' => ?_⟩
  have second := tails t above below
  have third : IsTail u := ⟨above', below'⟩
  have := isTail_iff.mp second
  have := isTail_iff.mp third
  rw [UInt8.le_iff_toNat_le, leastIs] at above
  rw [UInt8.le_iff_toNat_le, mostIs] at below
  have code := form_two (b := b) (by omega) second third
  refine (encodeChar_form_two ?_ (by omega) ?_).trans code
  · split at above <;> omega
  · split at below <;> omega

/-- The narrowed range of the second byte keeps out the codes below 0x10000 and past 0x10FFFF. -/
theorem begins_three (low : 0xF0 ≤ b.toNat) (high : b.toNat ≤ 0xF4)
    (leastIs : least.toNat = if b.toNat = 0xF0 then 0x90 else 0x80)
    (mostIs : most.toNat = if b.toNat = 0xF4 then 0x8F else 0xBF)
    : (∀ t, least ≤ t → t ≤ most → IsTail t) ∧ Begins (b.toNat - 0xF0) least most 3 [b] := by
  have tails (t : UInt8) (above : least ≤ t) (below : t ≤ most) : IsTail t :=
    isTail_of_between (by rw [leastIs]; split <;> omega) (by rw [mostIs]; split <;> omega) above
      below
  refine ⟨tails, fun t above below u above' below' v above'' below'' => ?_⟩
  have second := tails t above below
  have third : IsTail u := ⟨above', below'⟩
  have fourth : IsTail v := ⟨above'', below''⟩
  have := isTail_iff.mp second
  have := isTail_iff.mp third
  have := isTail_iff.mp fourth
  rw [UInt8.le_iff_toNat_le, leastIs] at above
  rw [UInt8.le_iff_toNat_le, mostIs] at below
  have code := form_three (b := b) (by omega) second third fourth
  refine (encodeChar_form_three ?_ ?_).trans code
  · split at above <;> omega
  · split at below <;> omega

end First

/-- A byte that starts no character: a tail, a first byte of overlong forms only, or one past the
first bytes of the last codes.
-/
theorem start_broken {b : UInt8} (alien : 0x80 ≤ b.toNat ∧ b.toNat < 0xC2 ∨ 0xF4 < b.toNat)
    : start b = (.ready, [.broken [b]]) := by
  rcases alien with ⟨low, below⟩ | above
  · simp [start, UInt8.lt_iff_toNat_lt, below, Nat.not_lt.mpr low]
  · simp [start, UInt8.lt_iff_toNat_lt, ← UInt8.toNat_inj, show ¬ b.toNat < 0x80 by omega,
      show ¬ b.toNat < 0xC2 by omega, show ¬ b.toNat < 0xE0 by omega,
      show ¬ b.toNat = 0xE0 by omega, show ¬ b.toNat = 0xED by omega,
      show ¬ b.toNat < 0xF0 by omega, show ¬ b.toNat = 0xF0 by omega,
      show ¬ b.toNat < 0xF4 by omega, show ¬ b.toNat = 0xF4 by omega]

/-- A first byte is a character, is broken, or begins a character and announces what is owed of it,
by the ranges of first bytes.
-/
theorem start_cases (b : UInt8)
    : (b.toNat < 0x80 ∧ start b = (.ready, [.char (Char.ofNat b.toNat)]))
      ∨ start b = (.ready, [.broken [b]])
      ∨ ∃ code low high,
          start b = (.inside [b] code (announced b) low high, [])
          ∧ (State.inside [b] code (announced b) low high).Sound := by
  rcases Nat.lt_or_ge b.toNat 0x80 with one | beyondOne
  · have found := start_one one
    rw [UInt8.ofNat_toNat] at found
    exact .inl ⟨one, found⟩
  rcases Nat.lt_or_ge b.toNat 0xC2 with alone | beyondAlone
  · exact .inr (.inl (start_broken (.inl ⟨beyondOne, alone⟩)))
  rcases Nat.lt_or_ge b.toNat 0xE0 with two | beyondTwo
  · have found := start_two beyondAlone two
    rw [UInt8.ofNat_toNat] at found
    rw [announced_one (by omega) two]
    exact .inr (.inr
      ⟨_, _, _, found, by decide, fun _ => And.intro, begins_one beyondAlone two⟩)
  rcases Nat.lt_or_ge b.toNat 0xF0 with three | beyondThree
  · obtain ⟨least, most, found, leastIs, mostIs⟩ := start_three beyondTwo three
    rw [UInt8.ofNat_toNat] at found
    rw [announced_two beyondTwo three]
    exact .inr (.inr
      ⟨_, _, _, found, by decide, begins_two beyondTwo three leastIs mostIs⟩)
  rcases Nat.lt_or_ge 0xF4 b.toNat with alien | four
  · exact .inr (.inl (start_broken (.inr alien)))
  · obtain ⟨least, most, found, leastIs, mostIs⟩ := start_four beyondThree four
    rw [UInt8.ofNat_toNat] at found
    rw [announced_three beyondThree (by omega)]
    exact .inr (.inr
      ⟨_, _, _, found, by decide, begins_three beyondThree four leastIs mostIs⟩)

/-- What one byte leads to accounts for the byte and for those seen before it. -/
structure Accounts (seen : List UInt8) (b : UInt8) (next : State × List Chunk) : Prop where
  sound : next.1.Sound
  tiled : next.2.flatMap Chunk.bytes ++ next.1.seen = seen ++ [b]

theorem encodeChar_one {b : UInt8} (one : b.toNat < 0x80)
    : String.utf8EncodeChar (Char.ofNat b.toNat) = [b] := by
  have code : (Char.ofNat b.toNat).toNat = b.toNat := toNat_charOfNat (.inl (by omega))
  rw [encodeChar_of_ascii (by rw [code]; exact one), code, UInt8.ofNat_toNat]

theorem start_accounts (b : UInt8) : Accounts [] b (start b) := by
  rcases start_cases b with ⟨one, found⟩ | found | ⟨code, low, high, found, sound⟩
  · rw [found]
    exact ⟨trivial, by simp [encodeChar_one one]⟩
  · rw [found]
    exact ⟨trivial, rfl⟩
  · rw [found]
    exact ⟨sound, rfl⟩

/-- One byte finishes the character begun, brings it one byte further or breaks it off. -/
theorem step_accounts {state : State} (sound : state.Sound) (b : UInt8)
    : Accounts state.seen b (step state b) := by
  cases state with
  | ready => exact start_accounts b
  | inside seen code left low high =>
      obtain ⟨owed, -, begun⟩ := sound
      obtain ⟨left, rfl⟩ := Nat.exists_eq_add_of_lt owed
      rw [Nat.zero_add] at begun ⊢
      rw [step]
      by_cases fits : low ≤ b ∧ b ≤ high
      · have further := begun b fits.1 fits.2
        rw [if_pos fits]
        cases left with
        | zero =>
            -- The last byte owed: what the bytes seen begin is now the character itself.
            have written : String.utf8EncodeChar _ = seen ++ [b] := further
            exact ⟨trivial, by simp [written]⟩
        | succ left =>
            rw [if_neg (by omega)]
            exact ⟨⟨Nat.succ_pos left, fun _ => And.intro, further⟩, rfl⟩
      · -- The bytes seen become a broken chunk, and the byte is read as a first one.
        have again := start_accounts b
        rw [if_neg fits]
        exact ⟨again.sound, by simpa using again.tiled⟩

theorem run_cons (state : State) (b : UInt8) (rest : List UInt8)
    : run state (b :: rest) = (step state b).2 ++ run (step state b).1 rest :=
  rfl

/-- The chunks of what follows a state are the bytes seen and those that follow, by induction on
the latter.
-/
theorem run_tiles {state : State} (sound : state.Sound) (bytes : List UInt8)
    : (run state bytes).flatMap Chunk.bytes = state.seen ++ bytes := by
  induction bytes generalizing state with
  | nil => cases state <;> simp [run, State.finish]
  | cons b rest ih =>
      have accounts := step_accounts sound b
      rw [run_cons, List.flatMap_append, ih accounts.sound, ← List.append_assoc, accounts.tiled,
        List.append_assoc, List.singleton_append]

end Utf8

theorem flatMap_bytes_chunks (bytes : List UInt8) : (chunks bytes).flatMap Chunk.bytes = bytes :=
  Utf8.run_tiles Utf8.State.sound_ready bytes

/-- Only the bytes of a text are read as characters throughout, and as the text's own. -/
theorem chunks_eq_chars_iff {bytes : List UInt8} {s : String}
    : chunks bytes = s.toList.map .char ↔ bytes = bytesOf s := by
  rw [bytesOf_eq_flatMap]
  constructor
  · intro read
    have tiled := flatMap_bytes_chunks bytes
    rw [read, List.flatMap_map] at tiled
    exact tiled.symm
  · intro written
    rw [written, chunks, Utf8.run_encodeChars]

theorem char_shown {chunk : Chunk} (kept : chunk.shown ≠ '\uFFFD')
    : Chunk.char chunk.shown = chunk := by
  cases chunk with
  | char c => rfl
  | broken bytes => exact absurd rfl kept

theorem decodeLossy_bytesOf (s : String) : decodeLossy (bytesOf s) = s := by
  rw [decodeLossy, chunks_eq_chars_iff.mpr rfl, List.map_map]
  exact (congrArg String.ofList (List.map_id s.toList)).trans String.ofList_toList

/-- Bytes that are shown as a text without replacement characters are the bytes of that text. -/
theorem eq_bytesOf_of_decodeLossy {bytes : List UInt8} {s : String} (shown : decodeLossy bytes = s)
    (kept : '\uFFFD' ∉ s.toList)
    : bytes = bytesOf s := by
  have chars : (chunks bytes).map Chunk.shown = s.toList := by
    rw [← shown, decodeLossy, String.toList_ofList]
  have same : (chunks bytes).map (Chunk.char ∘ Chunk.shown) = (chunks bytes).map id := by
    refine List.map_congr_left fun chunk member => char_shown fun replaced => kept ?_
    rw [← replaced, ← chars]
    exact List.mem_map_of_mem member
  rw [← chunks_eq_chars_iff, ← chars, List.map_map, same, List.map_id]

end NodeTrial.Text
