import Mathlib.Data.List.Basic
import NodeTrial.Proofs.Text.Chunks

/-! Bytes that are no UTF-8. What goes wrong in them is told from the bytes alone: a byte of no
form, a character cut short, an overlong form, a surrogate, a code past the last one, or a tail
where a character should start. A byte string is a text's or has one of these flaws, never both; the
decoder reads a flaw as a broken run, and a text as itself.
-/

namespace NodeTrial.Text

namespace Utf8

/-- The bytes go on with no tail: they end, or something else starts. -/
def Stops (rest : List UInt8) : Prop :=
  ∀ b ∈ rest.head?, ¬ IsTail b

theorem stops_nil : Stops [] := by
  intro b member
  cases member

/-- Bytes that start with what stands nowhere in a text, whatever follows it. -/
inductive Flaw : List UInt8 → Prop
  | alien {b : UInt8} {rest : List UInt8} (past : 0xF8 ≤ b.toNat) : Flaw (b :: rest)
  | truncated {b : UInt8} {tails rest : List UInt8} (tail : ∀ t ∈ tails, IsTail t)
    (few : tails.length < announced b) (stops : Stops rest)
    : Flaw (b :: tails ++ rest)
  | overlong {more code : Nat} {rest : List UInt8} (few : more ≤ 3) (small : code < leastCode more)
    : Flaw (Utf8.form more code ++ rest)
  | surrogate {code : Nat} {rest : List UInt8} (low : 0xD800 ≤ code) (high : code ≤ 0xDFFF)
    : Flaw (Utf8.form 2 code ++ rest)
  | beyond {code : Nat} {rest : List UInt8} (low : 0x110000 ≤ code) (high : code < 0x200000)
    : Flaw (Utf8.form 3 code ++ rest)

end Utf8

/-- Bytes with a flaw anywhere in them, or with a tail right after a text. -/
inductive Malformed : List UInt8 → Prop
  | flawed (front : List UInt8) {rest : List UInt8} (flaw : Utf8.Flaw rest)
    : Malformed (front ++ rest)
  | stray (s : String) {b : UInt8} (rest : List UInt8) (tail : Utf8.IsTail b)
    : Malformed (bytesOf s ++ b :: rest)

namespace Utf8

-----------------------------------------------------------------------------------------
-- A flaw is read as a broken run
-----------------------------------------------------------------------------------------

/-- The bytes start with a first byte that is no tail, and with a broken run. -/
def StartsBroken (bytes : List UInt8) : Prop :=
  ∃ b rest found more,
    bytes = b :: rest ∧ 0xC0 ≤ b.toNat ∧ run .ready bytes = .broken found :: more

section Broken

variable {b t : UInt8} {rest : List UInt8}

theorem run_of_start_broken (alone : start b = (.ready, [.broken [b]]))
    : run .ready (b :: rest) = .broken [b] :: run .ready rest := by
  rw [run, step, alone]
  rfl

/-- A byte out of range breaks off the character begun. -/
theorem exists_run_of_refused {seen : List UInt8} {code left : Nat} {low high : UInt8}
    (refused : ¬ (low ≤ t ∧ t ≤ high))
    : ∃ more, run (.inside seen code left low high) (t :: rest) = .broken seen :: more := by
  rw [run, step, if_neg refused]
  exact ⟨_, rfl⟩

/-- Fewer tails than are owed leave the character unfinished, by induction on the tails. -/
theorem exists_run_of_few {tails : List UInt8} (stops : Stops rest) {seen : List UInt8}
    {code left : Nat} {low high : UInt8} (few : tails.length < left)
    (within : ∀ b, low ≤ b → b ≤ high → IsTail b)
    : ∃ found more,
        run (.inside seen code left low high) (tails ++ rest) = .broken found :: more := by
  induction tails generalizing seen code left low high with
  | nil =>
      cases rest with
      | nil => exact ⟨seen, [], rfl⟩
      | cons b rest =>
          have refused : ¬ (low ≤ b ∧ b ≤ high) :=
            fun fits => stops b rfl (within b fits.1 fits.2)
          exact ⟨seen, exists_run_of_refused refused⟩
  | cons t tails ih =>
      by_cases fits : low ≤ t ∧ t ≤ high
      · rw [List.length_cons] at few
        have fewer : tails.length < left - 1 := by omega
        rw [List.cons_append, run, step, if_pos fits, if_neg (by omega)]
        exact ih fewer fun _ => And.intro
      · exact ⟨seen, exists_run_of_refused fits⟩

theorem exists_run_of_truncated {tails : List UInt8} (few : tails.length < announced b)
    (stops : Stops rest)
    : ∃ found more, run .ready (b :: tails ++ rest) = .broken found :: more := by
  rcases start_cases b with ⟨one, -⟩ | alone | ⟨code, low, high, begun, -, within, -⟩
  · rw [announced_zero (by omega)] at few
    cases few
  · exact ⟨_, _, run_of_start_broken alone⟩
  · rw [List.cons_append, run, step, begun]
    exact exists_run_of_few stops few within

/-- A second byte out of the range that the first one leaves. -/
theorem exists_run_of_out {code left : Nat} {least most : UInt8}
    (begun : start b = (.inside [b] code left least most, []))
    (out : t.toNat < least.toNat ∨ most.toNat < t.toNat)
    : ∃ more, run .ready (b :: t :: rest) = .broken [b] :: more := by
  rw [run, step, begun]
  refine exists_run_of_refused fun fits => ?_
  rw [UInt8.le_iff_toNat_le, UInt8.le_iff_toNat_le] at fits
  omega

end Broken

section Forms

variable {code : Nat} {rest : List UInt8}

theorem startsBroken_form_one (small : code < 0x80) : StartsBroken (form 1 code ++ rest) := by
  have first : (UInt8.ofNat (code / 64 + 0xC0)).toNat = code / 64 + 0xC0 :=
    toNat_ofNat_of_lt (by omega)
  have alone := start_broken (b := UInt8.ofNat (code / 64 + 0xC0)) (.inl ⟨by omega, by omega⟩)
  exact ⟨_, _, _, _, rfl, by omega, run_of_start_broken alone⟩

theorem startsBroken_form_two (small : code < 0x10000)
    (bad : code < 0x800 ∨ 0xD800 ≤ code ∧ code ≤ 0xDFFF)
    : StartsBroken (form 2 code ++ rest) := by
  have first : (UInt8.ofNat (code / 4096 + 0xE0)).toNat = code / 4096 + 0xE0 :=
    toNat_ofNat_of_lt (by omega)
  have second : (UInt8.ofNat (code / 64 % 64 + 0x80)).toNat = code / 64 % 64 + 0x80 :=
    toNat_ofNat_of_lt (by omega)
  obtain ⟨least, most, begun, leastIs, mostIs⟩ := start_three
    (show 0xE0 ≤ code / 4096 + 0xE0 by omega) (by omega)
  have out : (UInt8.ofNat (code / 64 % 64 + 0x80)).toNat < least.toNat
      ∨ most.toNat < (UInt8.ofNat (code / 64 % 64 + 0x80)).toNat := by
    rw [second, leastIs, mostIs]
    rcases bad with overlong | surrogate
    · left
      rw [if_pos (by omega)]
      omega
    · right
      rw [if_pos (by omega)]
      omega
  obtain ⟨more, broken⟩ := exists_run_of_out begun out
  exact ⟨_, _, _, more, rfl, by omega, broken⟩

theorem startsBroken_form_three (small : code < 0x200000)
    (bad : code < 0x10000 ∨ 0x110000 ≤ code)
    : StartsBroken (form 3 code ++ rest) := by
  have first : (UInt8.ofNat (code / 262144 + 0xF0)).toNat = code / 262144 + 0xF0 :=
    toNat_ofNat_of_lt (by omega)
  have second : (UInt8.ofNat (code / 4096 % 64 + 0x80)).toNat = code / 4096 % 64 + 0x80 :=
    toNat_ofNat_of_lt (by omega)
  rcases Nat.lt_or_ge 0xF4 (code / 262144 + 0xF0) with alien | four
  · have alone := start_broken (b := UInt8.ofNat (code / 262144 + 0xF0)) (.inr (by omega))
    exact ⟨_, _, _, _, rfl, by omega, run_of_start_broken alone⟩
  obtain ⟨least, most, begun, leastIs, mostIs⟩ := start_four
    (show 0xF0 ≤ code / 262144 + 0xF0 by omega) four
  have out : (UInt8.ofNat (code / 4096 % 64 + 0x80)).toNat < least.toNat
      ∨ most.toNat < (UInt8.ofNat (code / 4096 % 64 + 0x80)).toNat := by
    rw [second, leastIs, mostIs]
    rcases bad with overlong | beyond
    · left
      rw [if_pos (by omega)]
      omega
    · right
      rw [if_pos (by omega)]
      omega
  obtain ⟨more, broken⟩ := exists_run_of_out begun out
  exact ⟨_, _, _, more, rfl, by omega, broken⟩

end Forms

/-- Every flaw is read as a broken run from its first byte on, by the kinds of flaws. -/
theorem Flaw.startsBroken {bytes : List UInt8} (flaw : Flaw bytes) : StartsBroken bytes := by
  cases flaw with
  | @alien b rest past =>
      have alone : start b = (.ready, [.broken [b]]) := start_broken (.inr (by omega))
      exact ⟨b, rest, _, _, rfl, by omega, run_of_start_broken alone⟩
  | @truncated b tails rest tail few stops =>
      obtain ⟨found, more, broken⟩ := exists_run_of_truncated few stops
      refine ⟨b, tails ++ rest, found, more, rfl, ?_, broken⟩
      refine Nat.le_of_not_lt fun low => ?_
      rw [announced_zero low] at few
      cases few
  | @overlong more code rest few small =>
      have sizes : more = 0 ∨ more = 1 ∨ more = 2 ∨ more = 3 := by omega
      rcases sizes with rfl | rfl | rfl | rfl
      · cases small
      · exact startsBroken_form_one small
      · exact startsBroken_form_two (Nat.lt_trans small (by decide)) (.inl small)
      · exact startsBroken_form_three (Nat.lt_trans small (by decide)) (.inl small)
  | @surrogate code rest low high =>
      exact startsBroken_form_two (by omega) (.inr ⟨low, high⟩)
  | @beyond code rest low high => exact startsBroken_form_three high (.inr low)

/-- A byte that is no tail is read as a first byte, whatever stands before it, by induction on that.
-/
theorem exists_run_of_first {state : State} (sound : state.Sound) (front : List UInt8) {b : UInt8}
    {rest : List UInt8} (first : 0xC0 ≤ b.toNat)
    : ∃ before, run state (front ++ b :: rest) = before ++ run .ready (b :: rest) := by
  induction front generalizing state with
  | nil =>
      cases state with
      | ready => exact ⟨[], rfl⟩
      | inside seen code left low high =>
          have refused : ¬ (low ≤ b ∧ b ≤ high) := by
            intro fits
            have := isTail_iff.mp (sound.2.1 b fits.1 fits.2)
            omega
          refine ⟨[.broken seen], ?_⟩
          rw [List.nil_append, run, step, if_neg refused, run, step]
          rfl
  | cons c front ih =>
      obtain ⟨before, found⟩ := ih (step_accounts sound c).sound
      refine ⟨(step state c).2 ++ before, ?_⟩
      rw [List.cons_append, run_cons, found, List.append_assoc]

end Utf8

theorem exists_broken_of_malformed {bytes : List UInt8} (malformed : Malformed bytes)
    : ∃ found, .broken found ∈ chunks bytes := by
  cases malformed with
  | @flawed front rest flaw =>
      obtain ⟨b, rest, found, more, rfl, first, broken⟩ := flaw.startsBroken
      obtain ⟨before, read⟩ := Utf8.exists_run_of_first Utf8.State.sound_ready front first
      refine ⟨found, ?_⟩
      rw [chunks, read, broken]
      exact List.mem_append_right _ List.mem_cons_self
  | @stray s b rest tail =>
      have bounds := Utf8.isTail_iff.mp tail
      have alone := Utf8.start_broken (.inl ⟨bounds.1, by omega⟩)
      refine ⟨[b], ?_⟩
      rw [chunks, bytesOf_eq_flatMap, Utf8.run_encodeChars_append,
        Utf8.run_of_start_broken alone]
      exact List.mem_append_right _ List.mem_cons_self

theorem ne_bytesOf_of_malformed {bytes : List UInt8} (malformed : Malformed bytes) (s : String)
    : bytes ≠ bytesOf s := by
  intro written
  obtain ⟨found, member⟩ := exists_broken_of_malformed malformed
  rw [chunks_eq_chars_iff.mpr written] at member
  obtain ⟨c, -, same⟩ := List.mem_map.mp member
  cases same

-----------------------------------------------------------------------------------------
-- Bytes without a flaw are a text's
-----------------------------------------------------------------------------------------

namespace Utf8

section Complete

variable {code : Nat}

theorem form_one_char_or_flaw (high : code < 0x800)
    : (∃ c, form 1 code = String.utf8EncodeChar c) ∨ ∀ rest, Flaw (form 1 code ++ rest) := by
  rcases Nat.lt_or_ge code 0x80 with small | low
  · exact .inr fun rest => .overlong (by decide) small
  · exact .inl ⟨_, (encodeChar_form_one low high).symm⟩

theorem form_two_char_or_flaw (high : code < 0x10000)
    : (∃ c, form 2 code = String.utf8EncodeChar c) ∨ ∀ rest, Flaw (form 2 code ++ rest) := by
  rcases Nat.lt_or_ge code 0x800 with small | low
  · exact .inr fun rest => .overlong (by decide) small
  by_cases surrogate : 0xD800 ≤ code ∧ code ≤ 0xDFFF
  · exact .inr fun rest => .surrogate surrogate.1 surrogate.2
  · exact .inl ⟨_, (encodeChar_form_two low high (by omega)).symm⟩

theorem form_three_char_or_flaw (high : code < 0x200000)
    : (∃ c, form 3 code = String.utf8EncodeChar c) ∨ ∀ rest, Flaw (form 3 code ++ rest) := by
  rcases Nat.lt_or_ge code 0x10000 with small | low
  · exact .inr fun rest => .overlong (by decide) small
  rcases Nat.lt_or_ge code 0x110000 with within | beyond
  · exact .inl ⟨_, (encodeChar_form_three low within).symm⟩
  · exact .inr fun rest => .beyond beyond high

end Complete

/-- Some bytes start with as many tails as are wanted, or with fewer and then stop. -/
theorem exists_tails (want : Nat) (rest : List UInt8)
    : ∃ tails after,
        rest = tails ++ after
        ∧ (∀ t ∈ tails, IsTail t)
        ∧ (tails.length < want ∧ Stops after ∨ tails.length = want) := by
  induction want generalizing rest with
  | zero => exact ⟨[], rest, rfl, List.forall_mem_nil _, .inr rfl⟩
  | succ want ih =>
      cases rest with
      | nil => exact ⟨[], [], rfl, List.forall_mem_nil _, .inl ⟨Nat.succ_pos _, stops_nil⟩⟩
      | cons t rest =>
          by_cases tail : IsTail t
          · obtain ⟨tails, after, rfl, all, reached⟩ := ih rest
            refine ⟨t :: tails, after, rfl, List.forall_mem_cons.mpr ⟨tail, all⟩, ?_⟩
            rw [List.length_cons]
            rcases reached with ⟨fewer, stops⟩ | full
            · exact .inl ⟨Nat.succ_lt_succ fewer, stops⟩
            · exact .inr (congrArg Nat.succ full)
          · refine ⟨[], t :: rest, rfl, List.forall_mem_nil _, .inl ⟨Nat.succ_pos _, ?_⟩⟩
            rintro b ⟨⟩
            exact tail

/-- A first byte with the tails that it announces is a character or a flaw, by how many these are. -/
theorem complete_char_or_flaw {b : UInt8} {tails : List UInt8} (lead : 0xC0 ≤ b.toNat)
    (high : b.toNat < 0xF8) (tail : ∀ t ∈ tails, IsTail t) (full : tails.length = announced b)
    : (∃ c, b :: tails = String.utf8EncodeChar c) ∨ ∀ rest, Flaw (b :: tails ++ rest) := by
  rcases Nat.lt_or_ge b.toNat 0xE0 with two | beyondTwo
  · rw [announced_one lead two] at full
    obtain ⟨t, rfl⟩ := List.length_eq_one_iff.mp full
    have second := tail t (by simp)
    have := isTail_iff.mp second
    rw [← form_one lead second]
    exact form_one_char_or_flaw (by omega)
  rcases Nat.lt_or_ge b.toNat 0xF0 with three | beyondThree
  · rw [announced_two beyondTwo three] at full
    obtain ⟨t, u, rfl⟩ := List.length_eq_two.mp full
    have second := tail t (by simp)
    have third := tail u (by simp)
    have := isTail_iff.mp second
    have := isTail_iff.mp third
    rw [← form_two beyondTwo second third]
    exact form_two_char_or_flaw (by omega)
  · rw [announced_three beyondThree high] at full
    obtain ⟨t, u, v, rfl⟩ := List.length_eq_three.mp full
    have second := tail t (by simp)
    have third := tail u (by simp)
    have fourth := tail v (by simp)
    have := isTail_iff.mp second
    have := isTail_iff.mp third
    have := isTail_iff.mp fourth
    rw [← form_three beyondThree second third fourth]
    exact form_three_char_or_flaw (by omega)

/-- Bytes that do not start with a tail start with a character or have a flaw: the first one is of
no form, or less follows it than it announces, or it starts the form of a code.
-/
theorem exists_char_or_flaw {b : UInt8} (first : ¬ IsTail b) (rest : List UInt8)
    : (∃ c after, b :: rest = String.utf8EncodeChar c ++ after) ∨ Flaw (b :: rest) := by
  rcases Nat.lt_or_ge b.toNat 0x80 with one | beyondOne
  · refine .inl ⟨Char.ofNat b.toNat, rest, ?_⟩
    rw [encodeChar_one one, List.singleton_append]
  rcases Nat.lt_or_ge b.toNat 0xF8 with high | past
  · have lead : 0xC0 ≤ b.toNat :=
      Nat.le_of_not_lt fun below => first (isTail_iff.mpr ⟨beyondOne, by omega⟩)
    obtain ⟨tails, after, rfl, tail, ⟨fewer, stops⟩ | full⟩ := exists_tails (announced b) rest
    · exact .inr (.truncated tail fewer stops)
    rcases complete_char_or_flaw lead high tail full with ⟨c, written⟩ | flaw
    · exact .inl ⟨c, after, by rw [← List.cons_append, written]⟩
    · exact .inr (flaw after)
  · exact .inr (.alien past)

end Utf8

theorem bytesOf_empty : bytesOf "" = [] := by
  rw [bytesOf_eq_flatMap]
  rfl

theorem bytesOf_ofList_cons (c : Char) (s : String)
    : bytesOf (String.ofList (c :: s.toList)) = String.utf8EncodeChar c ++ bytesOf s := by
  rw [bytesOf_eq_flatMap, bytesOf_eq_flatMap, String.toList_ofList, List.flatMap_cons]

theorem Malformed.cons_char {bytes : List UInt8} (malformed : Malformed bytes) (c : Char)
    : Malformed (String.utf8EncodeChar c ++ bytes) := by
  cases malformed with
  | @flawed front rest flaw =>
      rw [← List.append_assoc]
      exact .flawed _ flaw
  | @stray s t rest tail =>
      rw [← List.append_assoc, ← bytesOf_ofList_cons]
      exact .stray _ rest tail

/-- Bytes are a text's or malformed, by induction on their number: a character is taken off the
front until a flaw or the end is reached.
-/
theorem exists_text_or_malformed (bytes : List UInt8)
    : (∃ s, bytes = bytesOf s) ∨ Malformed bytes := by
  induction size : bytes.length using Nat.strongRecOn generalizing bytes with
  | ind n ih =>
      cases bytes with
      | nil => exact .inl ⟨"", bytesOf_empty.symm⟩
      | cons b rest =>
          by_cases tail : Utf8.IsTail b
          · have stray := Malformed.stray "" rest tail
            rw [bytesOf_empty, List.nil_append] at stray
            exact .inr stray
          rcases Utf8.exists_char_or_flaw tail rest with ⟨c, after, taken⟩ | flaw
          · have some : 0 < (String.utf8EncodeChar c).length := by
              rw [String.length_utf8EncodeChar]
              exact c.utf8Size_pos
            have shorter : after.length < n := by
              rw [← size, taken, List.length_append]
              omega
            rw [taken]
            rcases ih after.length shorter after rfl with ⟨s, rfl⟩ | malformed
            · exact .inl ⟨_, (bytesOf_ofList_cons c s).symm⟩
            · exact .inr (malformed.cons_char c)
          · exact .inr (.flawed [] flaw)

/-- The malformed byte strings are exactly those that no text is written as. -/
theorem malformed_iff {bytes : List UInt8} : Malformed bytes ↔ ∀ s, bytes ≠ bytesOf s := by
  constructor
  · exact ne_bytesOf_of_malformed
  · intro none
    refine (exists_text_or_malformed bytes).resolve_left ?_
    rintro ⟨s, written⟩
    exact none s written

/-- A text that bytes are shown as is their own if they are UTF-8. -/
structure StandsFor (shown : String) (bytes : List UInt8) : Prop where
  own : ∀ s, bytes = bytesOf s → shown = s
  whole : ¬ Malformed bytes → bytes = bytesOf shown

theorem standsFor_decodeLossy (bytes : List UInt8) : StandsFor (decodeLossy bytes) bytes := by
  have own (s : String) (written : bytes = bytesOf s) : decodeLossy bytes = s := by
    rw [written, decodeLossy_bytesOf]
  refine ⟨own, fun flawless => ?_⟩
  obtain ⟨s, written⟩ := (exists_text_or_malformed bytes).resolve_right flawless
  rw [own s written, written]

end NodeTrial.Text
