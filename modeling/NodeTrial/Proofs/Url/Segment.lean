import NodeTrial.Proofs.Text.Division
import NodeTrial.Proofs.Text.Letter
import NodeTrial.Proofs.Url.Percent
import NodeTrial.Url.Base

/-! Segments of paths. A segment that was read is written as it is when it is read again: nothing in
it is encoded twice, and it is no segment of dots unless it was one before. A drive at the front of
a file's path is the exception.
-/

namespace NodeTrial.Url

open Percent (encode inPath)
open Text (eq_of_toLower eq_or_of_toLower)

-----------------------------------------------------------------------------------------
-- Segments of dots
-----------------------------------------------------------------------------------------

/-- A text of some number of dots, each one as it is or percent-encoded. -/
inductive Dots : Nat → List Char → Prop where
  | none : Dots 0 []
  | plain {n rest} (more : Dots n rest) : Dots (n + 1) ('.' :: rest)
  | encoded {n e rest} (letter : e = 'e' ∨ e = 'E') (more : Dots n rest)
    : Dots (n + 1) ('%' :: '2' :: e :: rest)

/-- Dots are dots in letters of either case, by induction on them. -/
theorem Dots.of_toLower {n : Nat} {lower : List Char} (h : Dots n lower)
    : ∀ {cs : List Char}, cs.map Char.toLower = lower → Dots n cs := by
  induction h with
  | none =>
      intro cs same
      rw [List.map_eq_nil_iff.mp same]
      exact .none
  | plain _ ih =>
      intro cs same
      obtain ⟨c, rest, rfl, dot, tail⟩ := List.map_eq_cons_iff.mp same
      obtain rfl := eq_of_toLower dot (by decide)
      exact .plain (ih tail)
  | encoded letter _ ih =>
      intro cs same
      obtain ⟨c, _, rfl, percent, same⟩ := List.map_eq_cons_iff.mp same
      obtain ⟨d, _, rfl, two, same⟩ := List.map_eq_cons_iff.mp same
      obtain ⟨e, rest, rfl, last, tail⟩ := List.map_eq_cons_iff.mp same
      obtain rfl := eq_of_toLower percent (by decide)
      obtain rfl := eq_of_toLower two (by decide)
      refine .encoded ?_ (ih tail)
      obtain rfl | rfl := letter
      · refine (eq_or_of_toLower last).imp_right fun ⟨_, value⟩ => Char.toNat_inj.mp ?_
        change 101 = e.toNat + 32 at value
        change e.toNat = 69
        omega
      · exact .inr (eq_of_toLower last (by decide))

/-- The small letters of some dots. -/
theorem Dots.one {cs : List Char} (h : Dots 1 cs)
    : cs.map Char.toLower = ['.'] ∨ cs.map Char.toLower = ['%', '2', 'e'] := by
  cases h with
  | plain more =>
      cases more
      exact .inl rfl
  | encoded letter more =>
      cases more
      obtain rfl | rfl := letter <;> exact .inr rfl

theorem isDot_iff {cs : List Char} : isDot cs = true ↔ Dots 1 cs := by
  have spelled : isDot cs = true
      ↔ cs.map Char.toLower = ['.'] ∨ cs.map Char.toLower = ['%', '2', 'e'] := by
    simp [isDot, ← String.toList_inj]
  rw [spelled]
  constructor
  · rintro (same | same)
    · exact Dots.of_toLower (.plain .none) same
    · exact Dots.of_toLower (.encoded (.inl rfl) .none) same
  · exact Dots.one

theorem isDoubleDot_iff {cs : List Char} : isDoubleDot cs = true ↔ Dots 2 cs := by
  have spelled : isDoubleDot cs = true
      ↔ cs.map Char.toLower ∈ [['.', '.'], ['.', '%', '2', 'e'], ['%', '2', 'e', '.'],
          ['%', '2', 'e', '%', '2', 'e']] := by
    simp [isDoubleDot, ← String.toList_inj]
  rw [spelled]
  simp only [List.mem_cons, List.not_mem_nil, or_false]
  constructor
  · rintro (same | same | same | same)
    · exact Dots.of_toLower (.plain (.plain .none)) same
    · exact Dots.of_toLower (.plain (.encoded (.inl rfl) .none)) same
    · exact Dots.of_toLower (.encoded (.inl rfl) (.plain .none)) same
    · exact Dots.of_toLower (.encoded (.inl rfl) (.encoded (.inl rfl) .none)) same
  · intro h
    cases h with
    | plain more => obtain same | same := more.one <;> simp [same]
    | encoded letter more =>
        obtain rfl | rfl := letter <;> obtain same | same := more.one <;> simp [same]

-----------------------------------------------------------------------------------------
-- Dots and encoding
-----------------------------------------------------------------------------------------

/-- The only character whose first byte is that of a dot. -/
theorem eq_dot_of_byte {c : Char} {b : UInt8} {bytes : List UInt8}
    (h : String.utf8EncodeChar c = b :: bytes) (dot : b.toNat = 46)
    : c = '.' := by
  have code : c.val.toNat = c.toNat := rfl
  unfold String.utf8EncodeChar at h
  simp only [code] at h
  split at h
  · next one =>
    obtain ⟨rfl, -⟩ := List.cons.inj h
    refine Char.toNat_inj.mp (?_ : c.toNat = 46)
    rw [UInt8.toNat_ofNat'] at dot
    omega
  · split at h
    · obtain ⟨rfl, -⟩ := List.cons.inj h
      rw [UInt8.toNat_ofNat'] at dot
      omega
    · split at h
      · obtain ⟨rfl, -⟩ := List.cons.inj h
        rw [UInt8.toNat_ofNat'] at dot
        omega
      · obtain ⟨rfl, -⟩ := List.cons.inj h
        rw [UInt8.toNat_ofNat'] at dot
        omega

theorem upperDigit_inj {n m : Nat} (small : n < 16) (other : m < 16)
    (same : Percent.upperDigit n = Percent.upperDigit m)
    : n = m := by
  have all : ∀ n < 16, ∀ m < 16, Percent.upperDigit n = Percent.upperDigit m → n = m := by decide
  exact all n small m other same

/-- An encoded text of dots is one that nothing was encoded in, by induction on the dots. -/
theorem Dots.of_encode {set : Char → Bool} (spares : Percent.Spares set) {n : Nat}
    {encoded : List Char} (h : Dots n encoded)
    : ∀ {cs : List Char}, encode set cs = encoded → Dots n cs := by
  induction h with
  | none =>
      intro cs same
      rw [Percent.eq_nil_of_encode same]
      exact .none
  | plain _ ih =>
      intro cs same
      obtain ⟨rest, rfl, tail⟩ := Percent.cons_of_encode same (by decide)
      exact .plain (ih tail)
  | @encoded n e rest letter _ ih =>
      intro cs same
      cases cs with
      | nil => cases same
      | cons c cs =>
          rw [Percent.encode_cons] at same
          cases marked : set c with
          | true =>
              -- an encoded byte with these digits would be that of a dot, which is not encoded
              obtain ⟨b, bytes, front, whole⟩ := Percent.exists_encodeChar marked
              have size : b.toNat < 256 := b.toNat_lt
              rw [whole] at same
              obtain ⟨high, digits⟩ := List.cons.inj (List.cons.inj same).2
              have low := (List.cons.inj digits).1
              have small : b.toNat % 16 < 16 := Nat.mod_lt _ (by decide)
              have upper := upperDigit_inj (by omega) (by decide : 2 < 16) high
              have lower : b.toNat % 16 = 14 := by
                refine upperDigit_inj small (by decide) (low.trans ?_)
                have capital : ∀ n < 16, Percent.upperDigit n ≠ 'e' := by decide
                exact letter.resolve_left fun e => capital _ small (low.trans e)
              obtain rfl := eq_dot_of_byte front (by omega)
              rw [spares.dot] at marked
              cases marked
          | false =>
              rw [Percent.encodeChar_of_not_mem marked, List.singleton_append] at same
              obtain ⟨rfl, digits⟩ := List.cons.inj same
              obtain ⟨_, rfl, last⟩ := Percent.cons_of_encode digits (by decide)
              have other : e ≠ '%' := by obtain rfl | rfl := letter <;> decide
              obtain ⟨_, rfl, tail⟩ := Percent.cons_of_encode last other
              exact .encoded letter (ih tail)

-----------------------------------------------------------------------------------------
-- Written segments
-----------------------------------------------------------------------------------------

/-- A segment as it stands in the path of a URL: no character of it is to be encoded, and none
separates segments.
-/
def IsWritten (special : Bool) (segment : String) : Prop :=
  ∀ c ∈ segment.toList, inPath c = false ∧ isSeparator special c = false

def isDots (segment : String) : Bool :=
  isDot segment.toList || isDoubleDot segment.toList

/-- A written segment that names something below the place it is in. -/
structure IsName (special : Bool) (segment : String) : Prop where
  written : IsWritten special segment
  noDots : isDots segment = false

variable {special : Bool} {segment : String} {cs : List Char}

/-- Tabs and line ends are controls, which are encoded everywhere. -/
theorem isIgnored_of_isControl {c : Char} (h : Percent.isControl c = false)
    : isIgnored c = false := by
  refine Bool.eq_false_iff.mpr fun ignored => ?_
  simp only [isIgnored, Bool.or_eq_true, beq_iff_eq] at ignored
  obtain (rfl | rfl) | rfl := ignored <;> exact absurd h (by decide)

theorem isControl_of_inPath {c : Char} (h : inPath c = false) : Percent.isControl c = false := by
  simp only [inPath, Percent.inFragment, Bool.or_eq_false_iff] at h
  exact h.1.1

theorem visible_of_plain (plain : ∀ c ∈ cs, isIgnored c = false) : visible cs = cs :=
  List.filter_eq_self.mpr fun c member => by rw [plain c member]; rfl

theorem IsWritten.plain (h : IsWritten special segment)
    : ∀ c ∈ segment.toList, isIgnored c = false :=
  fun c member => isIgnored_of_isControl (isControl_of_inPath (h c member).1)

/-- A written segment is written as it is. -/
theorem IsWritten.writtenSegment (h : IsWritten special segment)
    : writtenSegment segment.toList = segment := by
  rw [Url.writtenSegment, Percent.encode_of_unmarked fun c member => (h c member).1,
    String.ofList_toList]

theorem isWritten_writtenSegment (unmarked : ∀ c ∈ cs, isSeparator special c = false)
    : IsWritten special (Url.writtenSegment cs) := by
  intro c member
  rw [Url.writtenSegment, String.toList_ofList] at member
  refine ⟨Percent.unmarked_of_mem_encode Percent.inPath_spares c member, ?_⟩
  have digits : ∀ special, ∀ n < 16, isSeparator special (Percent.upperDigit n) = false := by
    decide
  obtain ⟨inside, -⟩ | rfl | ⟨n, small, rfl⟩ := Percent.mem_encode member
  · exact unmarked c inside
  · cases special <;> decide
  · exact digits special n small

/-- A segment that is no dots when it is read is none when it is written. -/
theorem isName_writtenSegment (unmarked : ∀ c ∈ cs, isSeparator special c = false)
    (noDot : isDot cs = false) (noDoubleDot : isDoubleDot cs = false)
    : IsName special (Url.writtenSegment cs) := by
  refine ⟨isWritten_writtenSegment unmarked, ?_⟩
  rw [isDots, Url.writtenSegment, String.toList_ofList, Bool.or_eq_false_iff]
  constructor
  · refine Bool.eq_false_iff.mpr fun dot => Bool.eq_false_iff.mp noDot ?_
    exact isDot_iff.mpr ((isDot_iff.mp dot).of_encode Percent.inPath_spares rfl)
  · refine Bool.eq_false_iff.mpr fun dots => Bool.eq_false_iff.mp noDoubleDot ?_
    exact isDoubleDot_iff.mpr ((isDoubleDot_iff.mp dots).of_encode Percent.inPath_spares rfl)

theorem isName_empty : IsName special "" :=
  ⟨fun _ member => absurd member (by simp), by decide⟩

-----------------------------------------------------------------------------------------
-- Drives
-----------------------------------------------------------------------------------------

theorem eq_of_isDrive (h : isDrive cs = true)
    : ∃ letter mark, cs = [letter, mark] ∧ letter.isAlpha = true ∧ (mark = ':' ∨ mark = '|') := by
  unfold isDrive at h
  split at h
  · next letter mark =>
    simp only [Bool.and_eq_true, List.contains_iff_mem, List.mem_cons, List.not_mem_nil,
      or_false] at h
    exact ⟨letter, mark, rfl, h.1, h.2⟩
  · cases h

theorem eq_of_isWrittenDrive (h : isWrittenDrive segment = true)
    : ∃ letter, segment.toList = [letter, ':'] ∧ letter.isAlpha = true := by
  simp only [isWrittenDrive, Bool.and_eq_true, beq_iff_eq] at h
  obtain ⟨letter, mark, whole, alpha, -⟩ := eq_of_isDrive h.1
  rw [whole] at h
  obtain rfl : mark = ':' := Option.some.inj h.2
  exact ⟨letter, whole, alpha⟩

/-- A drive is written with a colon. -/
theorem isWrittenDrive_writtenDrive (h : isDrive cs = true)
    : isWrittenDrive (writtenDrive cs) = true := by
  obtain ⟨letter, mark, rfl, alpha, -⟩ := eq_of_isDrive h
  simp [isWrittenDrive, writtenDrive, isDrive, alpha]

/-- A drive that is written is written as it is. -/
theorem writtenDrive_of_isWrittenDrive (h : isWrittenDrive segment = true)
    : writtenDrive segment.toList = segment := by
  obtain ⟨letter, whole, -⟩ := eq_of_isWrittenDrive h
  rw [writtenDrive, whole, ← String.toList_inj, String.toList_ofList, whole]
  rfl

theorem toNat_of_isAlpha {c : Char} (h : c.isAlpha = true)
    : 65 ≤ c.toNat ∧ c.toNat ≤ 90 ∨ 97 ≤ c.toNat ∧ c.toNat ≤ 122 := by
  obtain upper | lower := (Bool.or_eq_true _ _).mp h
  · exact .inl (of_decide_eq_true upper)
  · obtain ⟨least, most⟩ := (Bool.and_eq_true _ _).mp lower
    exact .inr ⟨of_decide_eq_true least, of_decide_eq_true most⟩

/-- Letters are written as they are. -/
theorem inPath_of_isAlpha {c : Char} (h : c.isAlpha = true) : inPath c = false := by
  have range := toNat_of_isAlpha h
  refine Bool.eq_false_iff.mpr fun encoded => ?_
  simp only [inPath, Percent.inFragment, Percent.isControl, Bool.or_eq_true, decide_eq_true_eq,
    List.contains_iff_mem] at encoded
  obtain ((low | high) | mark) | mark := encoded
  · have low : c.toNat < 32 := low
    omega
  · have high : 126 < c.toNat := high
    omega
  · have none : [' ', '"', '<', '>', '\x60'].any Char.isAlpha = false := by decide
    exact Bool.eq_false_iff.mp none (List.any_eq_true.mpr ⟨c, mark, h⟩)
  · have none : ['#', '?', '\x7b', '\x7d'].any Char.isAlpha = false := by decide
    exact Bool.eq_false_iff.mp none (List.any_eq_true.mpr ⟨c, mark, h⟩)

theorem isName_of_isWrittenDrive (h : isWrittenDrive segment = true) : IsName special segment := by
  obtain ⟨letter, whole, alpha⟩ := eq_of_isWrittenDrive h
  have range := toNat_of_isAlpha alpha
  constructor
  · rw [IsWritten, whole]
    refine List.forall_mem_cons.mpr ⟨⟨inPath_of_isAlpha alpha, ?_⟩,
      List.forall_mem_singleton.mpr ⟨by decide, by cases special <;> decide⟩⟩
    refine Bool.eq_false_iff.mpr fun separator => ?_
    simp only [isSeparator, Bool.or_eq_true, beq_iff_eq, Bool.and_eq_true] at separator
    obtain rfl | ⟨_, rfl⟩ := separator <;> exact absurd alpha (by decide)
  · have noDots (n : Nat) : ¬ Dots n [letter, ':'] := by
      intro dots
      cases dots with
      | plain more => cases more
    rw [isDots, whole, Bool.or_eq_false_iff]
    exact ⟨Bool.eq_false_iff.mpr fun dot => noDots 1 (isDot_iff.mp dot),
      Bool.eq_false_iff.mpr fun dots => noDots 2 (isDoubleDot_iff.mp dots)⟩

/-- There is no path above a drive. -/
theorem above_drive (h : isWrittenDrive segment = true) : above [segment] = [segment] := by
  obtain ⟨letter, whole, alpha⟩ := eq_of_isWrittenDrive h
  simp [above, startsWithDrive, isDrive, whole, alpha]

theorem dividedDrive?_eq_some {segments : List String} (h : dividedDrive? cs = some segments)
    : ∃ before after, Text.splitFirst? (· == ':') cs = some (before, after)
        ∧ isDrive (visible before ++ [':']) = true
        ∧ after.head?.any isIgnored = true
        ∧ segments = [writtenDrive (visible before ++ [':']), writtenSegment (visible after)] := by
  obtain ⟨⟨before, after⟩, parts, h⟩ := Option.bind_eq_some_iff.mp h
  dsimp only at h
  split at h
  · next divided =>
    simp only [Bool.and_eq_true] at divided
    exact ⟨before, after, parts, divided.1.1, divided.1.2, (Option.some.inj h).symm⟩
  · cases h

/-- A drive is only divided from what follows it by a tab or a line end. -/
theorem dividedDrive?_of_plain (plain : ∀ c ∈ cs, isIgnored c = false)
    : dividedDrive? cs = none := by
  refine Option.eq_none_iff_forall_not_mem.mpr fun segments divided => ?_
  obtain ⟨before, after, parts, -, ignored, -⟩ := dividedDrive?_eq_some divided
  obtain ⟨m, -, rfl⟩ := Text.eq_of_splitFirst? parts
  cases after with
  | nil => cases ignored
  | cons c rest =>
      have inside : c ∈ before ++ m :: c :: rest := by simp
      exact Bool.eq_false_iff.mp (plain c inside) ignored

theorem mem_of_mem_visible {c : Char} (h : c ∈ visible cs) : c ∈ cs :=
  (List.mem_filter.mp h).1

/-- What a divided segment is written as: a drive and another segment. -/
theorem isWritten_of_dividedDrive? {segments : List String}
    (unmarked : ∀ c ∈ cs, isSeparator special c = false)
    (h : dividedDrive? cs = some segments)
    : ∃ drive rest, segments = [drive, rest] ∧ isWrittenDrive drive = true
        ∧ IsWritten special rest := by
  obtain ⟨before, after, parts, drive, -, rfl⟩ := dividedDrive?_eq_some h
  obtain ⟨m, -, rfl⟩ := Text.eq_of_splitFirst? parts
  refine ⟨_, _, rfl, isWrittenDrive_writtenDrive drive, isWritten_writtenSegment fun c member => ?_⟩
  exact unmarked c (List.mem_append_right _ (List.mem_cons_of_mem _ (mem_of_mem_visible member)))

end NodeTrial.Url
