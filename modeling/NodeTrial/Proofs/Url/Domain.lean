import NodeTrial.Proofs.Result
import NodeTrial.Proofs.Text.Division
import NodeTrial.Url.Domain

/-! What domains are written in. A label beyond ASCII is written in digits after its characters of
ASCII, so a domain that was read holds only characters of ASCII that a domain may hold: no
delimiter, no control and no percent sign. A domain in small letters without marked labels is its
own name in ASCII.
-/

namespace NodeTrial.Domain

open Text (sections)

-----------------------------------------------------------------------------------------
-- Punycode
-----------------------------------------------------------------------------------------

namespace Punycode

/-- A digit of a number in Punycode. -/
def IsDigit (c : Char) : Prop :=
  ∃ value < 36, c = digitOf value

theorem threshold_le (step bias : Nat) : threshold step bias ≤ 26 := by
  unfold threshold
  split
  · decide
  · split <;> omega

/-- Numbers are written in digits, by induction on the number. -/
theorem isDigit_of_mem_digitsOf {bias step n : Nat}
    : ∀ c ∈ digitsOf bias step n, IsDigit c := by
  induction step, n using digitsOf.induct bias with
  | case1 step n least small =>
      rw [digitsOf, if_pos small]
      have top := threshold_le step bias
      exact List.forall_mem_singleton.mpr ⟨n, by omega, rfl⟩
  | case2 step n least large ih =>
      rw [digitsOf, if_neg large]
      have top := threshold_le step bias
      have below := Nat.mod_lt (n - threshold step bias) (by omega : 0 < 36 - threshold step bias)
      exact List.forall_mem_cons.mpr ⟨⟨_, by omega, rfl⟩, ih⟩

theorem isDigit_of_mem_pass {basic target : Nat} {w : Writing} (h : ∀ c ∈ w.numbers, IsDigit c)
    (code : Nat)
    : ∀ c ∈ (pass basic target w code).numbers, IsDigit c := by
  unfold pass
  split
  · exact h
  · split
    · exact List.forall_mem_append.mpr ⟨h, isDigit_of_mem_digitsOf⟩
    · exact h

/-- Writing leaves digits, by induction on the codes that are written. -/
theorem isDigit_of_mem_writeCodes {text : List Nat} {basic : Nat} {codes : List Nat}
    : ∀ {next : Nat} {w : Writing}, (∀ c ∈ w.numbers, IsDigit c) →
        ∀ c ∈ (writeCodes text basic next w codes).numbers, IsDigit c := by
  induction codes with
  | nil => exact fun h => h
  | cons code rest ih =>
      intro next w h
      have passed (seen : List Nat)
          : ∀ {w : Writing}, (∀ c ∈ w.numbers, IsDigit c) →
              ∀ c ∈ (seen.foldl (pass basic code) w).numbers, IsDigit c := by
        induction seen with
        | nil => exact fun h => h
        | cons first seen further => exact fun h => further (isDigit_of_mem_pass h first)
      exact ih (passed text h)

/-- What a label is written in: its own characters of ASCII, hyphens and digits. -/
theorem mem_encode {text : List Char} {c : Char} (member : c ∈ encode text)
    : c ∈ text ∧ isAscii c = true ∨ c = '-' ∨ IsDigit c := by
  rcases List.mem_append.mp member with basic | number
  · split at basic
    · cases basic
    · rcases List.mem_append.mp basic with early | hyphen
      · exact .inl (List.mem_filter.mp early)
      · exact .inr (.inl (List.mem_singleton.mp hyphen))
  · exact .inr (.inr (isDigit_of_mem_writeCodes (List.forall_mem_nil _) c number))

end Punycode

-----------------------------------------------------------------------------------------
-- Domains
-----------------------------------------------------------------------------------------

/-- A character of ASCII that a domain may hold. -/
def IsPlain (c : Char) : Prop :=
  isAscii c = true ∧ isAllowed c = true

theorem isPlain_of_isDigit {c : Char} (digit : Punycode.IsDigit c) : IsPlain c := by
  have all : ∀ value < 36, isAscii (Punycode.digitOf value) = true
      ∧ isAllowed (Punycode.digitOf value) = true := by decide
  obtain ⟨value, small, rfl⟩ := digit
  exact all value small

/-- A label is written in characters of ASCII, of its own or of numbers. -/
theorem mem_of_writeLabel? {label written : List Char} (h : writeLabel? label = some written)
    {c : Char} (member : c ∈ written)
    : c ∈ label ∧ isAscii c = true ∨ IsPlain c := by
  rw [writeLabel?] at h
  split at h
  · next ascii =>
    obtain rfl := Option.some.inj h
    exact .inl ⟨member, List.all_eq_true.mp ascii c member⟩
  · split at h
    · cases h
    · obtain rfl := Option.some.inj h
      have mark : punycodeMark.all (fun c => isAscii c && isAllowed c) = true := by decide
      rcases List.mem_append.mp member with early | late
      · exact .inr (Bool.and_eq_true_iff.mp (List.all_eq_true.mp mark c early))
      · rcases Punycode.mem_encode late with own | rfl | digit
        · exact .inl own
        · exact .inr ⟨by decide, by decide⟩
        · exact .inr (isPlain_of_isDigit digit)

/-- A name in ASCII is made of characters that a domain may hold. -/
theorem isPlain_of_toAscii? {cs name : List Char} (h : toAscii? cs = some name)
    : ∀ c ∈ name, IsPlain c := by
  obtain ⟨mapped, -, h⟩ := Option.bind_eq_some_iff.mp h
  obtain ⟨meant, -, h⟩ := Option.bind_eq_some_iff.mp h
  split at h
  · next good =>
    obtain ⟨written, write, same⟩ := Option.bind_eq_some_iff.mp h
    obtain rfl := Option.some.inj same
    simp only [Bool.and_eq_true] at good
    have allowed := List.all_eq_true.mp good.1.1
    have ofLabels : ∀ label ∈ written, ∀ c ∈ label, IsPlain c := by
      intro label found c member
      obtain ⟨own, inName, wrote⟩ := mapM_some_mem write label found
      rcases mem_of_writeLabel? wrote member with ⟨inside, ascii⟩ | plain
      · exact ⟨ascii, allowed c (Text.mem_of_mem_sections own inName inside)⟩
      · exact plain
    intro c member
    obtain rfl | ⟨label, found, inside⟩ := Text.mem_of_mem_intercalate member
    · exact ⟨by decide, by decide⟩
    · exact ofLabels label found c inside
  · cases h

theorem IsPlain.allowed {c : Char} (plain : IsPlain c)
    : Percent.isControl c = false ∧ c ≠ '%' ∧ c ∉ delimiters := by
  have allowed := plain.2
  simp only [isAllowed, plain.1, Bool.not_true, Bool.false_or, Bool.not_eq_true', Bool.or_eq_false_iff,
    beq_eq_false_iff_ne] at allowed
  refine ⟨allowed.1.1, allowed.1.2, fun member => ?_⟩
  exact Bool.eq_false_iff.mp allowed.2 (List.contains_iff_mem.mpr member)

-----------------------------------------------------------------------------------------
-- Names that are in ASCII already
-----------------------------------------------------------------------------------------

-- The rows of both tables are lists of characters before they are computed with: decoding their
-- texts is most of what the kernel would do.

theorem le_of_mem_rightRanges : ∀ range ∈ rightRanges, 128 ≤ range.1 := by
  simp only [rightRanges, Text.codeRanges, List.flatMap_cons, Text.wordsOf]
  repeat rw [String.toList_ofList]
  decide +kernel

theorem le_of_mem_rightNumberRanges : ∀ range ∈ rightNumberRanges, 128 ≤ range.1 := by
  simp only [rightNumberRanges, Text.codeRanges, List.flatMap_cons, Text.wordsOf]
  rw [String.toList_ofList]
  decide +kernel

/-- What is written from the right lies beyond ASCII. -/
theorem le_of_right {code : Nat}
    (right : directionOf code = .right ∨ directionOf code = .rightNumber)
    : 128 ≤ code := by
  have beyond {ranges : List (Nat × Nat)} (all : ∀ range ∈ ranges, 128 ≤ range.1)
      (inside : Text.inRanges ranges code = true) : 128 ≤ code := by
    obtain ⟨range, member, inside⟩ := List.any_eq_true.mp inside
    rw [Bool.and_eq_true, decide_eq_true_eq] at inside
    exact Nat.le_trans (all range member) inside.1
  unfold directionOf at right
  split at right
  · simp at right
  · split at right
    · next inside => exact beyond le_of_mem_rightNumberRanges inside
    · split at right
      · simp at right
      · split at right
        · next inside => exact beyond le_of_mem_rightRanges inside
        · split at right <;> simp at right

theorem holdsRight_of_isAscii {label : List Char} (ascii : ∀ c ∈ label, isAscii c = true)
    : holdsRight label = false := by
  refine Bool.eq_false_iff.mpr fun right => ?_
  obtain ⟨c, member, right⟩ := List.any_eq_true.mp right
  have small : c.toNat < 128 := of_decide_eq_true (ascii c member)
  have large : 128 ≤ c.toNat := by
    refine le_of_right ?_
    simpa using right
  omega

theorem toLower_of_isAscii {c : Char} (ascii : isAscii c = true)
    : isAscii c.toLower = true ∧ c.toLower.toLower = c.toLower := by
  have all : ∀ n < 128, isAscii (Char.ofNat n).toLower = true
      ∧ (Char.ofNat n).toLower.toLower = (Char.ofNat n).toLower := by
    decide
  have found := all c.toNat (of_decide_eq_true ascii)
  rwa [Char.ofNat_toNat] at found

theorem isAscii_of_mem_toLower {cs : List Char} (ascii : ∀ c ∈ cs, isAscii c = true)
    : ∀ c ∈ cs.map Char.toLower, isAscii c = true :=
  List.forall_mem_map.mpr fun c member => (toLower_of_isAscii (ascii c member)).1

/-- A text in ASCII counts in small letters. -/
theorem mapped?_of_isAscii {cs : List Char} (ascii : ∀ c ∈ cs, isAscii c = true)
    : mapped? cs = some (cs.map Char.toLower) := by
  have each : cs.mapM mapChar? = some (cs.map fun c => [c.toLower]) := by
    rw [mapM_some_iff, List.map_map]
    exact List.map_congr_left fun c member => if_pos (ascii c member)
  have whole : (cs.map fun c => [c.toLower]).flatten = cs.map Char.toLower := by
    rw [← List.flatMap_def]
    exact List.map_eq_flatMap.symm
  have kept : composed (cs.map Char.toLower) = cs.map Char.toLower :=
    if_pos (List.all_eq_true.mpr (isAscii_of_mem_toLower ascii))
  rw [mapped?, each]
  change some (composed _) = _
  rw [whole, kept]

/-- The labels of a name in small letters are good ones; they may stand for labels beyond ASCII. -/
def hasGoodLabels (name : List Char) : Bool :=
  ((sections (· == '.') name).mapM readLabel?).any fun meant =>
    name.all isAllowed && meant.all isLabel && areDirected meant

/-- A text in ASCII is its own name, but for the case of its letters. -/
theorem toAscii?_of_isAscii {cs : List Char} (ascii : ∀ c ∈ cs, isAscii c = true)
    : toAscii? cs = if hasGoodLabels (cs.map Char.toLower) then some (cs.map Char.toLower)
        else none := by
  have small := isAscii_of_mem_toLower ascii
  rw [toAscii?, mapped?_of_isAscii ascii]
  generalize cs.map Char.toLower = name at small
  have written : (sections (· == '.') name).mapM writeLabel? = some (sections (· == '.') name) := by
    rw [mapM_some_iff]
    refine List.map_congr_left fun label found => if_pos (List.all_eq_true.mpr fun c inside => ?_)
    exact small c (Text.mem_of_mem_sections label found inside)
  have whole : ['.'].intercalate (sections (· == '.') name) = name :=
    Text.intercalate_sections (fun c => beq_iff_eq.mp) name
  change (((sections (· == '.') name).mapM readLabel?).bind _) = _
  rw [hasGoodLabels]
  cases (sections (· == '.') name).mapM readLabel? with
  | none => rfl
  | some meant =>
      change (if _ then _ else _) = if (name.all isAllowed && meant.all isLabel && areDirected meant)
        then _ else _
      rw [written]
      split
      · exact congrArg some whole
      · rfl

/-- The name of a text in ASCII is its own name. -/
theorem toAscii?_again {cs name : List Char} (ascii : ∀ c ∈ cs, isAscii c = true)
    (h : toAscii? cs = some name)
    : toAscii? name = some name := by
  rw [toAscii?_of_isAscii ascii] at h
  split at h
  · next good =>
    obtain rfl := Option.some.inj h
    have again : (cs.map Char.toLower).map Char.toLower = cs.map Char.toLower := by
      rw [List.map_map]
      exact List.map_congr_left fun c member => (toLower_of_isAscii (ascii c member)).2
    rw [toAscii?_of_isAscii (isAscii_of_mem_toLower ascii), again, if_pos good]
  · cases h

/-- A name in small letters without marked labels is its own name. -/
theorem toAscii?_of_isPlain {cs : List Char} (plain : ∀ c ∈ cs, IsPlain c)
    (small : ∀ c ∈ cs, c.toLower = c)
    (unmarked : ∀ label ∈ sections (· == '.') cs, punycodeMark.isPrefixOf label = false)
    : toAscii? cs = some cs := by
  have ascii : ∀ label ∈ sections (· == '.') cs, ∀ c ∈ label, isAscii c = true :=
    fun label found c inside => (plain c (Text.mem_of_mem_sections label found inside)).1
  have meant : (sections (· == '.') cs).mapM readLabel? = some (sections (· == '.') cs) := by
    rw [mapM_some_iff]
    refine List.map_congr_left fun label found => ?_
    rw [readLabel?, unmarked label found]
    rfl
  have good : hasGoodLabels cs = true := by
    have allowed : cs.all isAllowed = true :=
      List.all_eq_true.mpr fun c member => (plain c member).2
    have labels : (sections (· == '.') cs).all isLabel = true := by
      refine List.all_eq_true.mpr fun label found => ?_
      rw [isLabel, List.all_eq_true.mpr (ascii label found), Bool.true_or]
    have noneRight : (sections (· == '.') cs).any holdsRight = false :=
      List.any_eq_false.mpr fun label found =>
        Bool.eq_false_iff.mp (holdsRight_of_isAscii (ascii label found))
    rw [hasGoodLabels, meant, Option.any_some, allowed, labels, areDirected, noneRight]
    rfl
  have same : cs.map Char.toLower = cs := (List.map_congr_left small).trans (List.map_id' cs)
  rw [toAscii?_of_isAscii fun c member => (plain c member).1, same, if_pos good]

end NodeTrial.Domain
