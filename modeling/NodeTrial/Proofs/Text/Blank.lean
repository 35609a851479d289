import NodeTrial.Text.Blank

/-! Trimming. What is trimmed stands between runs of blanks, is empty if it has nothing but blanks,
and is found again wherever it has no blanks itself.
-/

namespace NodeTrial.Text

/-- The characters with the property White_Space, one by one. -/
def whiteSpace : List Char :=
  ['\t', '\n', '\x0b', '\x0c', '\r', ' ', '\u0085', '\u00a0', '\u1680', '\u2000', '\u2001',
    '\u2002', '\u2003', '\u2004', '\u2005', '\u2006', '\u2007', '\u2008', '\u2009', '\u200a',
    '\u2028', '\u2029', '\u202f', '\u205f', '\u3000']

/-- The codes of the blank ranges are those of white space, range by range. -/
theorem ofNat_mem_whiteSpace
    : ∀ range ∈ blankRanges, ∀ k < range.2 + 1 - range.1, Char.ofNat (range.1 + k) ∈ whiteSpace := by
  decide

theorem isBlank_iff_mem_whiteSpace {c : Char} : isBlank c = true ↔ c ∈ whiteSpace := by
  constructor
  · intro blank
    obtain ⟨range, member, within⟩ := List.any_eq_true.mp blank
    obtain ⟨low, high⟩ := Bool.and_eq_true_iff.mp within
    have above := of_decide_eq_true low
    have below := of_decide_eq_true high
    have found := ofNat_mem_whiteSpace range member (c.toNat - range.1) (by omega)
    rwa [Nat.add_sub_cancel' above, Char.ofNat_toNat] at found
  · intro member
    have all : whiteSpace.all isBlank = true := by decide
    exact List.all_eq_true.mp all c member

/-- Blank characters, any number of them. -/
def Blanks (cs : List Char) : Prop :=
  ∀ c ∈ cs, isBlank c = true

instance (cs : List Char) : Decidable (Blanks cs) :=
  List.decidableBAll (fun c => isBlank c = true) cs

variable {cs front core back : List Char}

theorem Blanks.reverse (blank : Blanks cs) : Blanks cs.reverse :=
  fun c member => blank c (List.mem_reverse.mp member)

theorem dropWhile_of_solid (solid : ∀ c ∈ cs, isBlank c = false) : cs.dropWhile isBlank = cs := by
  cases cs with
  | nil => rfl
  | cons c rest =>
      rw [List.dropWhile_cons_of_neg]
      simp [solid c List.mem_cons_self]

/-- Blanks around a text without blanks are all that is trimmed off. -/
theorem trimChars_surrounded (before : Blanks front) (solid : ∀ c ∈ core, isBlank c = false)
    (after : Blanks back)
    : trimChars (front ++ core ++ back) = core := by
  rw [trimChars, List.append_assoc, List.dropWhile_append_of_pos before]
  cases core with
  | nil =>
      have none : (back ++ []).dropWhile isBlank = [] := List.dropWhile_append_of_pos after
      rw [List.append_nil] at none
      rw [List.nil_append, none]
      rfl
  | cons c rest =>
      have first : ¬ isBlank c = true := by simp [solid c List.mem_cons_self]
      have solidBack : ∀ d ∈ (c :: rest).reverse, isBlank d = false :=
        fun d member => solid d (List.mem_reverse.mp member)
      rw [List.cons_append, List.dropWhile_cons_of_neg first, ← List.cons_append,
        List.reverse_append, List.dropWhile_append_of_pos after.reverse,
        dropWhile_of_solid solidBack, List.reverse_reverse]

/-- Trimming changes nothing where no character is blank. -/
theorem trimChars_of_solid (solid : ∀ c ∈ cs, isBlank c = false) : trimChars cs = cs := by
  have trimmed := trimChars_surrounded (List.forall_mem_nil _) solid (List.forall_mem_nil _)
  rwa [List.nil_append, List.append_nil] at trimmed

theorem blanks_takeWhile (cs : List Char) : Blanks (cs.takeWhile isBlank) :=
  List.all_eq_true.mp List.all_takeWhile

/-- Only blanks are trimmed off, and only at the two ends. -/
theorem exists_surroundings (cs : List Char)
    : ∃ front back, Blanks front ∧ Blanks back ∧ cs = front ++ trimChars cs ++ back := by
  refine ⟨cs.takeWhile isBlank, ((cs.dropWhile isBlank).reverse.takeWhile isBlank).reverse,
    blanks_takeWhile cs, (blanks_takeWhile _).reverse, ?_⟩
  rw [trimChars, List.append_assoc, ← List.reverse_append, List.takeWhile_append_dropWhile,
    List.reverse_reverse, List.takeWhile_append_dropWhile]

/-- A trimmed text of blanks is empty: its last character would have been trimmed off. -/
theorem eq_nil_of_blanks_trimChars (blank : Blanks (trimChars cs)) : trimChars cs = [] := by
  rw [trimChars, List.reverse_eq_nil_iff]
  refine Classical.byContradiction fun some => ?_
  have first := List.head_dropWhile_not isBlank some
  have all : isBlank (((cs.dropWhile isBlank).reverse.dropWhile isBlank).head some) = true :=
    blank _ (List.mem_reverse.mpr (List.head_mem some))
  rw [first] at all
  cases all

theorem isBlankText_iff {s : String} : isBlankText s = true ↔ Blanks s.toList :=
  List.all_eq_true

/-- Trimming leaves nothing of a blank text, and something of any other. -/
theorem trim_eq_empty_iff {s : String} : trim s = "" ↔ isBlankText s = true := by
  rw [isBlankText_iff, trim, ← String.toList_inj, String.toList_ofList, String.toList_empty]
  obtain ⟨front, back, blankFront, blankBack, whole⟩ := exists_surroundings s.toList
  constructor
  · intro none
    rw [whole, none, List.append_nil]
    exact fun c member => (List.mem_append.mp member).elim (blankFront c) (blankBack c)
  · intro blank
    refine eq_nil_of_blanks_trimChars fun c member => blank c ?_
    rw [whole]
    exact List.mem_append_left _ (List.mem_append_right _ member)

end NodeTrial.Text
