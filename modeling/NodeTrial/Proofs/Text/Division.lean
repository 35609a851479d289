import NodeTrial.Text.Division

/-! Parts of a text. They make up the text, its sections hold no marks, and a text put together from
sections without marks is divided into the same sections again.
-/

namespace NodeTrial.Text

variable {mark : Char → Bool}

/-- The parts before and after a mark make up the text, by induction on its characters. -/
theorem eq_of_splitFirst? {cs : List Char}
    : ∀ {before after : List Char}, splitFirst? mark cs = some (before, after) →
        ∃ m, mark m = true ∧ cs = before ++ m :: after := by
  induction cs with
  | nil => exact nofun
  | cons c cs ih =>
      intro before after h
      rw [splitFirst?] at h
      split at h
      · next marked =>
        cases h
        exact ⟨c, marked, rfl⟩
      · obtain ⟨⟨front, _⟩, parts, same⟩ := Option.map_eq_some_iff.mp h
        cases same
        obtain ⟨m, marked, whole⟩ := ih parts
        exact ⟨m, marked, congrArg (c :: ·) whole⟩

/-- A text is divided first at the mark that no mark stands before, by induction on the part before
it.
-/
theorem splitFirst?_append {before : List Char} {m : Char} (marked : mark m = true)
    (after : List Char) (unmarked : ∀ c ∈ before, mark c = false)
    : splitFirst? mark (before ++ m :: after) = some (before, after) := by
  induction before with
  | nil => rw [List.nil_append, splitFirst?, if_pos marked]
  | cons c before ih =>
      have first : ¬ mark c = true := by simp [unmarked c List.mem_cons_self]
      rw [List.cons_append, splitFirst?, if_neg first,
        ih fun d member => unmarked d (List.mem_cons_of_mem c member)]
      rfl

/-- A text without marks has no first one, by induction on its characters. -/
theorem splitFirst?_of_unmarked {cs : List Char} (unmarked : ∀ c ∈ cs, mark c = false)
    : splitFirst? mark cs = none := by
  induction cs with
  | nil => rfl
  | cons c cs ih =>
      have first : ¬ mark c = true := by simp [unmarked c List.mem_cons_self]
      rw [splitFirst?, if_neg first, ih fun d member => unmarked d (List.mem_cons_of_mem c member)]
      rfl

/-- A text without marks has no last one, by induction on its characters. -/
theorem splitLast?_of_unmarked {cs : List Char} (unmarked : ∀ c ∈ cs, mark c = false)
    : splitLast? mark cs = none := by
  induction cs with
  | nil => rfl
  | cons c cs ih =>
      have first : ¬ mark c = true := by simp [unmarked c List.mem_cons_self]
      have others := ih fun d member => unmarked d (List.mem_cons_of_mem c member)
      simp only [splitLast?, others, if_neg first]

/-- A text is divided last at the mark that no mark stands after, by induction on the part before
it.
-/
theorem splitLast?_append {m : Char} (marked : mark m = true) {after : List Char}
    (unmarked : ∀ c ∈ after, mark c = false) (before : List Char)
    : splitLast? mark (before ++ m :: after) = some (before, after) := by
  induction before with
  | nil => simp only [List.nil_append, splitLast?, splitLast?_of_unmarked unmarked, if_pos marked]
  | cons c before ih => simp only [List.cons_append, splitLast?, ih]

/-- A text has no marks, or it has a last one. -/
theorem unmarked_or_last (mark : Char → Bool) (cs : List Char)
    : (∀ c ∈ cs, mark c = false)
      ∨ ∃ before m after, cs = before ++ m :: after ∧ mark m = true
          ∧ ∀ c ∈ after, mark c = false := by
  induction cs with
  | nil => exact .inl nofun
  | cons c cs ih =>
      rcases ih with unmarked | ⟨before, m, after, rfl, marked, unmarked⟩
      · cases first : mark c with
        | false => exact .inl (List.forall_mem_cons.mpr ⟨first, unmarked⟩)
        | true => exact .inr ⟨[], c, cs, rfl, first, unmarked⟩
      · exact .inr ⟨c :: before, m, after, rfl, marked, unmarked⟩

/-- A text without marks is one section, by induction on its characters. -/
theorem sections_of_unmarked {cs : List Char}
    (unmarked : ∀ c ∈ cs, mark c = false)
    : sections mark cs = [cs] := by
  induction cs with
  | nil => rfl
  | cons c cs ih =>
      have first : ¬ mark c = true := by simp [unmarked c List.mem_cons_self]
      rw [sections, if_neg first, ih fun d member => unmarked d (List.mem_cons_of_mem c member)]

/-- A mark ends a section, by induction on the section. -/
theorem sections_append {cs : List Char} {m : Char} (marked : mark m = true)
    (rest : List Char) (unmarked : ∀ c ∈ cs, mark c = false)
    : sections mark (cs ++ m :: rest) = cs :: sections mark rest := by
  induction cs with
  | nil => rw [List.nil_append, sections, if_pos marked]
  | cons c cs ih =>
      have first : ¬ mark c = true := by simp [unmarked c List.mem_cons_self]
      rw [List.cons_append, sections, if_neg first,
        ih fun d member => unmarked d (List.mem_cons_of_mem c member)]

/-- The sections of a text hold no marks, by induction on its characters. -/
theorem unmarked_of_mem_sections {cs : List Char}
    : ∀ part ∈ sections mark cs, ∀ c ∈ part, mark c = false := by
  induction cs with
  | nil => exact List.forall_mem_singleton.mpr nofun
  | cons c cs ih =>
      rw [sections]
      split
      · exact List.forall_mem_cons.mpr ⟨nofun, ih⟩
      · next plain =>
        have plain : mark c = false := Bool.eq_false_iff.mpr plain
        split
        · exact List.forall_mem_singleton.mpr (List.forall_mem_singleton.mpr plain)
        · next first others parts =>
          rw [parts] at ih
          obtain ⟨head, tail⟩ := List.forall_mem_cons.mp ih
          exact List.forall_mem_cons.mpr ⟨List.forall_mem_cons.mpr ⟨plain, head⟩, tail⟩

/-- Parts without marks are the sections of a text in which each of them ends with a mark; an empty
one comes after them. By induction on the parts.
-/
theorem sections_ended {m : Char} (marked : mark m = true) {parts : List (List Char)}
    (unmarked : ∀ part ∈ parts, ∀ c ∈ part, mark c = false)
    : sections mark (parts.flatMap (· ++ [m])) = parts ++ [[]] := by
  induction parts with
  | nil => rfl
  | cons part parts ih =>
      obtain ⟨head, tail⟩ := List.forall_mem_cons.mp unmarked
      rw [List.flatMap_cons, List.append_assoc, List.singleton_append,
        sections_append marked _ head, ih tail, List.cons_append]

/-- The sections of a text hold only its characters, by induction on these. -/
theorem mem_of_mem_sections {cs : List Char} {c : Char}
    : ∀ part ∈ sections mark cs, c ∈ part → c ∈ cs := by
  induction cs with
  | nil => exact List.forall_mem_singleton.mpr nofun
  | cons d cs ih =>
      rw [sections]
      split
      · refine List.forall_mem_cons.mpr ⟨nofun, fun part member inside => ?_⟩
        exact List.mem_cons_of_mem d (ih part member inside)
      · split
        · exact List.forall_mem_singleton.mpr fun inside =>
            List.mem_singleton.mp inside ▸ List.mem_cons_self
        · next first others parts =>
          rw [parts] at ih
          obtain ⟨head, tail⟩ := List.forall_mem_cons.mp ih
          refine List.forall_mem_cons.mpr ⟨fun inside => ?_, fun part member inside => ?_⟩
          · exact List.mem_cons.mpr ((List.mem_cons.mp inside).imp_right head)
          · exact List.mem_cons_of_mem d (tail part member inside)

/-- Parts without marks are the sections of the text in which a mark stands between any two of them,
by induction on the parts.
-/
theorem sections_intercalate {m : Char} (marked : mark m = true) {parts : List (List Char)}
    (some : parts ≠ []) (unmarked : ∀ part ∈ parts, ∀ c ∈ part, mark c = false)
    : sections mark ([m].intercalate parts) = parts := by
  induction parts with
  | nil => exact absurd rfl some
  | cons part parts ih =>
      obtain ⟨head, tail⟩ := List.forall_mem_cons.mp unmarked
      cases parts with
      | nil => rw [List.intercalate_singleton, sections_of_unmarked head]
      | cons next rest =>
          rw [List.intercalate_cons_cons, List.append_assoc, List.singleton_append,
            sections_append marked _ head, ih (List.cons_ne_nil _ _) tail]

theorem sections_ne_nil (mark : Char → Bool) (cs : List Char) : sections mark cs ≠ [] := by
  cases cs with
  | nil => exact List.cons_ne_nil _ _
  | cons c cs =>
      rw [sections]
      split
      · exact List.cons_ne_nil _ _
      · split <;> exact List.cons_ne_nil _ _

/-- A text is its sections with the one mark between any two of them, by induction on its characters.
-/
theorem intercalate_sections {m : Char} (only : ∀ c, mark c = true → c = m) (cs : List Char)
    : [m].intercalate (sections mark cs) = cs := by
  induction cs with
  | nil => rfl
  | cons c cs ih =>
      obtain ⟨first, others, parts⟩ := List.exists_cons_of_ne_nil (sections_ne_nil mark cs)
      rw [parts] at ih
      rw [sections, parts]
      split
      · next marked => rw [List.intercalate_cons_cons, ih, only c marked]; rfl
      · cases others with
        | nil =>
            rw [List.intercalate_singleton] at ih
            rw [List.intercalate_singleton, ih]
        | cons next rest =>
            rw [List.intercalate_cons_cons] at ih
            rw [List.intercalate_cons_cons, List.cons_append, List.cons_append, ih]

/-- What stands in parts with marks between them is a mark or stands in a part, by induction on them. -/
theorem mem_of_mem_intercalate {m c : Char} {parts : List (List Char)}
    (member : c ∈ [m].intercalate parts)
    : c = m ∨ ∃ part ∈ parts, c ∈ part := by
  induction parts with
  | nil => cases member
  | cons part parts ih =>
      cases parts with
      | nil =>
          rw [List.intercalate_singleton] at member
          exact .inr ⟨part, List.mem_cons_self, member⟩
      | cons next rest =>
          rw [List.intercalate_cons_cons, List.append_assoc, List.mem_append, List.singleton_append,
            List.mem_cons] at member
          rcases member with inside | rfl | further
          · exact .inr ⟨part, List.mem_cons_self, inside⟩
          · exact .inl rfl
          · obtain same | ⟨later, found, inside⟩ := ih further
            · exact .inl same
            · exact .inr ⟨later, List.mem_cons_of_mem part found, inside⟩

/-- What stands before a mark is the front part. -/
theorem upTo_append {front : List Char} (unmarked : ∀ c ∈ front, mark c = false)
    {rest : List Char} (ended : rest.head?.all mark = true)
    : upTo mark (front ++ rest) = (front, rest) := by
  have kept : ∀ c ∈ front, (!mark c) = true := fun c member => by rw [unmarked c member]; rfl
  have stops : rest.takeWhile (fun c => !mark c) = [] ∧ rest.dropWhile (fun c => !mark c) = rest := by
    cases rest with
    | nil => exact ⟨rfl, rfl⟩
    | cons c rest =>
        have marked : mark c = true := ended
        simp [marked]
  rw [upTo, List.takeWhile_append_of_pos kept, List.dropWhile_append_of_pos kept, stops.1, stops.2,
    List.append_nil]

/-- A text without marks is its own front part. -/
theorem upTo_of_unmarked {cs : List Char} (unmarked : ∀ c ∈ cs, mark c = false)
    : upTo mark cs = (cs, []) := by
  have whole : upTo mark (cs ++ []) = (cs, []) := upTo_append unmarked rfl
  rwa [List.append_nil] at whole

end NodeTrial.Text
