import NodeTrial.Proofs.Json.Skip

/-! Readings that go by what they take. Such a reading takes a piece off the front of a text, and
takes the same piece off before any other rest that does not extend a number. Readings put together
from such readings are such readings again.
-/

namespace NodeTrial.Json

open Text (Symbol)

variable {α β σ ι : Type}

/-- A reading: which texts it takes a piece off, and what it leaves of them. -/
abbrev Reading := List Symbol → List Symbol → Prop

/-- A text may stand in the place of the rest of a reading: it starts with the same symbol, or with
none that could extend a number.
-/
def Replaces (other rest : List Symbol) : Prop :=
  EndsNumber other ∨ ∃ s after before, other = s :: after ∧ rest = s :: before

/-- A reading goes by what it takes: it takes the same piece off before every other rest. -/
def Local (p : Reading) : Prop :=
  ∀ input rest, p input rest →
    ∃ taken, input = taken ++ rest ∧ ∀ other, Replaces other rest → p (taken ++ other) other

/-- A reading takes at least one symbol. -/
def Advances (p : Reading) : Prop :=
  ∀ input rest, p input rest → rest.length < input.length

-----------------------------------------------------------------------------------------
-- Readings put together
-----------------------------------------------------------------------------------------

theorem Replaces.append {other rest : List Symbol} (replaces : Replaces other rest)
    (taken : List Symbol)
    : Replaces (taken ++ other) (taken ++ rest) := by
  cases taken with
  | nil => exact replaces
  | cons s taken => exact .inr ⟨s, taken ++ other, taken ++ rest, rfl, rfl⟩

theorem Replaces.head {other rest : List Symbol} (replaces : Replaces other rest)
    {P : Symbol → Prop} (rests : ∀ s ∈ rest.head?, P s)
    (ends : ∀ s, digitOf? s = none → s ≠ .char '.' → s ≠ .char 'e' → s ≠ .char 'E' → P s)
    : ∀ s ∈ other.head?, P s := by
  rcases replaces with stops | ⟨s, after, before, rfl, rfl⟩
  · intro s first
    obtain ⟨noDigit, noPoint, noMark, noMark'⟩ := stops s first
    exact ends s noDigit noPoint noMark noMark'
  · exact rests

namespace Local

variable {p q : Reading}

theorem congr (loc : Local p) (same : ∀ input rest, q input rest ↔ p input rest) : Local q := by
  intro input rest read
  obtain ⟨taken, whole, again⟩ := loc _ _ ((same input rest).mp read)
  exact ⟨taken, whole, fun other replaces => (same _ _).mpr (again other replaces)⟩

/-- A reading that leaves at least as much as it takes off nothing. -/
theorem length_le (loc : Local p) {input rest : List Symbol} (read : p input rest)
    : rest.length ≤ input.length := by
  obtain ⟨taken, rfl, -⟩ := loc _ _ read
  simp

theorem seq (first : Local p) (second : Local q)
    : Local fun input rest => ∃ middle, p input middle ∧ q middle rest := by
  rintro input rest ⟨middle, read, next⟩
  obtain ⟨taken, rfl, again⟩ := first _ _ read
  obtain ⟨more, rfl, further⟩ := second _ _ next
  refine ⟨taken ++ more, (List.append_assoc _ _ _).symm, fun other replaces => ?_⟩
  rw [List.append_assoc]
  exact ⟨more ++ other, again _ (replaces.append more), further other replaces⟩

theorem or (first : Local p) (second : Local q)
    : Local fun input rest => p input rest ∨ q input rest := by
  rintro input rest (read | read)
  · obtain ⟨taken, whole, again⟩ := first _ _ read
    exact ⟨taken, whole, fun other replaces => .inl (again other replaces)⟩
  · obtain ⟨taken, whole, again⟩ := second _ _ read
    exact ⟨taken, whole, fun other replaces => .inr (again other replaces)⟩

theorem some {p : ι → Reading} (each : ∀ x, Local (p x))
    : Local fun input rest => ∃ x, p x input rest := by
  rintro input rest ⟨x, read⟩
  obtain ⟨taken, whole, again⟩ := each x _ _ read
  exact ⟨taken, whole, fun other replaces => ⟨x, again other replaces⟩⟩

/-- A condition on the answer alone does not look at the text. -/
theorem given (loc : Local p) (P : Prop) : Local fun input rest => P ∧ p input rest := by
  rintro input rest ⟨holds, read⟩
  obtain ⟨taken, whole, again⟩ := loc _ _ read
  exact ⟨taken, whole, fun other replaces => ⟨holds, again other replaces⟩⟩

theorem nothing : Local fun input rest => input = rest := by
  rintro input _ rfl
  exact ⟨[], rfl, fun other _ => rfl⟩

theorem never {p : Reading} (fails : ∀ input rest, ¬ p input rest) : Local p :=
  fun _ _ read => absurd read (fails _ _)

theorem symbol (s : Symbol) : Local fun input rest => input = s :: rest := by
  rintro input rest rfl
  exact ⟨[s], rfl, fun other _ => rfl⟩

/-- A reading ends where it is, if what comes next may not be taken too. -/
theorem stops {P : Symbol → Prop}
    (ends : ∀ s, digitOf? s = none → s ≠ .char '.' → s ≠ .char 'e' → s ≠ .char 'E' → P s)
    : Local fun input rest => input = rest ∧ ∀ s ∈ rest.head?, P s := by
  rintro input _ ⟨rfl, stop⟩
  exact ⟨[], rfl, fun other replaces => ⟨rfl, replaces.head stop ends⟩⟩

end Local

-----------------------------------------------------------------------------------------
-- Blanks and literals
-----------------------------------------------------------------------------------------

/-- A symbol comes first after the blanks of a text. -/
theorem skipSpace_eq_cons_iff {input rest : List Symbol} {s : Symbol}
    : skipSpace input = s :: rest
      ↔ isSpace s = false
        ∧ ∃ blanks, input = blanks ++ s :: rest ∧ ∀ b ∈ blanks, isSpace b = true := by
  constructor
  · intro start
    refine ⟨?_, input.takeWhile isSpace, ?_, ?_⟩
    · have solid := List.head?_dropWhile_not isSpace input
      rw [skipSpace] at start
      simpa [start] using solid
    · rw [← start, skipSpace, List.takeWhile_append_dropWhile]
    · exact List.all_eq_true.mp List.all_takeWhile
  · rintro ⟨solid, blanks, rfl, blank⟩
    rw [skipSpace, List.dropWhile_append_of_pos blank]
    exact skipSpace_cons rest solid

namespace Local

theorem spaced (s : Symbol) : Local fun input rest => skipSpace input = s :: rest := by
  intro input rest start
  obtain ⟨solid, blanks, rfl, blank⟩ := skipSpace_eq_cons_iff.mp start
  refine ⟨blanks ++ [s], by simp, fun other _ => ?_⟩
  exact skipSpace_eq_cons_iff.mpr ⟨solid, blanks, by simp, blank⟩

/-- A reading from the first symbol after the blanks, which may be looked at. -/
theorem found {p : Reading} (loc : Local p) (advances : Advances p) (P : Symbol → Prop)
    : Local fun input rest => ∃ s after, skipSpace input = s :: after ∧ P s ∧ p (s :: after) rest := by
  rintro input rest ⟨s, after, start, good, read⟩
  obtain ⟨solid, blanks, rfl, blank⟩ := skipSpace_eq_cons_iff.mp start
  obtain ⟨taken, whole, again⟩ := loc _ _ read
  cases taken with
  | nil => exact absurd (advances _ _ read) (by rw [whole]; exact Nat.lt_irrefl _)
  | cons t taken =>
      obtain ⟨rfl, rfl⟩ := List.cons.inj whole
      refine ⟨blanks ++ s :: taken, by simp, fun other replaces => ?_⟩
      refine ⟨s, taken ++ other, ?_, good, again other replaces⟩
      exact skipSpace_eq_cons_iff.mpr ⟨solid, blanks, by simp, blank⟩

theorem literal (cs : List Char)
    : Local fun input rest => Json.literal input cs = .ok rest := by
  induction cs with
  | nil =>
      refine nothing.congr fun input rest => ?_
      rw [Json.literal, Except.ok.injEq]
  | cons c cs ih =>
      refine ((symbol (.char c)).seq ih).congr fun input rest => ?_
      cases input with
      | nil => simp [Json.literal]
      | cons s input =>
          rw [Json.literal]
          split
          · next same => simp [same]
          · next other => simp [other]

end Local

end NodeTrial.Json
