import NodeTrial.Proofs.Ledger.Argument

/-! The grammar of account arguments. An argument gives an account exactly if it is a plain key, an
equals sign and a numeral of a 64-bit balance, with blanks around the key and the numeral; any other
argument is refused for the first of three reasons.
-/

namespace NodeTrial

/-- What is wrong with a trimmed key: nothing is left of it, or a blank stands inside. -/
inductive KeyProblem.Spoils : KeyProblem → List Char → Prop where
  | empty : Spoils .empty []
  | blank {key : List Char} {c : Char} (inside : c ∈ key) (blank : Text.isBlank c = true)
    : Spoils .blank key

theorem KeyProblem.of?_trimmed {problem : KeyProblem} {cs : List Char}
    : of? (String.ofList (Text.trimChars cs)) = some problem
      ↔ problem.Spoils (Text.trimChars cs) := by
  rw [of?, Text.isBlankText, String.toList_ofList]
  cases all : (Text.trimChars cs).all Text.isBlank with
  | true =>
      rw [Text.eq_nil_of_blanks_trimChars (List.all_eq_true.mp all)]
      constructor
      · rintro ⟨⟩
        exact .empty
      · rintro (_ | ⟨inside, -⟩)
        · rfl
        · cases inside
  | false =>
      cases some : (Text.trimChars cs).any Text.isBlank with
      | true =>
          obtain ⟨c, inside, blank⟩ := List.any_eq_true.mp some
          constructor
          · rintro ⟨⟩
            exact .blank inside blank
          · intro spoils
            generalize Text.trimChars cs = key at all spoils
            cases spoils with
            | empty => cases all
            | blank => rfl
      | false =>
          refine iff_of_false ?_ fun spoils => ?_
          · rintro ⟨⟩
          · generalize Text.trimChars cs = key at all some spoils
            cases spoils with
            | empty => cases all
            | blank inside blank => exact absurd blank (List.any_eq_false.mp some _ inside)

namespace Ledger

variable {arg key : String} {held : UInt64} {before after : List Char}

-----------------------------------------------------------------------------------------
-- The outcomes of reading
-----------------------------------------------------------------------------------------

/-- The parts of an argument before and after its first equals sign. -/
structure Parts (arg : String) (before after : List Char) : Prop where
  whole : arg.toList = before ++ '=' :: after
  first : '=' ∉ before

theorem undivided_or_parts (arg : String)
    : '=' ∉ arg.toList ∨ ∃ before after, Parts arg before after := by
  by_cases divided : '=' ∈ arg.toList
  · obtain ⟨before, after, whole, first⟩ := List.eq_append_cons_of_mem divided
    exact .inr ⟨before, after, whole, first⟩
  · exact .inl divided

theorem Parts.splitFirst? (parts : Parts arg before after)
    : Text.splitFirst? (· == '=') arg.toList = some (before, after) := by
  rw [parts.whole]
  exact Text.splitFirst?_append rfl after fun c member =>
    beq_eq_false_iff_ne.mpr fun same => parts.first (same ▸ member)

/-- What an argument is read as: the first thing that is wrong with it, or its account. -/
inductive ReadsAs (arg : String) : Except ArgumentError (String × UInt64) → Prop where
  | undivided (none : '=' ∉ arg.toList) : ReadsAs arg (.error (.missingSeparator arg))
  | spoilt {before after : List Char} {problem : KeyProblem} (parts : Parts arg before after)
    (spoils : problem.Spoils (Text.trimChars before))
    : ReadsAs arg (.error (.invalidKey arg problem))
  | unspelled {before after : List Char} (parts : Parts arg before after)
    (fine : ∀ problem : KeyProblem, ¬ problem.Spoils (Text.trimChars before))
    (none : ∀ held : UInt64, ¬ Text.IsNumeral (Text.trimChars after) held.toNat)
    : ReadsAs arg (.error (.badBalance (String.ofList (Text.trimChars after))))
  | account {before after : List Char} {held : UInt64} (parts : Parts arg before after)
    (fine : ∀ problem : KeyProblem, ¬ problem.Spoils (Text.trimChars before))
    (numeral : Text.IsNumeral (Text.trimChars after) held.toNat)
    : ReadsAs arg (.ok (String.ofList (Text.trimChars before), held))

theorem exists_readsAs (arg : String) : ∃ result, ReadsAs arg result := by
  rcases undivided_or_parts arg with none | ⟨before, after, parts⟩
  · exact ⟨_, .undivided none⟩
  · by_cases spoilt : ∃ problem : KeyProblem, problem.Spoils (Text.trimChars before)
    · obtain ⟨problem, spoils⟩ := spoilt
      exact ⟨_, .spoilt parts spoils⟩
    · have fine := not_exists.mp spoilt
      by_cases spelled : ∃ held : UInt64, Text.IsNumeral (Text.trimChars after) held.toNat
      · obtain ⟨held, numeral⟩ := spelled
        exact ⟨_, .account parts fine numeral⟩
      · exact ⟨_, .unspelled parts fine (not_exists.mp spelled)⟩

/-- A key that nothing is wrong with passes the check of keys. -/
theorem of?_of_fine (fine : ∀ problem : KeyProblem, ¬ problem.Spoils (Text.trimChars before))
    : KeyProblem.of? (String.ofList (Text.trimChars before)) = none :=
  Option.eq_none_iff_forall_ne_some.mpr fun problem found =>
    fine problem (KeyProblem.of?_trimmed.mp found)

/-- The outcome of an argument is what it is read as, by its cases. -/
theorem readArgument_of_readsAs {result : Except ArgumentError (String × UInt64)}
    (reads : ReadsAs arg result)
    : readArgument arg = result := by
  cases reads with
  | undivided none =>
      have unmarked : Text.splitFirst? (· == '=') arg.toList = Option.none :=
        Text.splitFirst?_of_unmarked fun c member =>
          beq_eq_false_iff_ne.mpr fun same => none (same ▸ member)
      simp only [readArgument, unmarked]
  | spoilt parts spoils =>
      simp only [readArgument, parts.splitFirst?, KeyProblem.of?_trimmed.mpr spoils]
  | unspelled parts fine none =>
      have unread : Text.word? (String.ofList (Text.trimChars _)) = Option.none :=
        Option.eq_none_iff_forall_ne_some.mpr fun held read =>
          none held (Text.word?_ofList_iff.mp read)
      simp only [readArgument, parts.splitFirst?, of?_of_fine fine, unread]
  | account parts fine numeral =>
      simp only [readArgument, parts.splitFirst?, of?_of_fine fine,
        Text.word?_ofList_iff.mpr numeral]

theorem readArgument_eq_iff {result : Except ArgumentError (String × UInt64)}
    : readArgument arg = result ↔ ReadsAs arg result := by
  refine ⟨?_, readArgument_of_readsAs⟩
  rintro rfl
  obtain ⟨result, reads⟩ := exists_readsAs arg
  rwa [readArgument_of_readsAs reads]

-----------------------------------------------------------------------------------------
-- Arguments that give an account
-----------------------------------------------------------------------------------------

/-- The arguments that give an account: its key, which is plain, an equals sign and a numeral of its
balance, with any blanks around the key and around the numeral.
-/
inductive Gives (arg key : String) (held : UInt64) : Prop where
  | intro {w₁ w₂ w₃ w₄ numeral : List Char}
    (whole : arg.toList = w₁ ++ key.toList ++ w₂ ++ '=' :: (w₃ ++ numeral ++ w₄))
    (blank : Text.Blanks w₁ ∧ Text.Blanks w₂ ∧ Text.Blanks w₃ ∧ Text.Blanks w₄)
    (plain : IsPlain key)
    (spelled : Text.IsNumeral numeral held.toNat)

theorem Gives.readsAs (gives : Gives arg key held) : ReadsAs arg (.ok (key, held)) := by
  obtain @⟨w₁, w₂, w₃, w₄, numeral, whole, blank, plain, spelled⟩ := gives
  obtain ⟨blank₁, blank₂, blank₃, blank₄⟩ := blank
  have noBlank {w : List Char} (blank : Text.Blanks w) : '=' ∉ w :=
    fun member => absurd (blank '=' member) (by decide)
  have parts : Parts arg (w₁ ++ key.toList ++ w₂) (w₃ ++ numeral ++ w₄) := by
    refine ⟨whole, ?_⟩
    simp only [List.mem_append, not_or]
    exact ⟨⟨noBlank blank₁, fun member => plain.undivided _ member rfl⟩, noBlank blank₂⟩
  have trimmedKey := Text.trimChars_surrounded blank₁ plain.solid blank₂
  have trimmedNumeral := Text.trimChars_surrounded blank₃ spelled.solid blank₄
  have fine (problem : KeyProblem)
      : ¬ problem.Spoils (Text.trimChars (w₁ ++ key.toList ++ w₂)) := by
    rw [trimmedKey]
    intro spoils
    generalize shape : key.toList = cs at spoils
    cases spoils with
    | empty => exact plain.filled (String.toList_eq_nil_iff.mp shape)
    | blank inside blank => exact absurd blank (by simp [plain.solid _ (shape ▸ inside)])
  rw [← trimmedNumeral] at spelled
  have reads := ReadsAs.account parts fine spelled
  rwa [trimmedKey, String.ofList_toList] at reads

theorem gives_of_readsAs (reads : ReadsAs arg (.ok (key, held))) : Gives arg key held := by
  cases reads with
  | @account before after held parts fine numeral =>
      obtain ⟨w₁, w₂, blank₁, blank₂, front⟩ := Text.exists_surroundings before
      obtain ⟨w₃, w₄, blank₃, blank₄, back⟩ := Text.exists_surroundings after
      refine .intro ?_ ⟨blank₁, blank₂, blank₃, blank₄⟩ ?_ numeral
      · rw [String.toList_ofList, ← front, ← back, parts.whole]
      · have inside {c : Char} (member : c ∈ Text.trimChars before) : c ∈ before := by
          rw [front]
          exact List.mem_append_left _ (List.mem_append_right _ member)
        constructor
        · intro none
          have empty := congrArg String.toList none
          rw [String.toList_ofList] at empty
          exact fine .empty (empty ▸ .empty)
        · rw [String.toList_ofList]
          exact fun c member => Bool.eq_false_iff.mpr fun blank => fine .blank (.blank member blank)
        · rw [String.toList_ofList]
          rintro c member rfl
          exact parts.first (inside member)

/-- What an argument is read as. It gives an account exactly if it has the form of one; it has no
separator exactly if no equals sign stands in it, its key is refused exactly if what stands before
the first equals sign is trimmed to nothing or to a text with a blank, and in all other cases its
balance is refused.
-/
theorem readArgument_grammar (arg : String)
    : (∀ key held, readArgument arg = .ok (key, held) ↔ Gives arg key held)
      ∧ (∀ text, readArgument arg = .error (.missingSeparator text)
          ↔ text = arg ∧ '=' ∉ arg.toList)
      ∧ (∀ text problem, readArgument arg = .error (.invalidKey text problem)
          ↔ text = arg ∧ ∃ before after, Parts arg before after
              ∧ problem.Spoils (Text.trimChars before))
      ∧ (∀ text, readArgument arg = .error (.badBalance text)
          ↔ ∃ before after, Parts arg before after ∧ text = String.ofList (Text.trimChars after)
              ∧ (∀ problem : KeyProblem, ¬ problem.Spoils (Text.trimChars before))
              ∧ ∀ key held, ¬ Gives arg key held)
      ∧ ∀ key, readArgument arg ≠ .error (.duplicateKey key) := by
  have gives (key : String) (held : UInt64)
      : readArgument arg = .ok (key, held) ↔ Gives arg key held :=
    readArgument_eq_iff.trans ⟨gives_of_readsAs, Gives.readsAs⟩
  refine ⟨gives, fun text => ?_, fun text problem => ?_, fun text => ?_, fun key read => ?_⟩
  · constructor
    · intro read
      cases readArgument_eq_iff.mp read with
      | undivided none => exact ⟨rfl, none⟩
    · rintro ⟨rfl, none⟩
      exact readArgument_of_readsAs (.undivided none)
  · constructor
    · intro read
      cases readArgument_eq_iff.mp read with
      | spoilt parts spoils => exact ⟨rfl, _, _, parts, spoils⟩
    · rintro ⟨rfl, before, after, parts, spoils⟩
      exact readArgument_of_readsAs (.spoilt parts spoils)
  · constructor
    · intro read
      cases readArgument_eq_iff.mp read with
      | unspelled parts fine none =>
          refine ⟨_, _, parts, rfl, fine, fun key held given => ?_⟩
          cases read.symm.trans ((gives key held).mpr given)
    · rintro ⟨before, after, parts, rfl, fine, none⟩
      refine readArgument_of_readsAs (.unspelled parts fine fun held numeral => ?_)
      exact none _ held (gives_of_readsAs (.account parts fine numeral))
  · cases readArgument_eq_iff.mp read

/-- Zeros do not make a numeral too great, and one more than the greatest balance is refused. -/
example
    : (readArgument "\ta =+018446744073709551615").toOption = some ("a", 18446744073709551615)
      ∧ (readArgument "a=18446744073709551616").toOption = none := by
  decide +kernel

end Ledger

end NodeTrial
