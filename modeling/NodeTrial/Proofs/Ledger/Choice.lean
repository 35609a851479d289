import NodeTrial.Proofs.Ledger.Selection

/-! Which senders and receivers chance can bring about. A choice ends with the first word that chooses
a sender and the first one after it that chooses a receiver, and there are always such words. The pairs
chosen are those of an account that can pay and another account, and for each of these pairs there are
words that choose it.
-/

namespace NodeTrial.Ledger

open Words (choice exists_word)

variable {l : Ledger} {amount : UInt64} {ws : Words} {sender receiver : String}

theorem length_eligible_le (l : Ledger) (amount : UInt64)
    : (l.eligible amount).length ≤ l.count := by
  rw [eligible, List.length_map]
  exact List.length_filter_le _ _

theorem length_others_le (l : Ledger) (sender : String) : (l.others sender).length ≤ l.count := by
  rw [count_eq_length_keys]
  exact List.length_filter_le _ _

/-- Two words choose any sender that can pay and any other account, if the accounts can be counted by
words.
-/
theorem exists_chosenBy_of_mem (few : l.count < UInt32.size) (pays : sender ∈ l.eligible amount)
    (another : receiver ∈ l.others sender)
    : ∃ first second, ChosenBy l amount (.ofList [first, second]) sender receiver 0 0 := by
  have fewEligible := Nat.le_trans (length_eligible_le l amount) (Nat.le_of_lt few)
  have fewOthers := Nat.le_trans (length_others_le l sender) (Nat.le_of_lt few)
  obtain ⟨a, inFirst, rfl⟩ := List.getElem_of_mem pays
  obtain ⟨b, inSecond, rfl⟩ := List.getElem_of_mem another
  obtain ⟨first, chooses, chosen⟩ := exists_word fewEligible inFirst
  obtain ⟨second, choosesToo, chosenToo⟩ := exists_word fewOthers inSecond
  refine ⟨first, second, ⟨nofun, chooses⟩, ?_, ⟨nofun, choosesToo⟩, ?_⟩
  · change (l.eligible amount)[choice _ first]? = _
    rw [chosen, List.getElem?_eq_getElem inFirst]
  · change (l.others _)[choice _ second]? = _
    rw [chosenToo, List.getElem?_eq_getElem inSecond]

/-- The three ways in which choosing accounts goes. -/
theorem select_cases (l : Ledger) (amount : UInt64) (ws : Words)
    : (l.count < 2 ∧ l.select amount ws = (.error (.tooFewAccounts l.count), ws))
      ∨ (2 ≤ l.count ∧ (∀ key held, l.balance? key = some held → ¬ amount ≤ held)
        ∧ l.select amount ws = (.error (.noEligibleSender amount), ws))
      ∨ (2 ≤ l.count ∧ (∃ key held, l.balance? key = some held ∧ amount ≤ held)
        ∧ ∃ sender receiver, (l.select amount ws).1 = .ok (sender, receiver)) := by
  by_cases few : l.count < 2
  · exact .inl ⟨few, by rw [select, if_pos few]⟩
  · have two : 2 ≤ l.count := Nat.not_lt.mp few
    by_cases pays : ∃ key held, l.balance? key = some held ∧ amount ≤ held
    · obtain ⟨key, held, found, enough⟩ := pays
      exact .inr (.inr ⟨two, ⟨key, held, found, enough⟩, select_of_eligible two found enough⟩)
    · have none : ∀ key held, l.balance? key = some held → ¬ amount ≤ held :=
        fun key held found enough => pays ⟨key, held, found, enough⟩
      exact .inr (.inl ⟨two, none, select_of_none two none⟩)

theorem select_tooFew_iff {count : Nat}
    : (l.select amount ws).1 = .error (.tooFewAccounts count)
      ↔ l.count < 2 ∧ count = l.count := by
  rcases select_cases l amount ws with
    ⟨one, selected⟩ | ⟨two, -, selected⟩ | ⟨two, -, _, _, selected⟩
  · simp [selected, one, eq_comm]
  · simp [selected, Nat.not_lt.mpr two]
  · simp [selected, Nat.not_lt.mpr two]

theorem select_noEligible_iff {asked : UInt64}
    : (l.select amount ws).1 = .error (.noEligibleSender asked)
      ↔ 2 ≤ l.count ∧ (∀ key held, l.balance? key = some held → ¬ amount ≤ held)
        ∧ asked = amount := by
  rcases select_cases l amount ws with
    ⟨one, selected⟩ | ⟨two, none, selected⟩ | ⟨two, pays, _, _, selected⟩
  · simp [selected, Nat.not_le.mpr one]
  · rw [selected]
    constructor
    · intro same
      cases same
      exact ⟨two, none, rfl⟩
    · rintro ⟨-, -, rfl⟩
      rfl
  · obtain ⟨key, held, found, enough⟩ := pays
    rw [selected]
    exact iff_of_false nofun fun h => h.2.1 key held found enough

/-- A choice that fails has drawn no word. -/
theorem select_error {e : SelectionError} (h : (l.select amount ws).1 = .error e)
    : (l.select amount ws).2 = ws := by
  rcases select_cases l amount ws with
    ⟨-, selected⟩ | ⟨-, -, selected⟩ | ⟨-, -, _, _, selected⟩
  · rw [selected]
  · rw [selected]
  · rw [selected] at h
    cases h

theorem two_le_count (one : sender ∈ l.keys) (another : receiver ∈ l.keys)
    (different : receiver ≠ sender)
    : 2 ≤ l.count := by
  rw [count_eq_length_keys]
  obtain ⟨a, inKeys, rfl⟩ := List.getElem_of_mem one
  obtain ⟨b, inKeysToo, rfl⟩ := List.getElem_of_mem another
  have apart : b ≠ a := by
    rintro rfl
    exact different rfl
  omega

/-- Choosing accounts always ends. It fails without drawing a word exactly when there are fewer than
two accounts, or two or more of which none can pay; otherwise the words choose a sender that can pay
and another account as the receiver. If the accounts can be counted by words, every such pair is chosen
by some words.
-/
theorem select_sound_complete (few : l.count < UInt32.size) (amount : UInt64)
    : (∀ ws,
        (∀ count, (l.select amount ws).1 = .error (.tooFewAccounts count)
          ↔ l.count < 2 ∧ count = l.count)
        ∧ (∀ asked, (l.select amount ws).1 = .error (.noEligibleSender asked)
          ↔ 2 ≤ l.count ∧ (∀ key held, l.balance? key = some held → ¬ amount ≤ held)
            ∧ asked = amount)
        ∧ (∀ e, (l.select amount ws).1 = .error e → (l.select amount ws).2 = ws)
        ∧ (2 ≤ l.count → (∃ key held, l.balance? key = some held ∧ amount ≤ held) →
            ∃ sender receiver j k,
              l.select amount ws = (.ok (sender, receiver), ws.skip (j + k + 2))
              ∧ ChosenBy l amount ws sender receiver j k
              ∧ (∃ paid, l.balance? sender = some paid ∧ amount ≤ paid)
              ∧ (∃ held, l.balance? receiver = some held)
              ∧ receiver ≠ sender))
      ∧ ∀ sender receiver paid held, l.balance? sender = some paid → amount ≤ paid →
          l.balance? receiver = some held → receiver ≠ sender →
          ∃ words, (l.select amount (.ofList words)).1 = .ok (sender, receiver) := by
  refine ⟨fun ws => ⟨fun count => select_tooFew_iff, fun asked => select_noEligible_iff,
    fun e => select_error, fun two pays => ?_⟩,
    fun sender receiver paid held found enough account different => ?_⟩
  · obtain ⟨key, held, found, enough⟩ := pays
    obtain ⟨sender, receiver, j, k, chosen⟩ :=
      exists_chosenBy two (mem_eligible_iff.mpr ⟨held, found, enough⟩) ws
    have selected := select_of_chosenBy two chosen
    obtain ⟨-, paying, receiving, different⟩ := select_ok (congrArg Prod.fst selected)
    exact ⟨sender, receiver, j, k, selected, chosen, paying, receiving, different⟩
  · have inKeys : receiver ∈ l.keys := mem_keys_iff.mpr ⟨held, account⟩
    have two := two_le_count (mem_keys_iff.mpr ⟨paid, found⟩) inKeys different
    obtain ⟨first, second, chosen⟩ := exists_chosenBy_of_mem few
      (mem_eligible_iff.mpr ⟨paid, found, enough⟩) (mem_others_iff.mpr ⟨inKeys, different⟩)
    exact ⟨[first, second], congrArg Prod.fst (select_of_chosenBy two chosen)⟩

def threeAccounts : Ledger :=
  ((empty.set "a" 0).set "b" 5).set "c" 7

/-- Of three accounts the last one can be chosen to pay the first one all that it has, and none of them
can pay any more than that.
-/
theorem select_sound_complete_three
    : threeAccounts.count < UInt32.size
      ∧ (∃ words, (threeAccounts.select 7 (.ofList words)).1 = .ok ("c", "a"))
      ∧ ∀ ws, (threeAccounts.select 8 ws).1 = .error (.noEligibleSender 8) := by
  have few : threeAccounts.count < UInt32.size := by decide +kernel
  have nobody : threeAccounts.eligible 8 = [] := by decide +kernel
  obtain ⟨-, chosen⟩ := select_sound_complete few 7
  obtain ⟨each, -⟩ := select_sound_complete few 8
  refine ⟨few, chosen "c" "a" 7 0 (by decide +kernel) (by decide) (by decide +kernel) (by decide),
    fun ws => ((each ws).2.1 8).mpr ⟨by decide +kernel, fun key held found enough => ?_, rfl⟩⟩
  have pays : key ∈ threeAccounts.eligible 8 := mem_eligible_iff.mpr ⟨held, found, enough⟩
  rw [nobody] at pays
  cases pays

end NodeTrial.Ledger
