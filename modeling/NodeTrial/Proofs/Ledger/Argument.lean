import NodeTrial.Ledger.Argument
import NodeTrial.Proofs.Ledger.Operations
import NodeTrial.Proofs.Result
import NodeTrial.Proofs.Text.Division
import NodeTrial.Proofs.Text.Numeral

/-! Ledgers from arguments. A list of arguments makes a ledger when each of them can be read and no
two give the same key; the ledger then has the accounts that were read, in whatever order they came.
Otherwise the first argument that is wrong decides the error. The entries of a ledger, written as
arguments, make the same ledger again.
-/

namespace NodeTrial.Ledger

variable {l after : Ledger} {args rest : List String} {arg key : String} {held : UInt64}
variable {pairs : List (String × UInt64)} {e : ArgumentError}

-----------------------------------------------------------------------------------------
-- One argument
-----------------------------------------------------------------------------------------

theorem addArguments_of_unreadable (unread : readArgument arg = .error e) (rest : List String)
    : addArguments l (arg :: rest) = .error e := by
  simp [addArguments, unread, bind, Except.bind]

theorem addArguments_of_repeated (read : readArgument arg = .ok (key, held))
    (known : key ∈ l.keys) (rest : List String)
    : addArguments l (arg :: rest) = .error (.duplicateKey key) := by
  obtain ⟨before, found⟩ := mem_keys_iff.mp known
  simp [addArguments, read, found, bind, Except.bind]

theorem addArguments_of_fresh (read : readArgument arg = .ok (key, held))
    (fresh : key ∉ l.keys) (rest : List String)
    : addArguments l (arg :: rest) = addArguments (l.set key held) rest := by
  simp [addArguments, read, balance?_eq_none_iff.mpr fresh, bind, Except.bind]

/-- What is wrong with an argument that is added to a ledger: it cannot be read, or the ledger has an
account of its key.
-/
inductive Unfit (l : Ledger) (arg : String) : ArgumentError → Prop where
  | unreadable {e : ArgumentError} (unread : readArgument arg = .error e) : Unfit l arg e
  | repeated {key : String} {held : UInt64} (read : readArgument arg = .ok (key, held))
    (known : key ∈ l.keys)
    : Unfit l arg (.duplicateKey key)

theorem addArguments_of_unfit (unfit : Unfit l arg e) (rest : List String)
    : addArguments l (arg :: rest) = .error e := by
  cases unfit with
  | unreadable unread => exact addArguments_of_unreadable unread rest
  | repeated read known => exact addArguments_of_repeated read known rest

/-- An argument is unfit, or it adds a fresh account. -/
theorem unfit_or_fresh (l : Ledger) (arg : String)
    : (∃ e, Unfit l arg e) ∨ ∃ key held, readArgument arg = .ok (key, held) ∧ key ∉ l.keys := by
  cases read : readArgument arg with
  | error e => exact .inl ⟨e, .unreadable read⟩
  | ok pair =>
      obtain ⟨key, held⟩ := pair
      by_cases known : key ∈ l.keys
      · exact .inl ⟨_, .repeated read known⟩
      · exact .inr ⟨key, held, rfl, known⟩

-----------------------------------------------------------------------------------------
-- Arguments in a row
-----------------------------------------------------------------------------------------

theorem set_entries_perm (fresh : key ∉ l.keys) (held : UInt64)
    : (l.set key held).balances.entries.Perm ((key, held) :: l.balances.entries) := by
  refine insertEntry_perm held fun entry member same => fresh ?_
  exact List.mem_map.mpr ⟨entry, member, same⟩

/-- Arguments that were added have been read, their keys are distinct and new to the ledger, and
their accounts have come to those that it had. By induction on the arguments.
-/
theorem addArguments_ok
    : ∀ {l : Ledger}, addArguments l args = .ok after →
        ∃ pairs,
          args.mapM readArgument = .ok pairs
          ∧ (pairs.map (·.1) ++ l.keys).Nodup
          ∧ after.balances.entries.Perm (pairs ++ l.balances.entries) := by
  induction args with
  | nil =>
      intro l h
      obtain rfl := Except.ok.inj h
      exact ⟨[], rfl, l.balances.keys_nodup, .refl _⟩
  | cons arg args ih =>
      intro l h
      rcases unfit_or_fresh l arg with ⟨e, unfit⟩ | ⟨key, held, read, fresh⟩
      · cases (addArguments_of_unfit unfit args).symm.trans h
      · rw [addArguments_of_fresh read fresh] at h
        obtain ⟨pairs, reads, distinct, entries⟩ := ih h
        have added : (pairs ++ (l.set key held).balances.entries).Perm
            ((key, held) :: pairs ++ l.balances.entries) :=
          ((set_entries_perm fresh held).append_left pairs).trans List.perm_middle
        refine ⟨(key, held) :: pairs, ?_, ?_, entries.trans added⟩
        · rw [List.mapM_cons, read, reads]
          rfl
        · have keys := added.map (·.1)
          rw [List.map_append, List.map_append] at keys
          exact keys.nodup distinct

/-- Arguments that can be read, with distinct keys that are new to the ledger, are added to it. By
induction on the arguments.
-/
theorem exists_addArguments
    : ∀ {l : Ledger} {pairs : List (String × UInt64)},
        args.mapM readArgument = .ok pairs → (pairs.map (·.1) ++ l.keys).Nodup →
        ∃ after, addArguments l args = .ok after := by
  induction args with
  | nil => exact fun _ _ => ⟨_, rfl⟩
  | cons arg args ih =>
      intro l pairs reads distinct
      rw [List.mapM_cons] at reads
      obtain ⟨⟨key, held⟩, read, later⟩ := bind_ok_iff.mp reads
      obtain ⟨others, readsRest, same⟩ := bind_ok_iff.mp later
      obtain rfl := Except.ok.inj same
      have fresh : key ∉ l.keys := by
        have apart := (List.nodup_cons.mp distinct).1
        exact fun known => apart (List.mem_append_right _ known)
      rw [addArguments_of_fresh read fresh]
      refine ih readsRest ?_
      have added := ((set_entries_perm fresh held).append_left others).trans List.perm_middle
      have keys := added.map (·.1)
      rw [List.map_append, List.map_cons, List.map_append] at keys
      exact keys.symm.nodup distinct

/-- Arguments that were not added start with some that were and one that is unfit then. By induction
on the arguments.
-/
theorem addArguments_error
    : ∀ {l : Ledger}, addArguments l args = .error e →
        ∃ before arg rest middle,
          args = before ++ arg :: rest
          ∧ addArguments l before = .ok middle
          ∧ Unfit middle arg e := by
  induction args with
  | nil => exact nofun
  | cons arg args ih =>
      intro l h
      rcases unfit_or_fresh l arg with ⟨other, unfit⟩ | ⟨key, held, read, fresh⟩
      · obtain rfl := Except.error.inj ((addArguments_of_unfit unfit args).symm.trans h)
        exact ⟨[], arg, args, l, rfl, rfl, unfit⟩
      · rw [addArguments_of_fresh read fresh] at h
        obtain ⟨before, wrong, rest, middle, rfl, added, unfit⟩ := ih h
        refine ⟨arg :: before, wrong, rest, middle, rfl, ?_, unfit⟩
        rw [addArguments_of_fresh read fresh, added]

-----------------------------------------------------------------------------------------
-- Ledgers
-----------------------------------------------------------------------------------------

/-- The accounts of a ledger from arguments are those that were read. -/
theorem ofArguments_ok (h : ofArguments args = .ok l)
    : ∃ pairs, args.mapM readArgument = .ok pairs ∧ (pairs.map (·.1)).Nodup
        ∧ l.balances.entries.Perm pairs := by
  obtain ⟨pairs, reads, distinct, entries⟩ := addArguments_ok h
  refine ⟨pairs, reads, ?_, ?_⟩
  · rwa [show empty.keys = [] from rfl, List.append_nil] at distinct
  · rwa [show empty.balances.entries = [] from rfl, List.append_nil] at entries

theorem exists_ofArguments (reads : args.mapM readArgument = .ok pairs)
    (distinct : (pairs.map (·.1)).Nodup)
    : ∃ l, ofArguments args = .ok l ∧ l.balances.entries.Perm pairs := by
  have apart : (pairs.map (·.1) ++ empty.keys).Nodup := by
    rwa [show empty.keys = [] from rfl, List.append_nil]
  obtain ⟨l, made⟩ := exists_addArguments reads apart
  obtain ⟨others, readsToo, -, entries⟩ := ofArguments_ok made
  obtain rfl := Except.ok.inj (reads.symm.trans readsToo)
  exact ⟨l, made, entries⟩

/-- A ledger whose entries are those that were read is the ledger of the arguments. -/
theorem ofArguments_of_entries (reads : args.mapM readArgument = .ok pairs)
    (same : l.balances.entries.Perm pairs)
    : ofArguments args = .ok l := by
  have keys : l.balances.keys.Perm (pairs.map (·.1)) := same.map _
  have distinct : (pairs.map (·.1)).Nodup := keys.nodup l.balances.keys_nodup
  obtain ⟨made, ofArgs, entries⟩ := exists_ofArguments reads distinct
  have balances : made.balances = l.balances := Table.eq_of_perm (entries.trans same.symm)
  rw [ofArgs]
  exact congrArg (fun balances => Except.ok (Ledger.mk balances)) balances

/-- The order of the arguments does not matter. -/
theorem ofArguments_perm {others : List String} (h : ofArguments args = .ok l)
    (same : others.Perm args)
    : ofArguments others = .ok l := by
  obtain ⟨pairs, reads, -, entries⟩ := ofArguments_ok h
  obtain ⟨more, readsToo, samePairs⟩ := mapM_ok_perm same reads
  exact ofArguments_of_entries readsToo (entries.trans samePairs.symm)

-----------------------------------------------------------------------------------------
-- The first wrong argument
-----------------------------------------------------------------------------------------

/-- The argument at an index is wrong: it cannot be read, or an earlier one gives the same key. -/
inductive Offends (args : List String) (i : Nat) : ArgumentError → Prop where
  | unreadable {arg : String} {e : ArgumentError} (found : args[i]? = some arg)
    (unread : readArgument arg = .error e)
    : Offends args i e
  | repeated {arg earlier key : String} {held before : UInt64} {j : Nat}
    (found : args[i]? = some arg) (read : readArgument arg = .ok (key, held)) (less : j < i)
    (foundToo : args[j]? = some earlier) (readToo : readArgument earlier = .ok (key, before))
    : Offends args i (.duplicateKey key)

theorem Offends.unique {i : Nat} {other : ArgumentError} (h : Offends args i e)
    (k : Offends args i other)
    : e = other := by
  cases h with
  | unreadable found unread =>
      cases k with
      | unreadable foundToo unreadToo =>
          obtain rfl := Option.some.inj (found.symm.trans foundToo)
          exact Except.error.inj (unread.symm.trans unreadToo)
      | repeated foundToo read =>
          obtain rfl := Option.some.inj (found.symm.trans foundToo)
          cases unread.symm.trans read
  | repeated found read =>
      cases k with
      | unreadable foundToo unread =>
          obtain rfl := Option.some.inj (found.symm.trans foundToo)
          cases unread.symm.trans read
      | repeated foundToo readToo =>
          obtain rfl := Option.some.inj (found.symm.trans foundToo)
          cases read.symm.trans readToo
          rfl

/-- What comes later makes no argument wrong. -/
theorem Offends.of_append {before : List String} {i : Nat} (h : Offends (before ++ rest) i e)
    (early : i < before.length)
    : Offends before i e := by
  cases h with
  | unreadable found unread =>
      rw [List.getElem?_append_left early] at found
      exact .unreadable found unread
  | repeated found read less foundToo readToo =>
      rw [List.getElem?_append_left early] at found
      rw [List.getElem?_append_left (Nat.lt_trans less early)] at foundToo
      exact .repeated found read less foundToo readToo

/-- No argument of a ledger is wrong. -/
theorem not_offends_of_ok {i : Nat} (h : ofArguments args = .ok l) : ¬ Offends args i e := by
  obtain ⟨pairs, reads, distinct, -⟩ := ofArguments_ok h
  have readAt {i : Nat} {arg : String} (found : args[i]? = some arg)
      : ∃ pair, pairs[i]? = some pair ∧ readArgument arg = .ok pair := by
    have same := congrArg (·[i]?) (mapM_ok_iff.mp reads)
    simp only [List.getElem?_map, found, Option.map_some] at same
    obtain ⟨pair, held, read⟩ := Option.map_eq_some_iff.mp same.symm
    exact ⟨pair, held, read.symm⟩
  intro offends
  cases offends with
  | unreadable found unread =>
      obtain ⟨pair, -, read⟩ := readAt found
      cases unread.symm.trans read
  | @repeated arg earlier key held before j found read less foundToo readToo =>
      obtain ⟨pair, place, same⟩ := readAt found
      obtain ⟨other, placeToo, sameToo⟩ := readAt foundToo
      obtain rfl := Except.ok.inj (read.symm.trans same)
      obtain rfl := Except.ok.inj (readToo.symm.trans sameToo)
      obtain ⟨inside, here⟩ := List.getElem?_eq_some_iff.mp place
      obtain ⟨insideToo, there⟩ := List.getElem?_eq_some_iff.mp placeToo
      have apart := List.pairwise_iff_getElem.mp (List.pairwise_map.mp distinct) j i insideToo
        inside less
      rw [here, there] at apart
      exact apart rfl

/-- Where a ledger cannot be made, the first wrong argument says why. -/
theorem exists_offends_of_error (h : ofArguments args = .error e)
    : ∃ i, Offends args i e ∧ ∀ j < i, ∀ other, ¬ Offends args j other := by
  obtain ⟨before, arg, rest, middle, rfl, added, unfit⟩ := addArguments_error h
  have made : ofArguments before = .ok middle := added
  refine ⟨before.length, ?_, fun j early other offends =>
    not_offends_of_ok made (offends.of_append early)⟩
  have place : (before ++ arg :: rest)[before.length]? = some arg := by simp
  cases unfit with
  | unreadable unread => exact .unreadable place unread
  | @repeated key held read known =>
      obtain ⟨pairs, reads, -, entries⟩ := ofArguments_ok made
      obtain ⟨held', found⟩ := mem_keys_iff.mp known
      have member : (key, held') ∈ pairs := entries.mem_iff.mp (Table.mem_entries_iff.mpr found)
      obtain ⟨earlier, inside, readToo⟩ := mapM_ok_mem reads _ member
      obtain ⟨j, less, rfl⟩ := List.getElem_of_mem inside
      refine .repeated place read less ?_ readToo
      rw [List.getElem?_append_left less, List.getElem?_eq_getElem less]

/-- The error of arguments is that of the first wrong one. -/
theorem ofArguments_error_iff
    : ofArguments args = .error e
      ↔ ∃ i, Offends args i e ∧ ∀ j < i, ∀ other, ¬ Offends args j other := by
  refine ⟨exists_offends_of_error, ?_⟩
  rintro ⟨i, offends, first⟩
  cases made : ofArguments args with
  | ok l => exact absurd offends (not_offends_of_ok made)
  | error found =>
      obtain ⟨j, offendsToo, firstToo⟩ := exists_offends_of_error made
      obtain rfl : i = j :=
        Nat.le_antisymm (Nat.not_lt.mp fun less => first j less found offendsToo)
          (Nat.not_lt.mp fun less => firstToo i less e offends)
      exact congrArg _ (offendsToo.unique offends)

-----------------------------------------------------------------------------------------
-- Written accounts
-----------------------------------------------------------------------------------------

/-- An account as an argument. -/
def argument (key : String) (held : UInt64) : String :=
  key ++ "=" ++ Text.natText held.toNat

/-- The accounts of a ledger as arguments, in the order of their keys. -/
def arguments (l : Ledger) : List String :=
  l.balances.entries.map fun entry => argument entry.1 entry.2

/-- A key that is not empty and holds no blanks and no equals sign. -/
structure IsPlain (key : String) : Prop where
  filled : key ≠ ""
  solid : ∀ c ∈ key.toList, Text.isBlank c = false
  undivided : ∀ c ∈ key.toList, c ≠ '='

theorem isPlain_iff
    : IsPlain key
      ↔ key ≠ "" ∧ key.toList.all fun c => ! Text.isBlank c && decide (c ≠ '=') := by
  simp only [List.all_eq_true, Bool.and_eq_true, Bool.not_eq_true', decide_eq_true_iff]
  constructor
  · rintro ⟨filled, solid, undivided⟩
    exact ⟨filled, fun c member => ⟨solid c member, undivided c member⟩⟩
  · rintro ⟨filled, each⟩
    exact ⟨filled, fun c member => (each c member).1, fun c member => (each c member).2⟩

instance (key : String) : Decidable (IsPlain key) :=
  decidable_of_iff _ isPlain_iff.symm

theorem IsPlain.noProblem (plain : IsPlain key) : KeyProblem.of? key = none := by
  obtain ⟨c, cs, shape⟩ :=
    List.exists_cons_of_ne_nil fun none => plain.filled (String.toList_eq_nil_iff.mp none)
  have first : Text.isBlank c = false := plain.solid c (by simp [shape])
  have visible : Text.isBlankText key = false := by simp [Text.isBlankText, shape, first]
  have unbroken : key.toList.any Text.isBlank = false := by
    simpa [List.any_eq_false] using plain.solid
  simp [KeyProblem.of?, visible, unbroken]

/-- An account that is written with a plain key is read as the same account. -/
theorem readArgument_argument (plain : IsPlain key) (held : UInt64)
    : readArgument (argument key held) = .ok (key, held) := by
  have whole : (argument key held).toList = key.toList ++ '=' :: (Text.natText held.toNat).toList :=
    by simp [argument]
  have divided : Text.splitFirst? (· == '=') (argument key held).toList
      = some (key.toList, (Text.natText held.toNat).toList) := by
    rw [whole]
    exact Text.splitFirst?_append rfl _ fun c member => by simpa using plain.undivided c member
  have digits : ∀ c ∈ (Text.natText held.toNat).toList, Text.isBlank c = false :=
    fun c member => Text.isBlank_of_isDigit (Text.isDigit_of_mem_natText member)
  have spelled : Text.word? (Text.natText held.toNat) = some held := Text.word?_natText_iff.mpr rfl
  simp [readArgument, divided, Text.trimChars_of_solid plain.solid, Text.trimChars_of_solid digits,
    plain.noProblem, spelled]

theorem ofArguments_arguments (plain : ∀ key ∈ l.keys, IsPlain key)
    : ofArguments l.arguments = .ok l := by
  have reads : l.arguments.mapM readArgument = .ok l.balances.entries := by
    rw [mapM_ok_iff, arguments, List.map_map]
    refine List.map_congr_left fun entry member => ?_
    exact readArgument_argument (plain entry.1 (List.mem_map_of_mem member)) entry.2
  exact ofArguments_of_entries reads (.refl _)

/-- What arguments make. They make a ledger exactly if each of them can be read and no two give the
same key; it has the accounts that were read, and the order of the arguments does not matter. If they
make none, the error is that of the first argument that cannot be read or gives the key of an earlier
one. A ledger with plain keys is made by its own accounts as arguments.
-/
theorem ofArguments_makes (args : List String)
    : ((∃ l, ofArguments args = .ok l)
        ↔ ∃ pairs : List (String × UInt64),
            args.map readArgument = pairs.map .ok ∧ (pairs.map (·.1)).Nodup)
      ∧ (∀ l (pairs : List (String × UInt64)),
          ofArguments args = .ok l → args.map readArgument = pairs.map .ok →
          l.balances.entries.Perm pairs)
      ∧ (∀ l others, ofArguments args = .ok l → others.Perm args → ofArguments others = .ok l)
      ∧ (∀ e,
          ofArguments args = .error e
          ↔ ∃ i, Offends args i e ∧ ∀ j < i, ∀ other, ¬ Offends args j other)
      ∧ ∀ l : Ledger, (∀ key ∈ l.keys, IsPlain key) → ofArguments l.arguments = .ok l := by
  refine ⟨⟨?_, ?_⟩, ?_, fun l others => ofArguments_perm, fun e => ofArguments_error_iff,
    fun l => ofArguments_arguments⟩
  · rintro ⟨l, made⟩
    obtain ⟨pairs, reads, distinct, -⟩ := ofArguments_ok made
    exact ⟨pairs, mapM_ok_iff.mp reads, distinct⟩
  · rintro ⟨pairs, reads, distinct⟩
    obtain ⟨l, made, -⟩ := exists_ofArguments (mapM_ok_iff.mpr reads) distinct
    exact ⟨l, made⟩
  · intro l pairs made reads
    obtain ⟨others, readsToo, -, entries⟩ := ofArguments_ok made
    obtain rfl := Except.ok.inj ((mapM_ok_iff.mpr reads).symm.trans readsToo)
    exact entries

/-- Two accounts with blanks and a plus sign make the same ledger in both orders. With a third
argument that gives a key again and a fourth that cannot be read, the third one decides.
-/
theorem ofArguments_makes_awkward
    : (∃ l : Ledger,
        ofArguments ["b=1", " a = +02 "] = .ok l
        ∧ ofArguments [" a = +02 ", "b=1"] = .ok l
        ∧ l.balances.entries.Perm [("b", 1), ("a", 2)]
        ∧ ofArguments l.arguments = .ok l)
      ∧ ofArguments ["b=1", " a = +02 ", "a=3", "=4"] = .error (.duplicateKey "a") := by
  have first : readArgument "b=1" = .ok ("b", 1) := rfl
  have second : readArgument " a = +02 " = .ok ("a", 2) := rfl
  have third : readArgument "a=3" = .ok ("a", 3) := rfl
  obtain ⟨makes, entries, orders, -, again⟩ := ofArguments_makes ["b=1", " a = +02 "]
  have reads : ["b=1", " a = +02 "].map readArgument = [("b", 1), ("a", 2)].map .ok := by
    simp [first, second]
  obtain ⟨l, made⟩ := makes.mpr ⟨[("b", 1), ("a", 2)], reads, by decide⟩
  have accounts := entries l _ made reads
  refine ⟨⟨l, made, orders l _ made (.swap _ _ _), accounts, again l ?_⟩, ?_⟩
  · intro key member
    have keys : l.keys.Perm ["b", "a"] := accounts.map _
    have plain : ∀ key ∈ ["b", "a"], IsPlain key := by decide +kernel
    exact plain key (keys.mem_iff.mp member)
  · obtain ⟨-, -, -, errors, -⟩ := ofArguments_makes ["b=1", " a = +02 ", "a=3", "=4"]
    refine (errors _).mpr ⟨2, .repeated rfl third (by decide : 1 < 2) rfl second, ?_⟩
    intro j early other offends
    have both : Offends (["b=1", " a = +02 "] ++ ["a=3", "=4"]) j other := offends
    exact not_offends_of_ok made (both.of_append early)

end NodeTrial.Ledger
