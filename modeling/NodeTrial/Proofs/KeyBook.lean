import NodeTrial.KeyBook
import NodeTrial.Proofs.Table.Lookup

/-! Claims in the key book. A claim has three cases, and from these follow what one claim keeps and
then what any row of claims keeps: nobody loses a public key, and no two private keys share one.
-/

namespace NodeTrial

-----------------------------------------------------------------------------------------
-- The smallest text
-----------------------------------------------------------------------------------------

theorem smallest?_eq_none_iff {texts : List String} : smallest? texts = none ↔ texts = [] := by
  cases texts with
  | nil => simp [smallest?]
  | cons first rest =>
      unfold smallest?
      split
      · simp
      · simp

/-- The smallest text is one of them and above none of them, by induction on the texts. -/
theorem smallest?_spec {texts : List String} {found : String} (h : smallest? texts = some found)
    : found ∈ texts ∧ ∀ other ∈ texts, found ≤ other := by
  induction texts generalizing found with
  | nil => cases h
  | cons first rest ih =>
      unfold smallest? at h
      split at h
      · next none =>
        obtain rfl := Option.some.inj h
        obtain rfl := smallest?_eq_none_iff.mp none
        exact ⟨List.mem_cons_self, List.forall_mem_singleton.mpr (String.le_refl _)⟩
      · next least smaller =>
        obtain rfl := Option.some.inj h
        obtain ⟨among, below⟩ := ih smaller
        split
        · next less =>
          exact ⟨List.mem_cons_of_mem first among,
            List.forall_mem_cons.mpr ⟨Std.le_of_lt less, below⟩⟩
        · next notLess =>
          have above := String.not_lt.mp notLess
          exact ⟨List.mem_cons_self, List.forall_mem_cons.mpr
            ⟨String.le_refl _, fun other member => String.le_trans above (below other member)⟩⟩

theorem smallest?_eq_some_iff {texts : List String} {found : String}
    : smallest? texts = some found ↔ found ∈ texts ∧ ∀ other ∈ texts, found ≤ other := by
  refine ⟨smallest?_spec, fun ⟨among, below⟩ => ?_⟩
  cases least : smallest? texts with
  | none =>
      obtain rfl := smallest?_eq_none_iff.mp least
      cases among
  | some other =>
      obtain ⟨member, above⟩ := smallest?_spec least
      rw [String.le_antisymm (above found among) (below other member)]

/-- Lists of the same texts have the same smallest one. -/
theorem smallest?_congr {texts others : List String} (same : ∀ s, s ∈ texts ↔ s ∈ others)
    : smallest? texts = smallest? others := by
  ext found
  rw [smallest?_eq_some_iff, smallest?_eq_some_iff, same]
  exact and_congr_right fun _ => forall_congr' fun s => imp_congr_left (same s)

namespace KeyBook

variable {b : KeyBook}

-----------------------------------------------------------------------------------------
-- One claim
-----------------------------------------------------------------------------------------

/-- A public key is claimed when it stands for some private key. -/
theorem isClaimed_iff {publicKey : String}
    : b.isClaimed publicKey = true ↔ ∃ key, b.publicKey? key = some publicKey := by
  rw [isClaimed, List.contains_iff_mem, Table.mem_values_iff]
  rfl

/-- The unclaimed public keys of a list are those that stand for no private key. -/
theorem mem_unclaimed_iff {known : List String} {publicKey : String}
    : publicKey ∈ b.unclaimed known
      ↔ publicKey ∈ known ∧ ∀ key, b.publicKey? key ≠ some publicKey := by
  rw [unclaimed, List.mem_filter, Bool.not_eq_true', ← Bool.not_eq_true, isClaimed_iff, not_exists]

/-- The three cases of a claim: the private key has a public key and keeps it, or it gets the
smallest unclaimed one, or there is none and the claim fails.
-/
theorem claim_cases (b : KeyBook) (key : String) (known : List String)
    : (∃ p, b.publicKey? key = some p ∧ b.claim key known = (.ok p, b))
      ∨ (∃ p, b.publicKey? key = none
          ∧ smallest? (b.unclaimed known) = some p
          ∧ b.claim key known = (.ok p, ⟨b.publicKeys.insert key p⟩))
      ∨ b.publicKey? key = none
        ∧ b.unclaimed known = []
        ∧ b.claim key known = (.error (.noneUnclaimed key), b) := by
  unfold claim
  cases has : b.publicKey? key with
  | some p => exact .inl ⟨p, rfl, rfl⟩
  | none =>
      cases least : smallest? (b.unclaimed known) with
      | some p => exact .inr (.inl ⟨p, rfl, rfl, rfl⟩)
      | none => exact .inr (.inr ⟨rfl, smallest?_eq_none_iff.mp least, rfl⟩)

theorem claim_of_only {key found : String} {known : List String} (fresh : b.publicKey? key = none)
    (member : found ∈ b.unclaimed known) (only : ∀ other ∈ b.unclaimed known, other = found)
    : b.claim key known = (.ok found, ⟨b.publicKeys.insert key found⟩) := by
  obtain ⟨_, has, -⟩ | ⟨least, -, smallest, claim⟩ | ⟨-, none, -⟩ := claim_cases b key known
  · rw [fresh] at has
    cases has
  · obtain rfl := only least (smallest?_spec smallest).1
    exact claim
  · rw [none] at member
    cases member

theorem publicKey?_insert (b : KeyBook) (key other p : String)
    : (KeyBook.mk (b.publicKeys.insert key p)).publicKey? other
      = if key = other then some p else b.publicKey? other :=
  Table.get?_insert b.publicKeys key other p

/-- A claim that succeeds leaves the private key with the public key that it answers. -/
theorem publicKey?_claim {key p : String} {known : List String}
    (h : (b.claim key known).1 = .ok p)
    : (b.claim key known).2.publicKey? key = some p := by
  obtain ⟨_, has, claim⟩ | ⟨_, -, -, claim⟩ | ⟨-, -, claim⟩ := claim_cases b key known
  · rw [claim] at h ⊢
    exact Except.ok.inj h ▸ has
  · rw [claim] at h ⊢
    rw [publicKey?_insert, if_pos rfl, Except.ok.inj h]
  · rw [claim] at h
    cases h

theorem claim_of_known {key p : String} (known : List String) (has : b.publicKey? key = some p)
    : b.claim key known = (.ok p, b) := by
  unfold claim
  rw [has]

/-- A claim that fails changes nothing. -/
theorem claim_of_error {key : String} {known : List String} {e : KeyError}
    (h : (b.claim key known).1 = .error e)
    : b.claim key known = (.error (.noneUnclaimed key), b) := by
  obtain ⟨_, -, claim⟩ | ⟨_, -, -, claim⟩ | ⟨-, -, claim⟩ := claim_cases b key known
  · rw [claim] at h
    cases h
  · rw [claim] at h
    cases h
  · exact claim

/-- A claim of the smallest unclaimed public key changes nothing for the other private keys. -/
theorem publicKey?_claim_fresh {key p : String} {known : List String}
    (fresh : b.publicKey? key = none) (h : (b.claim key known).1 = .ok p) (other : String)
    : (b.claim key known).2.publicKey? other
      = if key = other then some p else b.publicKey? other := by
  obtain ⟨_, has, -⟩ | ⟨_, -, -, claim⟩ | ⟨-, -, claim⟩ := claim_cases b key known
  · rw [fresh] at has
    cases has
  · rw [claim] at h ⊢
    rw [publicKey?_insert, Except.ok.inj h]
  · rw [claim] at h
    cases h

/-- Whoever has a public key in one book has it in another one. -/
def Extends (b later : KeyBook) : Prop :=
  ∀ key p, b.publicKey? key = some p → later.publicKey? key = some p

/-- No two private keys have the same public key. -/
def Injective (b : KeyBook) : Prop :=
  ∀ key other p, b.publicKey? key = some p → b.publicKey? other = some p → key = other

theorem injective_empty : empty.Injective :=
  fun _ _ _ has => nomatch has

/-- A claim takes no public key away. -/
theorem claim_extends (b : KeyBook) (key : String) (known : List String)
    : b.Extends (b.claim key known).2 := by
  intro other p has
  obtain ⟨_, -, claim⟩ | ⟨_, fresh, -, claim⟩ | ⟨-, -, claim⟩ := claim_cases b key known
  · rwa [claim]
  · have different : key ≠ other := by
      rintro rfl
      rw [fresh] at has
      cases has
    rw [claim, publicKey?_insert, if_neg different]
    exact has
  · rwa [claim]

/-- A claim gives nobody a public key that somebody has. -/
theorem Injective.claim (injective : b.Injective) (key : String) (known : List String)
    : (b.claim key known).2.Injective := by
  obtain ⟨_, -, claim⟩ | ⟨p, -, smallest, claim⟩ | ⟨-, -, claim⟩ := claim_cases b key known
  · rwa [claim]
  · have unclaimed := (mem_unclaimed_iff.mp (smallest?_spec smallest).1).2
    rw [claim]
    intro k l q hk hl
    rw [publicKey?_insert] at hk hl
    split at hk <;> split at hl
    · next first second => exact first.symm.trans second
    · obtain rfl := Option.some.inj hk
      exact absurd hl (unclaimed l)
    · obtain rfl := Option.some.inj hl
      exact absurd hk (unclaimed k)
    · exact injective k l q hk hl
  · rwa [claim]

/-- A claim depends on the set of the known public keys alone. -/
theorem claim_congr {key : String} {known others : List String}
    (same : ∀ p, p ∈ known ↔ p ∈ others)
    : b.claim key known = b.claim key others := by
  have unclaimed : smallest? (b.unclaimed known) = smallest? (b.unclaimed others) :=
    smallest?_congr fun p => by rw [mem_unclaimed_iff, mem_unclaimed_iff, same]
  unfold claim
  rw [unclaimed]

/-- A private key without a public key gets one if and only if some known one is unclaimed, and
then it gets the smallest of these.
-/
theorem claim_ok_iff {key p : String} {known : List String} (fresh : b.publicKey? key = none)
    : (b.claim key known).1 = .ok p
      ↔ p ∈ known ∧ b.isClaimed p = false
        ∧ ∀ other ∈ known, b.isClaimed other = false → p ≤ other := by
  have claims : (b.claim key known).1 = .ok p ↔ smallest? (b.unclaimed known) = some p := by
    unfold claim
    rw [fresh]
    cases smallest? (b.unclaimed known) with
    | none => exact iff_of_false nofun nofun
    | some least => rw [Except.ok.injEq, Option.some.injEq]
  simp [claims, smallest?_eq_some_iff, unclaimed, and_assoc]

-----------------------------------------------------------------------------------------
-- Claims in a row
-----------------------------------------------------------------------------------------

/-- The book after claims: each of a private key, with the public keys that are known then. -/
def after (b : KeyBook) (claims : List (String × List String)) : KeyBook :=
  claims.foldl (fun b claim => (b.claim claim.1 claim.2).2) b

theorem after_append (b : KeyBook) (claims more : List (String × List String))
    : b.after (claims ++ more) = (b.after claims).after more :=
  List.foldl_append

/-- Claims take no public key away, by induction on them. -/
theorem after_extends (claims : List (String × List String))
    : ∀ (b : KeyBook), b.Extends (b.after claims) := by
  induction claims with
  | nil => exact fun _ _ _ has => has
  | cons claim claims ih =>
      exact fun b key p has => ih _ key p (claim_extends b claim.1 claim.2 key p has)

theorem Injective.after (claims : List (String × List String))
    : ∀ {b : KeyBook}, b.Injective → (b.after claims).Injective := by
  induction claims with
  | nil => exact fun injective => injective
  | cons claim claims ih => exact fun injective => ih (injective.claim claim.1 claim.2)

/-- What a book promises: nobody shares a public key, the claimed public keys are those that stand
for a private key, and the next claim on it keeps a public key that there is, else gives the
smallest known one that is unclaimed, and fails without a change if there is none. The order of the
known public keys and how often they come do not matter.
-/
structure Lawful (b : KeyBook) : Prop where
  injective : b.Injective
  claimed : ∀ p, b.isClaimed p = true ↔ ∃ key, b.publicKey? key = some p
  keeps : ∀ key known p, b.publicKey? key = some p → b.claim key known = (.ok p, b)
  succeeds
    : ∀ key known, b.publicKey? key = none →
        ((∃ p, (b.claim key known).1 = .ok p) ↔ ∃ p ∈ known, b.isClaimed p = false)
  gives
    : ∀ key known p, b.publicKey? key = none → (b.claim key known).1 = .ok p →
        p ∈ known
        ∧ b.isClaimed p = false
        ∧ (∀ other ∈ known, b.isClaimed other = false → p ≤ other)
        ∧ ∀ other, (b.claim key known).2.publicKey? other
            = if key = other then some p else b.publicKey? other
  fails : ∀ key known e, (b.claim key known).1 = .error e → (b.claim key known).2 = b
  anyOrder
    : ∀ key known others, (∀ p, p ∈ known ↔ p ∈ others) →
        b.claim key known = b.claim key others

theorem Injective.lawful (injective : b.Injective) : b.Lawful where
  injective := injective
  claimed := fun _ => isClaimed_iff
  keeps := fun _ known _ has => claim_of_known known has
  succeeds := fun key known fresh => by
    constructor
    · rintro ⟨p, claimed⟩
      obtain ⟨member, unclaimed, -⟩ := (claim_ok_iff fresh).mp claimed
      exact ⟨p, member, unclaimed⟩
    · rintro ⟨p, member, unclaimed⟩
      obtain ⟨_, has, -⟩ | ⟨least, -, -, claim⟩ | ⟨-, none, -⟩ := claim_cases b key known
      · rw [fresh] at has
        cases has
      · exact ⟨least, by rw [claim]⟩
      · have among : p ∈ b.unclaimed known := by simp [KeyBook.unclaimed, member, unclaimed]
        rw [none] at among
        cases among
  gives := fun key known p fresh claimed => by
    obtain ⟨member, unclaimed, least⟩ := (claim_ok_iff fresh).mp claimed
    exact ⟨member, unclaimed, least, publicKey?_claim_fresh fresh claimed⟩
  fails := fun _ _ _ failed => by rw [claim_of_error failed]
  anyOrder := fun _ _ _ same => claim_congr same

end KeyBook

end NodeTrial
