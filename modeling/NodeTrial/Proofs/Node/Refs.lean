import NodeTrial.Node
import NodeTrial.Proofs.Text.Division
import NodeTrial.Proofs.Text.Numeral

/-! The refs of transactions as the node takes them apart. A signer's address takes the place of
the one placeholder in a ref, and as addresses hold no slash the parts of the ref are those that it
was put together from.
-/

namespace NodeTrial

open Transaction (placeholder)

namespace Node

def NoSlash (text : String) : Prop :=
  '/' ∉ text.toList

instance (text : String) : Decidable (NoSlash text) :=
  inferInstanceAs (Decidable ('/' ∉ text.toList))

def NoPlaceholder (text : String) : Prop :=
  ¬ placeholder.toList <:+: text.toList

theorem NoSlash.unmarked {text : String} (h : NoSlash text)
    : ∀ c ∈ text.toList, (c == '/') = false := by
  intro c member
  rw [beq_eq_false_iff_ne]
  rintro rfl
  exact h member

theorem noSlash_natText (n : Nat) : NoSlash (Text.natText n) :=
  fun slash => absurd (Text.isDigit_of_mem_natText slash) (by decide)

/-- A placeholder starts with a brace, so a text without braces holds none. -/
theorem noPlaceholder_of_noBrace {text : String} (noBrace : '\x7b' ∉ text.toList)
    : NoPlaceholder text :=
  fun found => noBrace (found.subset (by decide))

theorem noPlaceholder_natText (n : Nat) : NoPlaceholder (Text.natText n) :=
  noPlaceholder_of_noBrace fun brace => absurd (Text.isDigit_of_mem_natText brace) (by decide)

-----------------------------------------------------------------------------------------
-- Placeholders
-----------------------------------------------------------------------------------------

/-- A pattern without a slash does not reach over one, by induction on the pattern. -/
theorem isPrefixOf_append_slash {pattern : List Char} (noSlash : '/' ∉ pattern)
    (cs rest : List Char)
    : pattern.isPrefixOf (cs ++ '/' :: rest) = pattern.isPrefixOf cs := by
  induction pattern generalizing cs with
  | nil => rw [List.isPrefixOf_nil_left, List.isPrefixOf_nil_left]
  | cons p pattern ih =>
      cases cs with
      | nil =>
          have other : (p == '/') = false := by
            rw [beq_eq_false_iff_ne]
            rintro rfl
            exact noSlash List.mem_cons_self
          rw [List.nil_append, List.isPrefixOf_cons_cons, other, Bool.false_and]
          rfl
      | cons c cs =>
          have others := ih (fun slash => noSlash (List.mem_cons_of_mem p slash)) cs
          rw [List.cons_append, List.isPrefixOf_cons_cons, List.isPrefixOf_cons_cons, others]

/-- Where no placeholder starts, a character stays and the rest is looked at. -/
theorem resolveFrom_cons (address : List Char) {c : Char} {cs : List Char}
    (other : ¬ placeholder.toList.isPrefixOf (c :: cs) = true)
    : resolveFrom address 0 (c :: cs) = c :: resolveFrom address 0 cs := by
  rw [resolveFrom, if_neg other]

/-- Placeholders are replaced on both sides of a slash by themselves: none reaches over it. The
induction is on the text before the slash, of which some characters may be left out.
-/
theorem resolveFrom_append (address cs rest : List Char)
    : ∀ (skip : Nat), skip ≤ cs.length →
        resolveFrom address skip (cs ++ '/' :: rest)
          = resolveFrom address skip cs ++ '/' :: resolveFrom address 0 rest := by
  have noSlash : '/' ∉ placeholder.toList := by decide
  induction cs with
  | nil =>
      intro skip none
      obtain rfl := Nat.le_zero.mp none
      have other : ¬ placeholder.toList.isPrefixOf ('/' :: rest) = true := by
        have apart := isPrefixOf_append_slash noSlash [] rest
        rw [List.nil_append] at apart
        rw [apart]
        decide
      rw [List.nil_append, resolveFrom_cons address other]
      rfl
  | cons c cs ih =>
      rintro (_ | skip) fits
      · have apart := isPrefixOf_append_slash noSlash (c :: cs) rest
        rw [List.cons_append] at apart ⊢
        rw [resolveFrom, resolveFrom, apart]
        split
        · next here =>
          have long := (List.isPrefixOf_iff_prefix.mp here).length_le
          have eight : placeholder.length - 1 ≤ cs.length := by
            rw [String.length_toList, List.length_cons] at long
            omega
          rw [ih _ eight, List.append_assoc]
        · rw [ih 0 (Nat.zero_le _), List.cons_append]
      · rw [List.cons_append, resolveFrom, resolveFrom, ih skip (Nat.le_of_succ_le_succ fits)]

/-- A text without a placeholder stays as it is, by induction on its characters. -/
theorem resolveFrom_of_absent (address : List Char) {cs : List Char}
    (absent : ¬ placeholder.toList <:+: cs)
    : resolveFrom address 0 cs = cs := by
  induction cs with
  | nil => rfl
  | cons c cs ih =>
      have here : ¬ placeholder.toList.isPrefixOf (c :: cs) = true := fun found =>
        absent (List.isPrefixOf_iff_prefix.mp found).isInfix
      have later : ¬ placeholder.toList <:+: cs := fun found =>
        absent (List.infix_cons found)
      rw [resolveFrom_cons address here, ih later]

-----------------------------------------------------------------------------------------
-- The refs of transactions
-----------------------------------------------------------------------------------------

/-- The first part of a ref is what stands before its first slash, with placeholders replaced. -/
theorem sections_resolveFrom {address part resolved : List Char}
    (same : resolveFrom address 0 part = resolved)
    (unmarked : ∀ c ∈ resolved, (c == '/') = false) (rest : List Char)
    : Text.sections (· == '/') (resolveFrom address 0 (part ++ '/' :: rest))
      = resolved :: Text.sections (· == '/') (resolveFrom address 0 rest) := by
  rw [resolveFrom_append address part rest 0 (Nat.zero_le _), same]
  exact Text.sections_append rfl _ unmarked

theorem resolveFrom_placeholder (address : List Char)
    : resolveFrom address 0 placeholder.toList = address :=
  List.append_nil address

section Parts

variable {address : String} (noSlash : NoSlash address)

include noSlash

theorem refParts_balanceSet (w nonce : UInt64)
    : refParts address (Transaction.balanceSet w nonce).ref
      = ["", "account", address, "balance"] := by
  have shape : (Transaction.balanceSet w nonce).ref.toList
      = [] ++ '/' :: ("account".toList
        ++ '/' :: (placeholder.toList ++ '/' :: "balance".toList)) := by
    simp only [Transaction.balanceSet, String.toList_append, List.append_assoc]
    rfl
  have word : resolveFrom address.toList 0 "account".toList = "account".toList := rfl
  have last : resolveFrom address.toList 0 "balance".toList = "balance".toList := rfl
  have firstPlain : NoSlash "account" := by decide
  have lastPlain : NoSlash "balance" := by decide
  rw [refParts, resolve, shape, sections_resolveFrom rfl (by simp [resolveFrom]),
    sections_resolveFrom word firstPlain.unmarked,
    sections_resolveFrom (resolveFrom_placeholder _) noSlash.unmarked, last,
    Text.sections_of_unmarked lastPlain.unmarked]
  simp [resolveFrom]

/-- The parts of the ref at which a transfer's value is set. -/
theorem refParts_transfer {receiver : String} (receiverNoSlash : NoSlash receiver)
    (noPlaceholder : NoPlaceholder receiver) (nonce : UInt64)
    : refParts address (Transaction.transferRef receiver nonce)
      = ["", "transfer", address, receiver, Text.natText nonce.toNat, "value"] := by
  have shape : (Transaction.transferRef receiver nonce).toList
      = [] ++ '/' :: ("transfer".toList ++ '/' :: (placeholder.toList ++ '/' :: (receiver.toList
        ++ '/' :: ((Text.natText nonce.toNat).toList ++ '/' :: "value".toList)))) := by
    simp only [Transaction.transferRef, String.toList_append, List.append_assoc]
    rfl
  have word : resolveFrom address.toList 0 "transfer".toList = "transfer".toList := rfl
  have last : resolveFrom address.toList 0 "value".toList = "value".toList := rfl
  have firstPlain : NoSlash "transfer" := by decide
  have lastPlain : NoSlash "value" := by decide
  have number := noPlaceholder_natText nonce.toNat
  rw [refParts, resolve, shape, sections_resolveFrom rfl (by simp [resolveFrom]),
    sections_resolveFrom word firstPlain.unmarked,
    sections_resolveFrom (resolveFrom_placeholder _) noSlash.unmarked,
    sections_resolveFrom (resolveFrom_of_absent _ noPlaceholder) receiverNoSlash.unmarked,
    sections_resolveFrom (resolveFrom_of_absent _ number) (noSlash_natText _).unmarked, last,
    Text.sections_of_unmarked lastPlain.unmarked]
  simp [resolveFrom]

/-- The ref of an account's balance names the account's address. -/
theorem balanceAddress?_balanceRef : balanceAddress? (balanceRef address) = some address := by
  have shape : (balanceRef address).toList
      = [] ++ '/' :: ("account".toList ++ '/' :: (address.toList ++ '/' :: "balance".toList)) := by
    simp only [balanceRef, accountsRef, String.toList_append, List.append_assoc]
    rfl
  have firstPlain : NoSlash "account" := by decide
  have lastPlain : NoSlash "balance" := by decide
  rw [balanceAddress?, shape, Text.sections_append rfl _ (by simp),
    Text.sections_append rfl _ firstPlain.unmarked, Text.sections_append rfl _ noSlash.unmarked,
    Text.sections_of_unmarked lastPlain.unmarked]
  simp

end Parts

/-- The ref of a balance is not that of the map of all accounts: it is longer. -/
theorem balanceRef_ne_accountsRef (address : String) : balanceRef address ≠ accountsRef := by
  intro same
  have long := congrArg String.length same
  simp only [balanceRef, String.length_append] at long
  have slash : "/".length = 1 := rfl
  omega

/-- The balance that a transaction sets and the value that it moves are unsigned words. -/
theorem valueOf_word (t : Transaction) {w : UInt64} (h : t.value = .word w)
    : valueOf t = (w.toNat : Int) := by
  rw [valueOf, h]
  simp [Value.word, Whole.word?, Whole.ofWord]

end Node

end NodeTrial
