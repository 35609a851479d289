import NodeTrial.NonceBook
import NodeTrial.Proofs.Table.Lookup
import NodeTrial.Transaction

/-! Nonces in a row. A signer's next nonce is the number of those that it was handed before, so the
transactions of one signer are numbered without a gap, whoever else signs between them.
-/

namespace NodeTrial

namespace NonceBook

@[simp]
theorem upcoming_empty (key : String) : empty.upcoming key = 0 :=
  rfl

theorem upcoming_next (b : NonceBook) (key : String)
    : (b.next key).2.upcoming key = b.upcoming key + 1 := by
  unfold next upcoming
  rw [Table.get?_insert_self]
  rfl

/-- Handing out a nonce leaves the nonces of all other signers alone. -/
theorem upcoming_next_of_ne {b : NonceBook} {key other : String} (h : key ≠ other)
    : (b.next key).2.upcoming other = b.upcoming other := by
  unfold next upcoming
  rw [Table.get?_insert_of_ne _ _ h]

/-- The book after nonces have been handed to signers in a row. -/
def after (b : NonceBook) (keys : List String) : NonceBook :=
  keys.foldl (fun b key => (b.next key).2) b

theorem after_append (b : NonceBook) (keys more : List String)
    : b.after (keys ++ more) = (b.after keys).after more :=
  List.foldl_append

/-- Each nonce handed to a signer moves its next one up by one, by induction on the signers. -/
theorem upcoming_after (keys : List String)
    : ∀ (b : NonceBook) (key : String),
        (b.after keys).upcoming key = b.upcoming key + .ofNat (keys.count key) := by
  induction keys with
  | nil => exact fun b key => (UInt64.add_zero _).symm
  | cons signer keys ih =>
      intro b key
      have later := ih (b.next signer).2 key
      change ((b.next signer).2.after keys).upcoming key = _
      by_cases same : signer = key
      · subst same
        rw [later, upcoming_next, List.count_cons_self, UInt64.ofNat_add, UInt64.add_assoc,
          UInt64.add_comm 1]
        rfl
      · rw [later, upcoming_next_of_ne same, List.count_cons_of_ne same]

/-- The nonce that a signer is handed is the number of those that it was handed before. -/
theorem next_after {earlier : List String} {key : String} (fewer : earlier.count key < UInt64.size)
    : ((empty.after earlier).next key).1.toNat = earlier.count key := by
  change ((empty.after earlier).upcoming key).toNat = _
  rw [upcoming_after, upcoming_empty, UInt64.zero_add]
  exact UInt64.toNat_ofNat_of_lt' fewer

/-- Transactions carry the nonces that their signers are handed in turn. -/
def Numbered : NonceBook → List (String × Transaction) → Prop
  | _, [] => True
  | b, (key, tx) :: signed => tx.nonce = b.upcoming key ∧ Numbered (b.next key).2 signed

theorem Numbered.append {signed more : List (String × Transaction)}
    : ∀ {b : NonceBook}, b.Numbered signed → (b.after (signed.map (·.1))).Numbered more →
        b.Numbered (signed ++ more) := by
  induction signed with
  | nil => exact fun _ later => later
  | cons s signed ih => exact fun ⟨first, others⟩ later => ⟨first, ih others later⟩

end NonceBook

/-- The transactions that one signer has signed, in order. -/
def signedBy (key : String) (signed : List (String × Transaction)) : List Transaction :=
  (signed.filter fun s => s.1 = key).map (·.2)

theorem signedBy_cons_self (key : String) (tx : Transaction) (signed : List (String × Transaction))
    : signedBy key ((key, tx) :: signed) = tx :: signedBy key signed := by
  simp [signedBy]

theorem signedBy_cons_of_ne {key other : String} (tx : Transaction)
    (signed : List (String × Transaction)) (different : other ≠ key)
    : signedBy key ((other, tx) :: signed) = signedBy key signed := by
  simp [signedBy, different]

theorem length_signedBy (key : String) (signed : List (String × Transaction))
    : (signedBy key signed).length = (signed.map (·.1)).count key := by
  induction signed with
  | nil => rfl
  | cons s signed ih =>
      obtain ⟨other, tx⟩ := s
      by_cases same : other = key
      · subst same
        rw [signedBy_cons_self, List.length_cons, ih, List.map_cons, List.count_cons_self]
      · rw [signedBy_cons_of_ne tx signed same, ih, List.map_cons, List.count_cons_of_ne same]

/-- A signer whose next nonce is known numbers its transactions from that one on, by induction on
the transactions of all signers.
-/
theorem NonceBook.Numbered.nonces {key : String} {signed : List (String × Transaction)}
    : ∀ {b : NonceBook} {start : Nat}, b.Numbered signed → b.upcoming key = .ofNat start →
        start + (signedBy key signed).length ≤ UInt64.size →
        (signedBy key signed).map (·.nonce.toNat)
          = List.range' start (signedBy key signed).length := by
  induction signed with
  | nil => exact fun _ _ _ => rfl
  | cons s signed ih =>
      intro b start numbered upcoming room
      obtain ⟨other, tx⟩ := s
      obtain ⟨first, others⟩ := numbered
      by_cases same : other = key
      · subst same
        rw [signedBy_cons_self, List.length_cons] at room ⊢
        have nonce : tx.nonce.toNat = start := by
          rw [first, upcoming]
          have below : start < UInt64.size := by omega
          exact UInt64.toNat_ofNat_of_lt' below
        have next : (b.next other).2.upcoming other = .ofNat (start + 1) := by
          rw [upcoming_next, upcoming, UInt64.ofNat_add]
          rfl
        rw [List.map_cons, nonce, ih others next (by omega), List.range'_succ]
      · rw [signedBy_cons_of_ne tx signed same] at room ⊢
        exact ih others ((upcoming_next_of_ne same).trans upcoming) room

end NodeTrial
