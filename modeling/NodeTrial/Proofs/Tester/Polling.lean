import NodeTrial.Proofs.Tester.Claims

/-! Balance checks, however they end. A check reads the server's balance again and again until a
read fails or reports what the ledger expects, or until as many reads as are allowed have reported
something else. What the reads come to in turn can be any sequence, since an answer may depend on
all the actions before it, and this sequence alone decides how the check ends.
-/

namespace NodeTrial.Tester

-----------------------------------------------------------------------------------------
-- Reads in turn
-----------------------------------------------------------------------------------------

/-- A number of reads of a balance. -/
def asked (address : String) (count : Nat) : List Action :=
  List.replicate count (.fetch (balanceRef address))

theorem asked_succ (address : String) (count : Nat)
    : asked address (count + 1) = asked address count ++ [.fetch (balanceRef address)] :=
  List.replicate_succ'

variable (env : Environment) (config : TesterConfig)

/-- What the read of a balance comes to that follows so many others, a balance or an error. -/
def reading (address : String) (t : Tester) (i : Nat) : Except TesterError UInt64 :=
  (serverBalance env config address (t.acted (asked address i))).1

/-- The read that follows so many others reports another balance than the expected one. -/
def Misses (address : String) (expected : UInt64) (t : Tester) (i : Nat) : Prop :=
  ∃ other, reading env config address t i = .ok other ∧ other ≠ expected

/-- A state that calls of a fresh tester lead to. -/
def Reached (t : Tester) : Prop :=
  ∃ l words calls, t = afterCalls env config calls (.start l words)

variable {env config} {key address : String} {expected : UInt64} {t : Tester}

/-- A read of a server that can be asked is one action, whatever comes of it. -/
theorem getValue_leaves (base : config.server.isBase) (ref : String) (t : Tester)
    : (getValue env config ref t).2 = t.acted [.fetch ref] := by
  obtain ⟨url, formed⟩ := readUrl_ok base ref
  unfold getValue
  rw [Step.bind_of_ok (ofExcept_of_ok formed)]
  cases fetched : env.fetch t.history ref with
  | error e => rw [Step.bind_of_error (perform_of_error fetched)]
  | ok response =>
      rw [Step.bind_of_ok (perform_of_ok fetched)]
      rfl

theorem serverBalance_leaves (base : config.server.isBase) (address : String) (t : Tester)
    : (serverBalance env config address t).2 = t.acted [.fetch (balanceRef address)] := by
  have left : (getValue env config (balanceRef address) t).2 = _ := getValue_leaves base _ t
  unfold serverBalance
  rcases (getValue env config (balanceRef address)).fails_or_answers t with
    ⟨e, s, read⟩ | ⟨result, s, read⟩
  · rw [read] at left
    rwa [Step.bind_of_error read]
  · rw [read] at left
    rwa [Step.bind_of_ok read]

theorem serverBalance_asked (base : config.server.isBase) (i : Nat)
    : serverBalance env config address (t.acted (asked address i))
      = (reading env config address t i, t.acted (asked address (i + 1))) := by
  refine Prod.ext rfl ?_
  rw [serverBalance_leaves base, acted_acted, ← asked_succ]

-----------------------------------------------------------------------------------------
-- Polls
-----------------------------------------------------------------------------------------

section Polls

variable (base : config.server.isBase) {i : Nat} (left : Nat) (actual : UInt64)

include base

theorem poll_fails {e : TesterError} (failed : reading env config address t i = .error e)
    : poll env config address expected (left + 1) actual (t.acted (asked address i))
      = (.error e, t.acted (asked address (i + 1))) := by
  rw [poll]
  exact Step.bind_of_error (failed ▸ serverBalance_asked base i)

theorem poll_finds (found : reading env config address t i = .ok expected)
    : poll env config address expected (left + 1) actual (t.acted (asked address i))
      = (.ok (), t.acted (asked address (i + 1))) := by
  rw [poll, Step.bind_of_ok (found ▸ serverBalance_asked base i), if_pos rfl]
  rfl

theorem poll_misses {other : UInt64} (reported : reading env config address t i = .ok other)
    (wrong : other ≠ expected)
    : poll env config address expected (left + 1) actual (t.acted (asked address i))
      = poll env config address expected left other (t.acted (asked address (i + 1))) := by
  rw [poll, Step.bind_of_ok (reported ▸ serverBalance_asked base i), if_neg wrong]

/-- Polling passes over reads that miss, by induction on them: as many fewer are left, and the
last of them is what the poll remembers.
-/
theorem poll_passes {count : Nat} (missed : ∀ i < count, Misses env config address expected t i)
    : ∃ last,
        poll env config address expected (count + left) actual t
          = poll env config address expected left last (t.acted (asked address count))
        ∧ ∀ i, count = i + 1 → reading env config address t i = .ok last := by
  induction count generalizing left with
  | zero =>
      refine ⟨actual, ?_, nofun⟩
      rw [Nat.zero_add]
      exact congrArg _ (acted_nil t).symm
  | succ count ih =>
      obtain ⟨last, passed, -⟩ := ih (left + 1) fun i below => missed i (Nat.lt_succ_of_lt below)
      obtain ⟨other, reported, wrong⟩ := missed count (Nat.lt_succ_self count)
      refine ⟨other, ?_, ?_⟩
      · rw [Nat.succ_add_eq_add_succ, passed, poll_misses base left last reported wrong]
      · rintro i same
        rwa [← Nat.succ.inj same]

end Polls

-----------------------------------------------------------------------------------------
-- Checks
-----------------------------------------------------------------------------------------

variable (env config key address expected t) in
/-- The ways in which the check of a balance ends. It stops at the first read that fails, with its
error, and at the first one that reports the expected balance; when all that are allowed report
others it tells the last of them. It has then made just the reads up to its end, and it has
touched neither the ledger nor the nonces nor the key book.
-/
structure Polled : Prop where
  failed
    : ∀ i < attempts config, (∀ j < i, Misses env config address expected t j) →
        ∀ e, reading env config address t i = .error e →
          checkBalance env config key t = (.error e, t.acted (asked address (i + 1)))
  found
    : ∀ i < attempts config, (∀ j < i, Misses env config address expected t j) →
        reading env config address t i = .ok expected →
          checkBalance env config key t = (.ok (), t.acted (asked address (i + 1)))
  missed
    : (∀ i < attempts config, Misses env config address expected t i) →
        ∃ actual,
          reading env config address t (attempts config - 1) = .ok actual
          ∧ checkBalance env config key t
            = (.error (.wrongBalance ⟨address, expected, actual, attempts config⟩),
                t.acted (asked address (attempts config)))
  keepsLedger : (checkBalance env config key t).2.ledger = t.ledger
  keepsNonces : (checkBalance env config key t).2.nonces = t.nonces
  keepsKeys : (checkBalance env config key t).2.keys = t.keys

/-- A check at a server that can be asked. -/
theorem polled_of_isBase (base : config.server.isBase)
    (known : t.keys.publicKey? key = some address)
    (held : t.ledger.balance? key = some expected)
    : Polled env config key address expected t := by
  obtain ⟨refs, reads⟩ := checkBalance_reads env config key t
  have checks : checkBalance env config key t = _ := checkBalance_eq_poll known held
  -- the reads before the one at an index miss, and that one and some more are left
  have reaches (i : Nat) (within : i < attempts config)
      (missed : ∀ j < i, Misses env config address expected t j)
      : ∃ left last, checkBalance env config key t
          = poll env config address expected (left + 1) last (t.acted (asked address i)) := by
    obtain ⟨left, total⟩ := Nat.exists_eq_add_of_lt within
    obtain ⟨last, passed, -⟩ := poll_passes base (left + 1) 0 missed
    refine ⟨left, last, ?_⟩
    rw [checks, total, Nat.add_assoc, passed]
  refine ⟨fun i within missed e failed => ?_, fun i within missed found => ?_, fun missed => ?_,
    ?_, ?_, ?_⟩
  · obtain ⟨left, last, reached⟩ := reaches i within missed
    rw [reached, poll_fails base left last failed]
  · obtain ⟨left, last, reached⟩ := reaches i within missed
    rw [reached, poll_finds base left last found]
  · obtain ⟨last, passed, told⟩ := poll_passes base 0 0 missed
    have positive := attempts_pos config
    refine ⟨last, told _ (Nat.sub_add_cancel positive).symm, ?_⟩
    rw [checks, ← Nat.add_zero (attempts config), passed]
    rfl
  · rw [reads, acted_ledger]
  · rw [reads, acted_nonces]
  · rw [reads, acted_keys]

-----------------------------------------------------------------------------------------
-- Servers that cannot be asked
-----------------------------------------------------------------------------------------

section NotBase

variable (notBase : config.server.isBase = false)

include notBase

/-- A read of a server that names cannot be joined onto fails before it does anything. -/
theorem getValue_of_notBase (ref : String) (t : Tester)
    : getValue env config ref t = (.error (.url .notABase), t) := by
  have unformed : readUrl config.server ref = .error .notABase := by
    cases path : config.server.path with
    | bare text => simp [readUrl, Url.join, path, bind, Except.bind]
    | rooted segments => simp [Url.isBase, path] at notBase
  unfold getValue
  rw [Step.bind_of_error (ofExcept_of_error unformed)]

/-- Nothing is learned of such a server. -/
theorem keptByDiscovery_of_notBase
    : KeptByDiscovery env config fun t u => u.keys = t.keys := by
  intro key t
  have unlisted : accountAddresses env config t = (.error (.url .notABase), t) :=
    Step.bind_of_error (getValue_of_notBase notBase accountsRef t)
  unfold discoverPublicKey
  rw [Step.bind_of_error unlisted]

theorem checkBalance_of_notBase (known : t.keys.publicKey? key = some address)
    (held : t.ledger.balance? key = some expected)
    : checkBalance env config key t = (.error (.url .notABase), t) := by
  have unread : serverBalance env config address t = (.error (.url .notABase), t) :=
    Step.bind_of_error (getValue_of_notBase notBase (balanceRef address) t)
  obtain ⟨left, some_left⟩ := Nat.exists_eq_add_one.mpr (attempts_pos config)
  rw [checkBalance_eq_poll known held, some_left, poll, Step.bind_of_error unread]

end NotBase

/-- A reached state that knows a public key has learned it from a server that can be asked. -/
theorem Reached.isBase (reached : Reached env config t)
    (known : t.keys.publicKey? key = some address)
    : config.server.isBase := by
  obtain ⟨l, words, calls, rfl⟩ := reached
  cases base : config.server.isBase with
  | true => rfl
  | false =>
      have unlearned : (afterCalls env config calls (.start l words)).keys = .empty :=
        afterCalls_discovering keys_kept (keptByDiscovery_of_notBase base) calls _
      rw [unlearned] at known
      cases known

/-- The check of an account with a public key and a balance polls the server, in every state that
calls of a tester lead to, whatever the server answers; it may always read once. States that no
calls lead to are no different unless the server is one that cannot be asked: there the check fails
at once.
-/
theorem checkBalance_polls (known : t.keys.publicKey? key = some address)
    (held : t.ledger.balance? key = some expected)
    : attempts config = max 1 config.attempts.toNat
      ∧ (Reached env config t ∨ config.server.isBase → Polled env config key address expected t)
      ∧ (config.server.isBase = false →
          checkBalance env config key t = (.error (.url .notABase), t)) := by
  refine ⟨rfl, fun asks => ?_, fun notBase => checkBalance_of_notBase notBase known held⟩
  rcases asks with reached | base
  · exact polled_of_isBase (reached.isBase known) known held
  · exact polled_of_isBase base known held

/-- A server of one account, which it reports with what it had before until there have been four
actions.
-/
def lagging : Environment where
  write _ _ := .ok ()
  execute _ _ := .ok Node.sent
  fetch past ref :=
    .ok <|
      if ref = accountsRef then Node.enveloped (.object [("pub", .null)])
      else Node.enveloped (Node.balanceJson false (if past.length < 4 then 4 else 5))

/-- The state after the account was seeded there, which takes three actions. -/
def oneSeeded : Tester :=
  afterCalls lagging Node.twoTransfers [.seed] (.start (Ledger.empty.set "alice" 5) ⟨[], 0⟩)

/-- The first read of the balance misses and the second one does not. -/
theorem checkBalance_polls_lagging
    : checkBalance lagging Node.twoTransfers "alice" oneSeeded
      = (.ok (), oneSeeded.acted (asked "pub" 2)) := by
  have known : oneSeeded.keys.publicKey? "alice" = some "pub" := by decide +kernel
  have held : oneSeeded.ledger.balance? "alice" = some 5 := by decide +kernel
  have polled : Polled lagging Node.twoTransfers "alice" "pub" 5 oneSeeded :=
    (checkBalance_polls known held).2.1 (.inl ⟨_, _, _, rfl⟩)
  have first : reading lagging Node.twoTransfers "pub" oneSeeded 0 = .ok 4 :=
    toOption_eq_some.mp (by decide +kernel)
  have second : reading lagging Node.twoTransfers "pub" oneSeeded 1 = .ok 5 :=
    toOption_eq_some.mp (by decide +kernel)
  refine polled.found 1 (by decide) (fun i below => ?_) second
  obtain rfl := Nat.lt_one_iff.mp below
  exact ⟨4, first, by decide⟩

end NodeTrial.Tester
