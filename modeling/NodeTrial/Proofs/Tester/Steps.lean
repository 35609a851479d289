import NodeTrial.Proofs.Ledger.Operations
import NodeTrial.Proofs.Result
import NodeTrial.Tester

/-! Steps of a run, one at a time. Two steps in a row are taken apart here once and for all, and
every step of the tester has a lemma that says what it answers and which state it leaves behind,
so that no later proof opens a step again.
-/

namespace NodeTrial

-----------------------------------------------------------------------------------------
-- Steps in a row
-----------------------------------------------------------------------------------------

namespace Step

variable {α β : Type} {t s u : Tester}

theorem pure_eq (value : α) (t : Tester) : (pure value : Step α) t = (.ok value, t) :=
  rfl

theorem bind_of_ok {first : Step α} {next : α → Step β} {value : α}
    (h : first t = (.ok value, s))
    : (first >>= next) t = next value s := by
  change andThen first next t = next value s
  unfold andThen
  rw [h]

theorem bind_of_error {first : Step α} {next : α → Step β} {e : TesterError}
    (h : first t = (.error e, s))
    : (first >>= next) t = (.error e, s) := by
  change andThen first next t = (.error e, s)
  unfold andThen
  rw [h]

/-- A step fails or answers. -/
theorem fails_or_answers (step : Step α) (t : Tester)
    : (∃ e s, step t = (.error e, s)) ∨ ∃ value s, step t = (.ok value, s) := by
  cases done : step t with
  | mk answer s =>
      cases answer with
      | error e => exact .inl ⟨e, s, rfl⟩
      | ok value => exact .inr ⟨value, s, rfl⟩

theorem bind_eq_ok {first : Step α} {next : α → Step β} {value : β}
    (h : (first >>= next) t = (.ok value, u))
    : ∃ middle s, first t = (.ok middle, s) ∧ next middle s = (.ok value, u) := by
  rcases first.fails_or_answers t with ⟨e, s, failed⟩ | ⟨middle, s, done⟩
  · rw [bind_of_error failed] at h
    cases h
  · exact ⟨middle, s, done, (bind_of_ok done).symm.trans h⟩

/-- A step that another answer is put in the place of leaves the same state behind. -/
theorem bind_pure (first : Step α) (value : β) (t : Tester)
    : (first >>= fun _ => pure value) t = ((first t).1.map fun _ => value, (first t).2) := by
  rcases first.fails_or_answers t with ⟨e, s, failed⟩ | ⟨middle, s, done⟩
  · rw [failed]
    exact bind_of_error failed
  · rw [done]
    exact bind_of_ok done

/-- Steps that do the same from their states do the same before a further step. -/
theorem bind_congr {first second : Step α} (h : first t = second s) (next : α → Step β)
    : (first >>= next) t = (second >>= next) s := by
  change andThen first next t = andThen second next s
  unfold andThen
  rw [h]

/-- Every state that a step leaves behind, answering or failing, is related to the one before. -/
def Within (related : Tester → Tester → Prop) (step : Step α) : Prop :=
  ∀ t, related t (step t).2

/-- Two steps in a row keep within a transitive relation that both keep within. -/
theorem Within.bind {related : Tester → Tester → Prop} {first : Step α} {next : α → Step β}
    (trans : ∀ {a b c}, related a b → related b c → related a c) (head : Within related first)
    (tail : ∀ value, Within related (next value))
    : Within related (first >>= next) := by
  intro t
  have reached := head t
  rcases first.fails_or_answers t with ⟨e, s, failed⟩ | ⟨value, s, done⟩
  · rw [failed] at reached
    rw [bind_of_error failed]
    exact reached
  · rw [done] at reached
    rw [bind_of_ok done]
    exact trans reached (tail value s)

theorem Within.ofExcept {related : Tester → Tester → Prop} {ε : Type}
    (refl : ∀ t, related t t) (wrap : ε → TesterError) (result : Except ε α)
    : Within related (Step.ofExcept wrap result) :=
  fun t => refl t

end Step

namespace Tester

-----------------------------------------------------------------------------------------
-- States after actions
-----------------------------------------------------------------------------------------

def acted (t : Tester) (actions : List Action) : Tester :=
  { t with history := t.history ++ actions }

@[simp]
theorem acted_ledger (t : Tester) (actions : List Action) : (t.acted actions).ledger = t.ledger :=
  rfl

@[simp]
theorem acted_nonces (t : Tester) (actions : List Action) : (t.acted actions).nonces = t.nonces :=
  rfl

@[simp]
theorem acted_keys (t : Tester) (actions : List Action) : (t.acted actions).keys = t.keys :=
  rfl

@[simp]
theorem acted_history (t : Tester) (actions : List Action)
    : (t.acted actions).history = t.history ++ actions :=
  rfl

theorem acted_acted (t : Tester) (actions more : List Action)
    : (t.acted actions).acted more = t.acted (actions ++ more) := by
  simp [acted]

theorem acted_nil (t : Tester) : t.acted [] = t := by
  simp [acted]

/-- A state is reached from another one by reads of the server alone. -/
def Reads (t u : Tester) : Prop :=
  ∃ refs : List String, u = t.acted (refs.map .fetch)

theorem Reads.refl (t : Tester) : Reads t t :=
  ⟨[], (acted_nil t).symm⟩

theorem Reads.trans {t s u : Tester} (h : Reads t s) (k : Reads s u) : Reads t u := by
  obtain ⟨refs, rfl⟩ := h
  obtain ⟨more, rfl⟩ := k
  exact ⟨refs ++ more, by rw [acted_acted, List.map_append]⟩

theorem Reads.ledger_eq {t u : Tester} (h : Reads t u) : u.ledger = t.ledger := by
  obtain ⟨refs, rfl⟩ := h
  rfl

section Performing

variable {α ε : Type} {wrap : ε → TesterError} {t : Tester}

/-- An action stays in the history, whether it is answered or fails. -/
theorem perform_of_ok {action : Action} {answer : List Action → Except ε α} {value : α}
    (h : answer t.history = .ok value)
    : perform action wrap answer t = (.ok value, t.acted [action]) := by
  simp [perform, h, acted]

theorem perform_of_error {action : Action} {answer : List Action → Except ε α} {e : ε}
    (h : answer t.history = .error e)
    : perform action wrap answer t = (.error (wrap e), t.acted [action]) := by
  simp [perform, h, acted]

theorem ofExcept_of_ok {result : Except ε α} {value : α} (h : result = .ok value)
    : Step.ofExcept wrap result t = (.ok value, t) := by
  simp [Step.ofExcept, h]

theorem ofExcept_of_error {result : Except ε α} {e : ε} (h : result = .error e)
    : Step.ofExcept wrap result t = (.error (wrap e), t) := by
  simp [Step.ofExcept, h]

end Performing

-----------------------------------------------------------------------------------------
-- Reading balances
-----------------------------------------------------------------------------------------

variable {env : Environment} {config : TesterConfig} {t u : Tester}

/-- After a history of actions the server answers a read with a result. -/
def Answers (env : Environment) (past : List Action) (ref : String) (result : Value) : Prop :=
  ∃ response, env.fetch past ref = .ok response ∧ response.result = .ok result

/-- After a history of actions the server reports a balance for an address. -/
def Reports (env : Environment) (past : List Action) (address : String) (balance : UInt64)
    : Prop :=
  ∃ result, Answers env past (balanceRef address) result
    ∧ reportedBalance address result = .ok balance

/-- A read is one action, and its answer is what the server answers then. -/
theorem getValue_ok {ref : String} {result : Value}
    (h : getValue env config ref t = (.ok result, u))
    : u = t.acted [.fetch ref] ∧ Answers env t.history ref result := by
  obtain ⟨url, s, formed, later⟩ := Step.bind_eq_ok h
  obtain rfl : t = s := congrArg Prod.snd formed
  obtain ⟨response, r, fetched, last⟩ := Step.bind_eq_ok later
  obtain ⟨answered, rfl⟩ := Prod.mk.inj fetched
  obtain ⟨held, rfl⟩ := Prod.mk.inj last
  exact ⟨rfl, response, mapError_eq_ok.mp answered, mapError_eq_ok.mp held⟩

/-- The URL of a read can be formed for a server that names can be joined onto. -/
theorem readUrl_ok {server : Url} (base : server.isBase) (ref : String)
    : ∃ url, readUrl server ref = .ok url := by
  cases path : server.path with
  | bare text => simp [Url.isBase, path] at base
  | rooted segments => simp [readUrl, Url.join, path, bind, Except.bind, pure, Except.pure]

/-- A server that can be asked and answers a read is read in one action. -/
theorem getValue_of_answers {ref : String} {result : Value} (base : config.server.isBase)
    (h : Answers env t.history ref result)
    : getValue env config ref t = (.ok result, t.acted [.fetch ref]) := by
  obtain ⟨response, fetched, read⟩ := h
  obtain ⟨url, formed⟩ := readUrl_ok base ref
  unfold getValue
  rw [Step.bind_of_ok (ofExcept_of_ok formed), Step.bind_of_ok (perform_of_ok fetched)]
  exact ofExcept_of_ok read

theorem getValue_reads (env : Environment) (config : TesterConfig) (ref : String)
    : Step.Within Reads (getValue env config ref) := by
  refine .bind Reads.trans (.ofExcept Reads.refl _ _) fun _ => ?_
  exact .bind Reads.trans (fun t => ⟨[ref], rfl⟩) fun _ => .ofExcept Reads.refl _ _

theorem serverBalance_ok {address : String} {balance : UInt64}
    (h : serverBalance env config address t = (.ok balance, u))
    : u = t.acted [.fetch (balanceRef address)] ∧ Reports env t.history address balance := by
  obtain ⟨result, s, read, later⟩ := Step.bind_eq_ok h
  obtain ⟨rfl, answered⟩ := getValue_ok read
  obtain ⟨held, rfl⟩ := Prod.mk.inj later
  exact ⟨rfl, result, answered, mapError_eq_ok.mp held⟩

theorem serverBalance_of_reports {address : String} {balance : UInt64}
    (base : config.server.isBase) (h : Reports env t.history address balance)
    : serverBalance env config address t
      = (.ok balance, t.acted [.fetch (balanceRef address)]) := by
  obtain ⟨result, answered, reported⟩ := h
  unfold serverBalance
  rw [Step.bind_of_ok (getValue_of_answers base answered)]
  exact ofExcept_of_ok reported

theorem serverBalance_reads (env : Environment) (config : TesterConfig) (address : String)
    : Step.Within Reads (serverBalance env config address) :=
  .bind Reads.trans (getValue_reads env config _) fun _ => .ofExcept Reads.refl _ _

/-- Polling that ends well has read the balance some times, the last time with the expected
answer, by induction on the reads left.
-/
theorem poll_ok {address : String} {expected : UInt64} {left : Nat} {actual : UInt64}
    (h : poll env config address expected left actual t = (.ok (), u))
    : ∃ count < left,
        u = t.acted (List.replicate (count + 1) (.fetch (balanceRef address)))
        ∧ Reports env (t.history ++ List.replicate count (.fetch (balanceRef address))) address
            expected := by
  induction left generalizing t actual with
  | zero => cases h
  | succ left ih =>
      obtain ⟨found, s, read, later⟩ := Step.bind_eq_ok h
      obtain ⟨rfl, reported⟩ := serverBalance_ok read
      split at later
      · next same =>
        have ended : t.acted [.fetch (balanceRef address)] = u := congrArg Prod.snd later
        refine ⟨0, Nat.succ_pos left, ended.symm, ?_⟩
        simpa [same] using reported
      · obtain ⟨count, fewer, rfl, last⟩ := ih later
        refine ⟨count + 1, Nat.succ_lt_succ fewer, ?_, ?_⟩
        · rw [acted_acted, List.singleton_append, ← List.replicate_succ]
        · simpa [List.replicate_succ, List.append_assoc] using last

theorem poll_reads (env : Environment) (config : TesterConfig) (address : String)
    (expected : UInt64) (left : Nat) (actual : UInt64)
    : Step.Within Reads (poll env config address expected left actual) := by
  induction left generalizing actual with
  | zero => exact fun t => Reads.refl t
  | succ left ih =>
      refine .bind Reads.trans (serverBalance_reads env config address) fun found => ?_
      split
      · exact fun t => Reads.refl t
      · exact ih found

theorem publicKey_eq_ok {key address : String}
    (h : publicKey key t = (.ok address, u))
    : u = t ∧ t.keys.publicKey? key = some address := by
  obtain ⟨found, rfl⟩ := Prod.mk.inj h
  refine ⟨rfl, ?_⟩
  have found := mapError_eq_ok.mp found
  unfold KeyBook.publicKey at found
  split at found
  · next known => rw [known, Except.ok.inj found]
  · cases found

theorem publicKey_of_known {key address : String} (known : t.keys.publicKey? key = some address)
    : publicKey key t = (.ok address, t) := by
  simp [publicKey, KeyBook.publicKey, known]

theorem publicKey_of_unknown {key : String} (unknown : t.keys.publicKey? key = none)
    : publicKey key t = (.error (.key (.unknown key)), t) := by
  simp [publicKey, KeyBook.publicKey, unknown]

theorem expectedBalance_eq_ok {key : String} {balance : UInt64}
    (h : expectedBalance key t = (.ok balance, u))
    : u = t ∧ t.ledger.balance? key = some balance := by
  obtain ⟨found, rfl⟩ := Prod.mk.inj h
  exact ⟨rfl, Ledger.balanceOf_ok_iff.mp (mapError_eq_ok.mp found)⟩

theorem expectedBalance_of_known {key : String} {balance : UInt64}
    (known : t.ledger.balance? key = some balance)
    : expectedBalance key t = (.ok balance, t) := by
  simp [expectedBalance, Ledger.balanceOf, known]

/-- The check of an account with a public key and a balance is the poll of that balance. -/
theorem checkBalance_eq_poll {key address : String} {balance : UInt64}
    (known : t.keys.publicKey? key = some address) (held : t.ledger.balance? key = some balance)
    : checkBalance env config key t
      = poll env config address balance (attempts config) 0 t := by
  unfold checkBalance
  rw [Step.bind_of_ok (publicKey_of_known known), Step.bind_of_ok (expectedBalance_of_known held)]

/-- A balance check that ends well: the server was read some times and the last answer was the
balance that the ledger has.
-/
theorem checkBalance_ok {key : String} (h : checkBalance env config key t = (.ok (), u))
    : ∃ address balance count,
        t.keys.publicKey? key = some address
        ∧ t.ledger.balance? key = some balance
        ∧ count < attempts config
        ∧ u = t.acted (List.replicate (count + 1) (.fetch (balanceRef address)))
        ∧ Reports env (t.history ++ List.replicate count (.fetch (balanceRef address))) address
            balance := by
  obtain ⟨address, s, found, later⟩ := Step.bind_eq_ok h
  obtain ⟨rfl, known⟩ := publicKey_eq_ok found
  obtain ⟨balance, r, expected, last⟩ := Step.bind_eq_ok later
  obtain ⟨rfl, held⟩ := expectedBalance_eq_ok expected
  obtain ⟨count, fewer, rfl, reported⟩ := poll_ok last
  exact ⟨address, balance, count, known, held, fewer, rfl, reported⟩

/-- A balance check only reads, whatever comes of it. -/
theorem checkBalance_reads (env : Environment) (config : TesterConfig) (key : String)
    : Step.Within Reads (checkBalance env config key) := by
  refine .bind Reads.trans (fun t => Reads.refl t) fun address => ?_
  refine .bind Reads.trans (fun t => Reads.refl t) fun balance => ?_
  exact poll_reads env config address balance _ 0

theorem attempts_pos (config : TesterConfig) : 0 < attempts config := by
  unfold attempts
  omega

/-- A balance check ends well with its first read when the server reports the ledger's balance. -/
theorem checkBalance_of_reports {key address : String} {balance : UInt64}
    (base : config.server.isBase) (known : t.keys.publicKey? key = some address)
    (held : t.ledger.balance? key = some balance)
    (reported : Reports env t.history address balance)
    : checkBalance env config key t = (.ok (), t.acted [.fetch (balanceRef address)]) := by
  obtain ⟨left, some_left⟩ := Nat.exists_eq_add_one.mpr (attempts_pos config)
  rw [checkBalance_eq_poll known held, some_left, poll,
    Step.bind_of_ok (serverBalance_of_reports base reported), if_pos rfl]
  rfl

-----------------------------------------------------------------------------------------
-- Executing transactions
-----------------------------------------------------------------------------------------

/-- After a history of actions the executor can be run: the file can be written and then the
executor can be started with a key.
-/
def Executes (env : Environment) (past : List Action) (key text : String) : Prop :=
  env.write past text = .ok () ∧ ∃ output, env.execute (past ++ [.write text]) key = .ok output

/-- Whether the executor reports an error makes a difference to the log alone. -/
theorem executeTransaction_eq (key : String) (tx : Transaction)
    : executeTransaction env key tx
      = (writeFile env tx >>= fun _ => runExecutor env key >>= fun _ => pure ()) := by
  have logged (output : ToolOutput)
      : (if output.hadError then logLine output.complaint else logLine "Command successful")
        = pure () := by
    split
    · rfl
    · rfl
  simp only [executeTransaction, logged]

/-- An executed transaction is two actions: the file is written and the executor is run. -/
theorem executeTransaction_ok {key : String} {tx : Transaction}
    (h : executeTransaction env key tx t = (.ok (), u))
    : u = t.acted [.write tx.fileText, .execute key]
      ∧ Executes env t.history key tx.fileText := by
  rw [executeTransaction_eq] at h
  obtain ⟨_, s, written, later⟩ := Step.bind_eq_ok h
  obtain ⟨wrote, rfl⟩ := Prod.mk.inj written
  obtain ⟨output, r, executed, last⟩ := Step.bind_eq_ok later
  obtain ⟨ran, rfl⟩ := Prod.mk.inj executed
  have ended := (congrArg Prod.snd last).symm
  refine ⟨?_, mapError_eq_ok.mp wrote, output, mapError_eq_ok.mp ran⟩
  simpa [Step.pure_eq, acted] using ended

theorem executeTransaction_of_executes {key : String} {tx : Transaction}
    (h : Executes env t.history key tx.fileText)
    : executeTransaction env key tx t
      = (.ok (), t.acted [.write tx.fileText, .execute key]) := by
  obtain ⟨wrote, output, ran⟩ := h
  have written : writeFile env tx t = (.ok (), t.acted [.write tx.fileText]) :=
    perform_of_ok wrote
  have executed : runExecutor env key (t.acted [.write tx.fileText])
      = (.ok output, (t.acted [.write tx.fileText]).acted [.execute key]) :=
    perform_of_ok ran
  rw [executeTransaction_eq, Step.bind_of_ok written, Step.bind_of_ok executed, acted_acted]
  rfl

theorem executeTransaction_of_unwritten {key : String} {tx : Transaction} {failure : IoError}
    (failed : env.write t.history tx.fileText = .error failure)
    : executeTransaction env key tx t = (.error (.io failure), t.acted [.write tx.fileText]) := by
  have written : writeFile env tx t = (.error (.io failure), t.acted [.write tx.fileText]) :=
    perform_of_error failed
  rw [executeTransaction_eq, Step.bind_of_error written]

theorem executeTransaction_of_unstarted {key : String} {tx : Transaction} {failure : IoError}
    (wrote : env.write t.history tx.fileText = .ok ())
    (failed : env.execute (t.history ++ [.write tx.fileText]) key = .error failure)
    : executeTransaction env key tx t
      = (.error (.io failure), t.acted [.write tx.fileText, .execute key]) := by
  have written : writeFile env tx t = (.ok (), t.acted [.write tx.fileText]) :=
    perform_of_ok wrote
  have executed : runExecutor env key (t.acted [.write tx.fileText])
      = (.error (.io failure), (t.acted [.write tx.fileText]).acted [.execute key]) :=
    perform_of_error failed
  rw [executeTransaction_eq, Step.bind_of_ok written, Step.bind_of_error executed, acted_acted]
  rfl

/-- A transaction that was not executed has left at most the two actions behind, and the second
one only if the executor could not be started.
-/
theorem executeTransaction_error {key : String} {tx : Transaction} {e : TesterError}
    (h : executeTransaction env key tx t = (.error e, u))
    : u = t.acted [.write tx.fileText]
      ∨ u = t.acted [.write tx.fileText, .execute key]
        ∧ ∀ output, env.execute (t.history ++ [.write tx.fileText]) key ≠ .ok output := by
  cases wrote : env.write t.history tx.fileText with
  | error failure =>
      rw [executeTransaction_of_unwritten wrote] at h
      exact .inl (congrArg Prod.snd h).symm
  | ok _ =>
      cases ran : env.execute (t.history ++ [.write tx.fileText]) key with
      | ok output =>
          rw [executeTransaction_of_executes ⟨wrote, output, ran⟩] at h
          cases h
      | error failure =>
          rw [executeTransaction_of_unstarted wrote ran] at h
          exact .inr ⟨(congrArg Prod.snd h).symm, fun output => by simp⟩

end Tester

end NodeTrial
