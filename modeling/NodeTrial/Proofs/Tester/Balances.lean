import NodeTrial.Proofs.Envelope.Place
import NodeTrial.Proofs.FieldOrder
import NodeTrial.Proofs.Json.Literal
import NodeTrial.Proofs.Operation.RoundTrip
import NodeTrial.Proofs.Tester.Polling
import NodeTrial.Proofs.Text.Utf8

/-! What a reply says about a balance. Only an envelope whose result is spelled in digits reports
one, as a number without a sign or as a text, and only if the number fits a word; every other reply
is an error, never another number. A status that is no refusal does not keep an envelope from being
read, so that one past the classes of errors passes for a success.
-/

namespace NodeTrial

open Json Text

-----------------------------------------------------------------------------------------
-- Balances in envelopes
-----------------------------------------------------------------------------------------

/-- A text is an envelope that reports a number as a balance: its result is the literal of the
number, or a text that, blanks around it aside, spells the number after a plus sign or after none.
-/
def Envelope.Reports (input : List Symbol) (n : Nat) : Prop :=
  ∃ e, parse input = .ok e
    ∧ (Wraps input e.code (symbols (natText n))
      ∨ ∃ s, e.result = .text s ∧ IsNumeral (trim s).toList n)

theorem Whole.word?_eq_some_iff {n : Whole} {w : UInt64} : n.word? = some w ↔ n.val = w.toNat := by
  have fits := n.inRange.2
  rw [Whole.word?]
  split
  · next nonneg =>
    rw [Option.some.injEq, ← UInt64.toNat_inj, UInt64.toNat_ofNat_of_lt' (by
      simp only [UInt64.size]; omega)]
    omega
  · next negative => exact iff_of_false (by simp) (by omega)

theorem Json.eq_number_of_canonical {j : Json} {n : Number} (same : j.canonical = .number n)
    : j = .number n := by
  cases j with
  | number m => rwa [canonical] at same
  | null | bool | text | list | object => simp [canonical] at same

/-- The literal of a number that fits a word denotes the number. -/
theorem denotes_word (depth : Nat) (w : UInt64)
    : Denotes (readTree depth) (symbols (natText w.toNat)) (.number (.whole (.ofWord w))) :=
  readTree_whole depth (.ofWord w)

namespace Envelope

/-- Blanks before the text of a result belong to what stands around it. -/
theorem Wraps.of_blanks {input blanks text : List Symbol} {code : Option Int64}
    (blank : Blank blanks) (wraps : Wraps input code (blanks ++ text))
    : Wraps input code text := by
  obtain ⟨front, back, some, rfl, exchange⟩ := wraps
  refine ⟨front ++ blanks, back, by simp [some], by simp, fun other value denotes => ?_⟩
  have behind : Denotes (readTree (maxDepth - 1)) (blanks ++ other) value := by
    intro rest ends
    have same : skipSpace (blanks ++ other ++ rest) = skipSpace (other ++ rest) := by
      rw [List.append_assoc, skipSpace, List.dropWhile_append_of_pos blank, skipSpace]
    rw [← readTree_skipSpace, same, readTree_skipSpace]
    exact denotes rest ends
  simpa using exchange (blanks ++ other) value behind

/-- What stands as the result of an envelope is its result. -/
theorem Wraps.parse_eq {input text : List Symbol} {code : Option Int64} {j : Json}
    (wraps : Wraps input code text) (denotes : Denotes (readTree (maxDepth - 1)) text j)
    : parse input = .ok ⟨code, .ofJson j⟩ := by
  obtain ⟨front, back, -, rfl, exchange⟩ := wraps
  exact exchange text j denotes

/-- The value of an envelope is a balance just when the text of the envelope reports it. -/
theorem balanceOf?_iff {input : List Symbol} {e : Envelope} (read : parse input = .ok e)
    {w : UInt64}
    : balanceOf? e.result.json = some w ↔ Reports input w.toNat := by
  constructor
  · intro found
    refine ⟨e, read, ?_⟩
    unfold balanceOf? at found
    split at found
    · next n result =>
      rcases exists_wraps read with null | ⟨text, j, denotes, same, wraps⟩
      · rw [null] at result
        cases result
      · rw [same] at result
        obtain rfl := Json.eq_number_of_canonical result
        have value := Whole.word?_eq_some_iff.mp found
        have nonneg : 0 ≤ n.val := by omega
        obtain ⟨blanks, blank, rfl⟩ := exists_literal nonneg (by simpa using denotes [] .nil)
        have digits : n.val.toNat = w.toNat := by omega
        rw [digits] at wraps
        exact .inl (wraps.of_blanks blank)
    · next s result => exact .inr ⟨s, Value.ext result, word?_eq_some_iff.mp found⟩
    · cases found
  · rintro ⟨e', read', reported⟩
    obtain rfl := Except.ok.inj (read.symm.trans read')
    rcases reported with wraps | ⟨s, result, numeral⟩
    · have same := Except.ok.inj (read.symm.trans (wraps.parse_eq (denotes_word _ w)))
      rw [congrArg Envelope.result same]
      exact Whole.word?_eq_some_iff.mpr rfl
    · rw [result]
      exact word?_eq_some_iff.mpr numeral

theorem take_codeJson (code : Option Int64)
    : Shape.optionalSigned.take (codeJson code) = .ok (codeJson code) := by
  cases code with
  | none => rfl
  | some c => exact if_pos c.toInt_lt

theorem codeOf_codeJson (code : Option Int64) : codeOf (codeJson code) = code := by
  cases code with
  | none => rfl
  | some c => simp [codeJson, codeOf, asInt, Whole.ofSigned]

/-- A written envelope of a scalar is read back, under any code or none. -/
theorem parse_render (code : Option Int64) {result : Value} (whole : result.json.NoReals)
    (flat : result.json.nesting = 0)
    : parse (symbols (toJson ⟨code, result⟩).render) = .ok ⟨code, result⟩ := by
  have codeWhole : (codeJson code).NoReals ∧ (codeJson code).nesting = 0 := by
    cases code <;> simp [codeJson, NoReals, nesting]
  have read : Json.parse (symbols (toJson ⟨code, result⟩).render)
      = .ok (toJson ⟨code, result⟩) := by
    refine Json.parse_render ?_ ?_
    · simp [toJson, NoReals, NoRealMembers, whole, codeWhole]
    · simp [toJson, nesting, nestingMembers, flat, codeWhole, maxDepth]
  have taken : shape.take (toJson ⟨code, result⟩) = .ok (toJson ⟨code, result⟩) := by
    simp [shape, toJson, Shape.record, Shape.takeField, Shape.fieldNamed?, lookupEntry,
      Shape.complete, take_codeJson, any_take_written, bind, Except.bind, pure, Except.pure]
  refine map_ok_iff.mpr ⟨_, (shape_agrees.parse_ok_iff read).mpr ⟨taken, trivial⟩, ?_⟩
  simp [ofJson, toJson, member, lookupEntry, codeOf_codeJson, Value.ofJson_json]

/-- A written envelope of a number that fits a word reports the number, in digits or in a text. -/
theorem reports_of_sent {body : List UInt8} {code : Option Int64} {n : UInt64}
    (sent : body = bytesOf (toJson ⟨code, .word n⟩).render
      ∨ body = bytesOf (toJson ⟨code, .text (natText n.toNat)⟩).render)
    : Reports (symbolsOfBytes body) n.toNat := by
  rcases sent with rfl | rfl
  · rw [symbolsOfBytes_bytesOf]
    have read : parse (symbols (toJson ⟨code, .word n⟩).render) = .ok ⟨code, .word n⟩ :=
      parse_render code (by simp [Value.word, NoReals]) (by simp [Value.word, nesting])
    exact (balanceOf?_iff read).mp (Whole.word?_eq_some_iff.mpr rfl)
  · rw [symbolsOfBytes_bytesOf]
    have read : parse (symbols (toJson ⟨code, .text (natText n.toNat)⟩).render)
        = .ok ⟨code, .text (natText n.toNat)⟩ :=
      parse_render code (by simp [Value.text, NoReals]) (by simp [Value.text, nesting])
    refine (balanceOf?_iff read).mp ?_
    change word? (trim (natText n.toNat)) = some n
    rw [trim_natText, word?_natText_iff]

end Envelope

-----------------------------------------------------------------------------------------
-- Replies
-----------------------------------------------------------------------------------------

namespace Tester

variable {env : Environment} {config : TesterConfig} {t : Tester} {address : String}
    {reply : Response}

theorem reportedBalance_ok_iff {result : Value} {n : UInt64}
    : reportedBalance address result = .ok n ↔ balanceOf? result.json = some n := by
  unfold reportedBalance
  split
  · next balance found => rw [found, Except.ok.injEq, Option.some.injEq]
  · next none => exact iff_of_false nofun (by rw [none]; nofun)

section Answered

variable (base : config.server.isBase)
    (answered : env.fetch t.history (balanceRef address) = .ok reply)
include base answered

theorem getValue_of_reply
    : getValue env config (balanceRef address) t
      = (reply.result.mapError .http, t.acted [.fetch (balanceRef address)]) := by
  obtain ⟨url, formed⟩ := readUrl_ok base (balanceRef address)
  unfold getValue
  rw [Step.bind_of_ok (ofExcept_of_ok formed), Step.bind_of_ok (perform_of_ok answered)]
  rfl

theorem serverBalance_of_failure {e : HttpError} (failed : reply.result = .error e)
    : (serverBalance env config address t).1 = .error (.http e) := by
  have got := getValue_of_reply base answered
  rw [failed] at got
  unfold serverBalance
  rw [Step.bind_of_error got]

theorem serverBalance_of_result {result : Value} (held : reply.result = .ok result)
    : (serverBalance env config address t).1 = reportedBalance address result := by
  have got := getValue_of_reply base answered
  rw [held] at got
  unfold serverBalance
  rw [Step.bind_of_ok got]
  cases reported : reportedBalance address result with
  | ok balance => rw [ofExcept_of_ok rfl]
  | error e => rw [ofExcept_of_error rfl, id_eq]

/-- A balance is read from a reply that is no refusal just when its body is an envelope that reports
the balance.
-/
theorem serverBalance_ok_iff {n : UInt64}
    : (serverBalance env config address t).1 = .ok n
      ↔ ¬ reply.status.isRefusal = true
        ∧ Envelope.Reports (symbolsOfBytes reply.body) n.toNat := by
  by_cases refused : reply.status.isRefusal = true
  · rw [serverBalance_of_failure base answered (if_pos refused)]
    exact iff_of_false (by simp) fun h => h.1 refused
  rw [and_iff_right refused]
  cases read : Envelope.parse (symbolsOfBytes reply.body) with
  | error e =>
      have failed : reply.result = .error .notAnEnvelope := by
        rw [Response.result, if_neg refused, read]
      rw [serverBalance_of_failure base answered failed]
      refine iff_of_false (by simp) ?_
      rintro ⟨e', read', -⟩
      cases read.symm.trans read'
  | ok e =>
      have held : reply.result = .ok e.result := by
        rw [Response.result, if_neg refused, read]
      rw [serverBalance_of_result base answered held, reportedBalance_ok_iff,
        Envelope.balanceOf?_iff read]

theorem serverBalance_of_garbled (good : ¬ reply.status.isRefusal = true)
    (unread : ∀ e, Envelope.parse (symbolsOfBytes reply.body) ≠ .ok e)
    : (serverBalance env config address t).1 = .error (.http .notAnEnvelope) := by
  refine serverBalance_of_failure base answered ?_
  rw [Response.result, if_neg good]
  cases read : Envelope.parse (symbolsOfBytes reply.body) with
  | error _ => rfl
  | ok e => exact absurd read (unread e)

theorem serverBalance_of_unreported (good : ¬ reply.status.isRefusal = true) {e : Envelope}
    (read : Envelope.parse (symbolsOfBytes reply.body) = .ok e)
    (unreported : ∀ n : UInt64, ¬ Envelope.Reports (symbolsOfBytes reply.body) n.toNat)
    : (serverBalance env config address t).1 = .error (.missingResult (balanceRef address)) := by
  have held : reply.result = .ok e.result := by
    rw [Response.result, if_neg good, read]
  rw [serverBalance_of_result base answered held, reportedBalance]
  split
  · next balance found => exact absurd (Envelope.balanceOf?_iff read |>.mp found) (unreported _)
  · rfl

end Answered

/-- What the read of a balance comes to, by the reply to it and by whether the reply is refused: the
balance that an envelope reports, and an error for every other reply.
-/
structure ReadFrom (refused : Prop) (address : String) (reply : Response)
    (outcome : Except TesterError UInt64)
    : Prop where
  balance
    : ∀ n, outcome = .ok n
        ↔ ¬ refused ∧ Envelope.Reports (symbolsOfBytes reply.body) n.toNat
  unread
    : refused ∨ (∀ e, Envelope.parse (symbolsOfBytes reply.body) ≠ .ok e) →
        ∃ e, outcome = .error (.http e)
  missing
    : ¬ refused → ∀ e, Envelope.parse (symbolsOfBytes reply.body) = .ok e →
        (∀ n : UInt64, ¬ Envelope.Reports (symbolsOfBytes reply.body) n.toNat) →
        outcome = .error (.missingResult (balanceRef address))
  sent
    : ¬ refused → ∀ (code : Option Int64) (n : UInt64),
        (reply.body = bytesOf (Envelope.toJson ⟨code, .word n⟩).render
          ∨ reply.body = bytesOf (Envelope.toJson ⟨code, .text (natText n.toNat)⟩).render) →
        outcome = .ok n

namespace ReadFrom

variable {refused : Prop} {outcome : Except TesterError UInt64}

/-- Refused or not, a reply that holds no envelope is read as an error of the transfer. -/
theorem of_unread (unread : ∀ e, Envelope.parse (symbolsOfBytes reply.body) ≠ .ok e)
    (failed : ∃ e, outcome = .error (.http e))
    : ReadFrom refused address reply outcome where
  balance n := by
    obtain ⟨e, rfl⟩ := failed
    exact iff_of_false (by simp) fun ⟨_, envelope, read, _⟩ => unread envelope read
  unread _ := failed
  missing _ envelope read := absurd read (unread envelope)
  sent _ code n sent := by
    obtain ⟨envelope, read, -⟩ := Envelope.reports_of_sent sent
    exact absurd read (unread envelope)

/-- Where a reply that is read as it is not refused counts as refused, it holds no envelope. -/
theorem unread_of_refused (found : ReadFrom False address reply outcome)
    (promised : ReadFrom refused address reply outcome) (counts : refused) (e : Envelope)
    : Envelope.parse (symbolsOfBytes reply.body) ≠ .ok e := by
  intro read
  obtain ⟨failure, failed⟩ := promised.unread (.inl counts)
  by_cases reported : ∃ n : UInt64, Envelope.Reports (symbolsOfBytes reply.body) n.toNat
  · obtain ⟨n, reported⟩ := reported
    cases failed.symm.trans ((found.balance n).mpr ⟨id, reported⟩)
  · cases failed.symm.trans (found.missing id e read (not_exists.mp reported))

end ReadFrom

/-- A balance is read from a reply that is no refusal, and only if its envelope reports it. Refusals
are the statuses from 400 to 599. So a balance is read as if all statuses from 400 on were refusals
if and only if the status is below 600 or no envelope is there to be read.
-/
theorem serverBalance_readFrom (base : config.server.isBase)
    (answered : env.fetch t.history (balanceRef address) = .ok reply)
    : ReadFrom (reply.status.isRefusal = true) address reply
        (serverBalance env config address t).1
      ∧ (reply.status.isRefusal = true →
          (serverBalance env config address t).1 = .error (.http (.status reply.status)))
      ∧ (¬ reply.status.isRefusal = true →
          (∀ e, Envelope.parse (symbolsOfBytes reply.body) ≠ .ok e) →
          (serverBalance env config address t).1 = .error (.http .notAnEnvelope))
      ∧ (ReadFrom (400 ≤ reply.status.code) address reply (serverBalance env config address t).1
        ↔ reply.status.code < 600
          ∨ ∀ e, Envelope.parse (symbolsOfBytes reply.body) ≠ .ok e) := by
  have refusal : reply.status.isRefusal = true → (serverBalance env config address t).1
      = .error (.http (.status reply.status)) :=
    fun refused => serverBalance_of_failure base answered (if_pos refused)
  have found : ReadFrom (reply.status.isRefusal = true) address reply
      (serverBalance env config address t).1 := by
    refine ⟨fun n => serverBalance_ok_iff base answered, fun unread => ?_,
      fun good e read => serverBalance_of_unreported base answered good read,
      fun good code n sent => ?_⟩
    · by_cases refused : reply.status.isRefusal = true
      · exact ⟨_, refusal refused⟩
      · exact ⟨_, serverBalance_of_garbled base answered refused (unread.resolve_left refused)⟩
    · exact (serverBalance_ok_iff base answered).mpr ⟨good, Envelope.reports_of_sent sent⟩
  refine ⟨found, refusal, serverBalance_of_garbled base answered, fun promised => ?_, ?_⟩
  · refine (Nat.lt_or_ge reply.status.code 600).imp_right fun beyond => ?_
    have good : (reply.status.isRefusal = true) = False := by
      simp [Status.isRefusal, beyond]
    rw [good] at found
    exact found.unread_of_refused promised (by omega)
  · rintro (within | unread)
    · have same : (reply.status.isRefusal = true) = (400 ≤ reply.status.code) := by
        simp [Status.isRefusal, within]
      exact same ▸ found
    · exact .of_unread unread (found.unread (.inr unread))

/-- A server that answers everything with one status and one envelope. -/
def replying (status : Status) (e : Envelope) : Environment where
  write _ _ := .ok ()
  execute _ _ := .ok Node.sent
  fetch _ _ := .ok ⟨status, bytesOf e.toJson.render⟩

/-- The largest word is read back from a text, and the text of the number after it is no balance. -/
theorem serverBalance_readFrom_largest
    : (serverBalance (replying .ok ⟨none, .text "18446744073709551615"⟩) Node.twoTransfers "pub"
          (.start .empty ⟨[], 0⟩)).1
        = .ok 18446744073709551615
      ∧ (serverBalance (replying .ok ⟨none, .text "18446744073709551616"⟩) Node.twoTransfers "pub"
          (.start .empty ⟨[], 0⟩)).1
        = .error (.missingResult (balanceRef "pub")) := by
  have base : Node.twoTransfers.server.isBase := by decide +kernel
  have good : ¬ Status.ok.isRefusal = true := by decide
  have answered (e : Envelope)
      : (replying .ok e).fetch [] (balanceRef "pub") = .ok ⟨.ok, bytesOf e.toJson.render⟩ :=
    rfl
  have read (e : Envelope)
      : ReadFrom (Status.ok.isRefusal = true) "pub" ⟨.ok, bytesOf e.toJson.render⟩
          (serverBalance (replying .ok e) Node.twoTransfers "pub" (.start .empty ⟨[], 0⟩)).1 :=
    (serverBalance_readFrom (t := .start .empty ⟨[], 0⟩) base (answered e)).1
  refine ⟨(read _).sent good none 18446744073709551615 (.inr rfl), ?_⟩
  have parsed : Envelope.parse (symbolsOfBytes (bytesOf
        (Envelope.toJson ⟨none, .text "18446744073709551616"⟩).render))
      = .ok ⟨none, .text "18446744073709551616"⟩ := by
    rw [symbolsOfBytes_bytesOf]
    exact Envelope.parse_render none (by simp [Value.text, NoReals]) (by simp [Value.text, nesting])
  refine (read _).missing good _ parsed fun n reported => ?_
  have spelled : balanceOf? (.text "18446744073709551616") = some n :=
    (Envelope.balanceOf?_iff parsed).mpr reported
  have none : balanceOf? (.text "18446744073709551616") = none := by decide +kernel
  rw [none] at spelled
  cases spelled

/-- A reply of status 600 that wraps a number is read as a balance, although 600 is not below 400.
-/
theorem serverBalance_misread
    : let reply : Response :=
        ⟨⟨600, by decide⟩, bytesOf (Envelope.toJson ⟨some 0, .word 5⟩).render⟩
      let outcome := (serverBalance (replying reply.status ⟨some 0, .word 5⟩) Node.twoTransfers
        "pub" (.start .empty ⟨[], 0⟩)).1
      outcome = .ok 5 ∧ ¬ ReadFrom (400 ≤ reply.status.code) "pub" reply outcome := by
  intro reply outcome
  have base : Node.twoTransfers.server.isBase := by decide +kernel
  have reported : Envelope.Reports (symbolsOfBytes reply.body) (5 : UInt64).toNat :=
    Envelope.reports_of_sent (.inl rfl)
  have read : outcome = .ok 5 :=
    (serverBalance_ok_iff base rfl).mpr ⟨(by decide : ¬ Status.isRefusal ⟨600, _⟩ = true), reported⟩
  exact ⟨read, fun promised => ((promised.balance 5).mp read).1 (by decide)⟩

end Tester

end NodeTrial
