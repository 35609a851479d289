import NodeTrial.Transaction
import NodeTrial.Proofs.Json.Shape
import NodeTrial.Proofs.Text.Numeral

/-! Transactions read back from the text that hands them over, and the parts of a transfer read back
from its ref.
-/

namespace NodeTrial

/-- A list splits at the last occurrence of an element in one way alone. -/
theorem append_cons_inj {α : Type} {before before' after after' : List α} {mark : α}
    (last : mark ∉ after) (last' : mark ∉ after')
    (same : before ++ mark :: after = before' ++ mark :: after')
    : before = before' ∧ after = after' := by
  rcases List.append_eq_append_iff.mp same with ⟨between, rfl, split⟩ | ⟨between, rfl, split⟩
  · cases between with
    | nil => exact ⟨(List.append_nil before).symm, (List.cons.inj split).2⟩
    | cons c cs =>
        have inside : mark ∈ after := by
          rw [(List.cons.inj split).2]
          exact List.mem_append_right cs List.mem_cons_self
        exact absurd inside last
  · cases between with
    | nil => exact ⟨List.append_nil before', (List.cons.inj split).2.symm⟩
    | cons c cs =>
        have inside : mark ∈ after' := by
          rw [(List.cons.inj split).2]
          exact List.mem_append_right cs List.mem_cons_self
        exact absurd inside last'

namespace Transaction

open Json Json.Shape

variable (t : Transaction)

theorem operation_reads (whole : t.value.json.NoReals) {depth : Nat}
    (fits : t.value.json.nesting ≤ depth)
    : Reads (operationShape.read (depth + 1))
        (write (.object [("type", .text t.type), ("ref", .text t.ref), ("value", t.value.json)]))
        (.object [("type", .text t.type), ("ref", .text t.ref), ("value", t.value.json)]) := by
  have value := any_reads whole fits
  rw [t.value.json.canonical_eq_self t.value.canonical] at value
  have areFields : ∀ m ∈ [("type", (Json.text t.type, Json.text t.type)),
      ("ref", (.text t.ref, .text t.ref)), ("value", (t.value.json, t.value.json))],
      IsField [.required "type" .text, .required "ref" .text, .required "value" .any] depth m := by
    simp only [List.mem_cons, List.not_mem_nil, or_false]
    rintro m (rfl | rfl | rfl)
    · exact ⟨_, rfl, text_reads t.type depth⟩
    · exact ⟨_, rfl, text_reads t.ref depth⟩
    · exact ⟨_, rfl, value⟩
  have distinct : ["type", "ref", "value"].Nodup := by decide
  exact record_reads areFields distinct rfl

/-- A transaction is the one that its JSON describes. -/
theorem ofJson_toJson : ofJson t.toJson = t := by
  simp [toJson, ofJson, member, lookupEntry, asText, asInt, Whole.ofWord, t.value.ofJson_json]

/-- A transaction is read back from its text, whatever blanks follow it. -/
theorem parse_written (whole : t.value.json.NoReals) (fits : t.toJson.nesting ≤ maxDepth)
    {blanks : List Text.Symbol} (blank : ∀ s ∈ blanks, isSpace s = true)
    : parse (t.toJson.write.map .char ++ blanks) = .ok t := by
  have shallow : t.value.json.nesting ≤ 125 := by
    simp only [toJson, nesting, nestingMembers, maxDepth] at fits
    omega
  have operation := operation_reads t whole shallow
  have areFields : ∀ m ∈ [("operation",
        (Json.object [("type", .text t.type), ("ref", .text t.ref), ("value", t.value.json)],
          Json.object [("type", .text t.type), ("ref", .text t.ref), ("value", t.value.json)])),
      ("nonce", (.number (.whole (.ofWord t.nonce)), .number (.whole (.ofWord t.nonce))))],
      IsField [.required "operation" operationShape, .required "nonce" .unsigned] 126 m := by
    simp only [List.mem_cons, List.not_mem_nil, or_false]
    rintro m (rfl | rfl)
    · exact ⟨_, rfl, operation⟩
    · exact ⟨_, rfl, unsigned_reads t.nonce 126⟩
  have distinct : ["operation", "nonce"].Nodup := by decide
  have reads : Reads (shape.read maxDepth) t.toJson.write t.toJson :=
    record_reads areFields distinct rfl
  rw [parse, Shape.parse, readWhole_of_reads reads blank, Except.map, ofJson_toJson]

/-- The file that hands a transaction over is read as that transaction. -/
theorem parse_fileText (whole : t.value.json.NoReals) (fits : t.toJson.nesting ≤ maxDepth)
    : parse (Text.symbols t.fileText) = .ok t := by
  have shape : Text.symbols t.fileText = t.toJson.write.map .char ++ [.char '\n'] := by
    rw [Text.symbols, fileText, String.toList_append, List.map_append, render, Json.render,
      String.toList_ofList]
    rfl
  rw [shape]
  exact parse_written t whole fits (by simp [isSpace])

/-- A transaction of a word holds no floating-point number and nests two brackets. -/
theorem whole_of_word {t : Transaction} {w : UInt64} (h : t.value = .word w)
    : t.value.json.NoReals ∧ t.toJson.nesting ≤ maxDepth := by
  simp [toJson, nesting, nestingMembers, h, Value.word, NoReals, maxDepth]

/-- The ref of a transfer tells its receiver and its nonce, whatever the receiver's address is: the
nonce has no slash, so it starts behind the last slash but one.
-/
theorem transferRef_injective {receiver other : String} {nonce next : UInt64}
    (same : transferRef receiver nonce = transferRef other next)
    : receiver = other ∧ nonce = next := by
  have shape (r : String) (n : UInt64)
      : (transferRef r n).toList
        = ("/transfer/" ++ placeholder ++ "/").toList
            ++ (r.toList ++ '/' :: (Text.natText n.toNat).toList) ++ "/value".toList := by
    simp [transferRef]
  have plain (n : UInt64) : '/' ∉ (Text.natText n.toNat).toList :=
    fun slash => absurd (Text.isDigit_of_mem_natText slash) (by decide)
  have letters := congrArg String.toList same
  rw [shape, shape] at letters
  have middle := List.append_cancel_left (List.append_cancel_right letters)
  obtain ⟨receivers, nonces⟩ := append_cons_inj (plain nonce) (plain next) middle
  have numbers := congrArg Text.digits? nonces
  rw [Text.digits?_natText, Text.digits?_natText, Option.some.injEq] at numbers
  exact ⟨String.toList_inj.mp receivers, UInt64.toNat_inj.mp numbers⟩

end Transaction

end NodeTrial
