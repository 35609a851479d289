import NodeTrial.Envelope
import NodeTrial.Proofs.Json.Shape

/-! Envelopes read back from their text.
-/

namespace NodeTrial

namespace Envelope

open Json Json.Shape

/-- An envelope with a code is read back from its text: its result is the value that it wraps. -/
theorem parse_written (code : Int64) {result : Json} (whole : result.NoReals)
    (fits : result.nesting < maxDepth) {blanks : List Text.Symbol}
    (blank : ∀ s ∈ blanks, isSpace s = true)
    : parse ((write (.object [("code", .number (.whole (.ofSigned code))),
          ("result", result)])).map .char ++ blanks)
      = .ok ⟨some code, .ofJson result⟩ := by
  have value : Reads (any.read 126) result.write result.canonical :=
    any_reads whole (Nat.le_of_lt_succ fits)
  have areFields : ∀ m ∈ [("code", (Json.number (.whole (.ofSigned code)),
        Json.number (.whole (.ofSigned code)))), ("result", (result, result.canonical))],
      IsField [⟨"code", .optionalSigned, some .null⟩, ⟨"result", .any, some .null⟩] 126 m := by
    simp only [List.mem_cons, List.not_mem_nil, or_false]
    rintro m (rfl | rfl)
    · exact ⟨_, rfl, optionalSigned_reads code 126⟩
    · exact ⟨_, rfl, value⟩
  have distinct : ["code", "result"].Nodup := by decide
  have reads : Reads (shape.read maxDepth)
      (write (.object [("code", .number (.whole (.ofSigned code))), ("result", result)]))
      (.object [("code", .number (.whole (.ofSigned code))), ("result", result.canonical)]) :=
    record_reads areFields distinct rfl
  rw [parse, Shape.parse, readWhole_of_reads reads blank, Except.map]
  simp [ofJson, codeOf, member, lookupEntry, asInt, Whole.ofSigned, Value.ofJson_canonical]

end Envelope

end NodeTrial
