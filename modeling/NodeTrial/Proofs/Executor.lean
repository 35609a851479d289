import NodeTrial.Executor
import NodeTrial.Proofs.Text.Blank
import NodeTrial.Proofs.Text.Malformed

/-! What the bytes of a run's outputs come to. Bytes of a text are captured as that text; all others
show a replacement character, which is no blank, so an error output is quiet just when it is the
UTF-8 of blanks.
-/

namespace NodeTrial

namespace Text

/-- What is shown as blanks is the UTF-8 of these blanks: a broken run would show a replacement
character.
-/
theorem eq_bytesOf_of_blank {bytes : List UInt8} (blank : isBlankText (decodeLossy bytes) = true)
    : bytes = bytesOf (decodeLossy bytes) := by
  refine eq_bytesOf_of_decodeLossy rfl fun replaced => ?_
  have visible : isBlank '\uFFFD' = false := by decide
  have shown := isBlankText_iff.mp blank _ replaced
  rw [visible] at shown
  cases shown

end Text

namespace ToolOutput

theorem hadError_eq_false_iff {o : ToolOutput}
    : o.hadError = false ↔ Text.isBlankText o.stderr = true := by
  rw [hadError, Bool.not_eq_false']

/-- What the output of a run tells of the bytes that the run wrote. -/
structure Captured (out err : List UInt8) (o : ToolOutput) : Prop where
  quiet
    : o.hadError = false
      ↔ ∃ s : String, (∀ c ∈ s.toList, c ∈ Text.whiteSpace) ∧ err = Text.bytesOf s
  malformed : Text.Malformed err → o.hadError = true
  trimmed : o.hadError = true ↔ Text.trim o.stderr ≠ ""
  stdout : Text.StandsFor o.stdout out
  stderr : Text.StandsFor o.stderr err

/-- Whatever a run wrote and however it ended, it reports an error unless its error output is the
UTF-8 of blanks, and what it wrote in UTF-8 is captured as it is.
-/
theorem ofBytes_captured (code : Option Nat) (out err : List UInt8)
    : Captured out err (ofBytes code out err) := by
  have quiet
      : (ofBytes code out err).hadError = false
        ↔ ∃ s : String, (∀ c ∈ s.toList, c ∈ Text.whiteSpace) ∧ err = Text.bytesOf s := by
    rw [hadError_eq_false_iff]
    constructor
    · intro blank
      refine ⟨_, fun c member => ?_, Text.eq_bytesOf_of_blank blank⟩
      exact Text.isBlank_iff_mem_whiteSpace.mp (Text.isBlankText_iff.mp blank c member)
    · rintro ⟨s, blank, rfl⟩
      rw [ofBytes, Text.decodeLossy_bytesOf, Text.isBlankText_iff]
      exact fun c member => Text.isBlank_iff_mem_whiteSpace.mpr (blank c member)
  refine ⟨quiet, fun malformed => ?_, ?_, Text.standsFor_decodeLossy out,
    Text.standsFor_decodeLossy err⟩
  · rw [← Bool.not_eq_false, quiet]
    rintro ⟨s, -, written⟩
    exact Text.malformed_iff.mp malformed s written
  · rw [← Bool.not_eq_false, hadError_eq_false_iff, ← Text.trim_eq_empty_iff]

/-- A line separator and a next line are no error whatever the status, but a space in two bytes is
one, and so is a separator that is cut short.
-/
theorem ofBytes_captured_separators
    : (ofBytes (some 3) [] [0xE2, 0x80, 0xA8, 0xC2, 0x85]).hadError = false
      ∧ (ofBytes (some 0) [] [0x20, 0xC0, 0xA0]).hadError = true
      ∧ (ofBytes (some 0) [] [0x20, 0xE2, 0x80]).hadError = true := by
  refine ⟨?_, ?_, ?_⟩
  · refine (ofBytes_captured _ _ _).quiet.mpr ⟨String.ofList ['\u2028', '\u0085'], ?_, ?_⟩
    · rw [String.toList_ofList]
      simp [Text.whiteSpace]
    · rw [Text.bytesOf_eq_flatMap, String.toList_ofList]
      decide
  · have overlong : Text.Utf8.Flaw (Text.Utf8.form 1 0x20 ++ []) :=
      .overlong (by decide) (by decide)
    exact (ofBytes_captured _ _ _).malformed (.flawed [0x20] overlong)
  · have truncated : Text.Utf8.Flaw (0xE2 :: [0x80] ++ []) :=
      .truncated (by simp [Text.Utf8.IsTail]) (by decide) Text.Utf8.stops_nil
    exact (ofBytes_captured _ _ _).malformed (.flawed [0x20] truncated)

end ToolOutput

end NodeTrial
