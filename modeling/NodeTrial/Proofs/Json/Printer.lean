import NodeTrial.Json.Printer
import NodeTrial.Proofs.Text.Numeral

/-! Written values are printable: whatever their strings hold, no control character stands in their
text, so no line ends inside it.
-/

namespace NodeTrial.Json

/-- No control character stands in a text. -/
def Printable (text : List Char) : Prop :=
  ∀ c ∈ text, ' ' ≤ c

instance (text : List Char) : Decidable (Printable text) :=
  List.decidableBAll (fun c => ' ' ≤ c) text

theorem Printable.append {text more : List Char} (first : Printable text) (second : Printable more)
    : Printable (text ++ more) :=
  List.forall_mem_append.mpr ⟨first, second⟩

theorem Printable.cons {c : Char} {text : List Char} (first : ' ' ≤ c) (rest : Printable text)
    : Printable (c :: text) :=
  List.forall_mem_cons.mpr ⟨first, rest⟩

/-- A character of a string is written printably: a control is escaped, by a letter or its code. -/
theorem writtenChar_printable (c : Char) : Printable (writtenChar c) := by
  have digit : ∀ n < 16, ' ' ≤ Nat.digitChar n := by decide
  unfold writtenChar
  split
  · decide
  · split
    · decide
    · split
      · next control =>
        have small : c.toNat < 32 := control
        unfold controlEscape
        split
        · decide
        · decide
        · decide
        · decide
        · decide
        · refine .append (by decide : Printable ['\\', 'u', '0', '0']) ?_
          exact .cons (digit _ (by omega)) (List.forall_mem_singleton.mpr (digit _ (by omega)))
      · next printable => exact List.forall_mem_singleton.mpr (Std.not_lt.mp printable)

theorem writtenString_printable (s : String) : Printable (writtenString s) := by
  refine .cons (by decide) (.append ?_ (by decide))
  intro c member
  obtain ⟨written, _, here⟩ := List.mem_flatMap.mp member
  exact writtenChar_printable written c here

theorem writtenNumber_printable (n : Whole) : Printable (writtenNumber (.whole n)) := by
  have digits (m : Nat) : Printable (Text.natText m).toList := by
    intro c member
    have low : '0' ≤ c := (Char.isDigit_iff_toNat.mp (Text.isDigit_of_mem_natText member)).1
    exact Std.le_trans (by decide : ' ' ≤ '0') low
  obtain ⟨value, _⟩ := n
  rw [writtenNumber]
  cases value with
  | ofNat m => exact digits m
  | negSucc m =>
      rw [Text.intText, String.toList_append]
      exact .append (by decide) (digits (m + 1))

mutual

/-- A value is written printably, by induction on the value. -/
theorem write_printable : (j : Json) → j.NoReals → Printable j.write
  | .null, _ | .bool true, _ | .bool false, _ | .list [], _ | .object [], _ => by
    rw [write]
    decide
  | .number (.whole n), _ => by
    rw [write]
    exact writtenNumber_printable n
  | .number (.real _), whole => by
    rw [NoReals] at whole
    exact whole.elim
  | .text s, _ => by
    rw [write]
    exact writtenString_printable s
  | .list (item :: rest), whole => by
    rw [NoReals, NoRealItems] at whole
    have items := (write_printable item whole.1).append (writeItems_printable rest whole.2)
    rw [write]
    exact .append (.cons (by decide) items) (by decide)
  | .object ((key, value) :: rest), whole => by
    rw [NoReals, NoRealMembers] at whole
    have first := (writtenString_printable key).append (.cons (by decide : ' ' ≤ ':')
      (write_printable value whole.1))
    have members := first.append (writeMembers_printable rest whole.2)
    rw [write]
    exact .append (.cons (by decide) members) (by decide)

theorem writeItems_printable
    : (items : List Json) → NoRealItems items → Printable (writeItems items)
  | [], _ => List.forall_mem_nil _
  | item :: rest, whole => by
    rw [NoRealItems] at whole
    rw [writeItems]
    exact .append (.cons (by decide) (write_printable item whole.1))
      (writeItems_printable rest whole.2)

theorem writeMembers_printable
    : (members : List (String × Json)) → NoRealMembers members → Printable (writeMembers members)
  | [], _ => List.forall_mem_nil _
  | (key, value) :: rest, whole => by
    rw [NoRealMembers] at whole
    have first := (writtenString_printable key).append (.cons (by decide : ' ' ≤ ':')
      (write_printable value whole.1))
    rw [writeMembers]
    exact .cons (by decide) (first.append (writeMembers_printable rest whole.2))

end

end NodeTrial.Json
