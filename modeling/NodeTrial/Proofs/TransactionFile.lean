import NodeTrial.Proofs.Json.Depth
import NodeTrial.Proofs.Json.Printer
import NodeTrial.Proofs.Text.Utf8
import NodeTrial.Proofs.Transaction
import NodeTrial.TransactionFile

/-! The transaction file and back. A transaction's text has no line end inside it, whatever its
strings hold, so the file that hands it over is a single line, and that line is read as the
transaction.
-/

namespace NodeTrial

theorem Text.bytesOf_append (s more : String)
    : bytesOf (s ++ more) = bytesOf s ++ bytesOf more := by
  rw [bytesOf_eq_flatMap, bytesOf_eq_flatMap, bytesOf_eq_flatMap, String.toList_append,
    List.flatMap_append]

/-- The bytes of a printable text are no controls either. -/
theorem Text.le_of_mem_bytesOf {s : String} (printable : Json.Printable s.toList) {b : UInt8}
    (member : b ∈ bytesOf s)
    : 32 ≤ b := by
  rw [bytesOf_eq_flatMap] at member
  obtain ⟨c, inside, member⟩ := List.mem_flatMap.mp member
  exact le_of_mem_encodeChar (printable c inside) member

-----------------------------------------------------------------------------------------
-- Lines
-----------------------------------------------------------------------------------------

/-- Characters before a line's end belong to the line, by induction on them. -/
theorem linesOf_append {text : List Char} (single : '\n' ∉ text)
    : ∀ (before rest : List Char),
        linesOf before (text ++ rest) = linesOf (text.reverse ++ before) rest := by
  induction text with
  | nil => exact fun before rest => rfl
  | cons c text ih =>
      intro before rest
      obtain ⟨other, single⟩ := List.ne_and_not_mem_of_not_mem_cons single
      rw [List.cons_append, linesOf, ih single, List.reverse_cons, List.append_assoc,
        List.singleton_append]
      exact Ne.symm other

/-- A printable text and a line feed are one line. -/
theorem linesOf_line {s : String} (printable : Json.Printable s.toList)
    : linesOf [] (s.toList ++ ['\n']) = [s] := by
  have single : '\n' ∉ s.toList := fun member => absurd (printable '\n' member) (by decide)
  have noReturn : ∀ before, s.toList.reverse ≠ '\r' :: before := by
    intro before same
    have member : '\r' ∈ s.toList := List.mem_reverse.mp (same ▸ List.mem_cons_self)
    exact absurd (printable '\r' member) (by decide)
  rw [linesOf_append single, List.append_nil, linesOf, List.reverse_reverse, String.ofList_toList,
    linesOf]
  exact noReturn

-----------------------------------------------------------------------------------------
-- Transactions
-----------------------------------------------------------------------------------------

namespace Transaction

variable {t : Transaction}

theorem render_toList : t.render.toList = t.toJson.write :=
  String.toList_ofList

theorem render_printable (whole : t.value.json.NoReals) : Json.Printable t.render.toList := by
  have all : t.toJson.NoReals := by
    simp only [toJson, Json.NoReals, Json.NoRealMembers, true_and, and_true]
    exact whole
  rw [render_toList]
  exact t.toJson.write_printable all

/-- The text of a transaction is not blank: it starts with a brace. -/
theorem render_isBlankText : Text.isBlankText t.render = false := by
  rw [Text.isBlankText, render_toList, toJson, Json.write_object, List.cons_append, List.all_cons]
  rfl

theorem parse_render (whole : t.value.json.NoReals) (fits : t.toJson.nesting ≤ Json.maxDepth)
    : parse (Text.symbols t.render) = .ok t := by
  have read := t.parse_written whole fits (List.forall_mem_nil _)
  rw [List.append_nil] at read
  rw [Text.symbols, render_toList, read]

/-- A transaction that is read nests no more brackets than a text may: its value stands inside two
of those that were opened.
-/
theorem nesting_of_parse {input : List Text.Symbol} (h : parse input = .ok t)
    : t.toJson.nesting ≤ Json.maxDepth := by
  obtain ⟨j, read, rfl⟩ := map_ok_iff.mp h
  obtain ⟨rest, read, -⟩ := Json.readWhole_ok_iff.mp read
  have operation : operationShape.Bounded := by
    refine Json.Shape.record_bounded _ ?_
    simp only [List.forall_mem_cons]
    exact ⟨.required _ Json.Shape.text_bounded, .required _ Json.Shape.text_bounded,
      .required _ Json.Shape.any_bounded, List.forall_mem_nil _⟩
  have bounded : shape.Bounded := by
    refine Json.Shape.record_bounded _ ?_
    simp only [List.forall_mem_cons]
    exact ⟨.required _ operation, .required _ Json.Shape.unsigned_bounded,
      List.forall_mem_nil _⟩
  have value : ((j.member "operation").member "value").nesting ≤ 125 :=
    Json.nesting_member (Json.nesting_member (bounded read) _) _
  have canonical : (ofJson j).value.json.nesting ≤ 125 := Json.nesting_canonical value
  simp only [toJson, Json.nesting, Json.nestingMembers, Json.maxDepth]
  omega

end Transaction

namespace TransactionFile

/-- The file hands over one transaction: it is a single line, the transaction's text, and it is read
as this transaction alone.
-/
structure HandsOver (f : TransactionFile) (t : Transaction) : Prop where
  contents : f.contents = some (Text.bytesOf t.render ++ [10])
  oneLine : 10 ∉ Text.bytesOf t.render ∧ 13 ∉ Text.bytesOf t.render
  read : f.read = .ok [t]

/-- Whatever the file held, it hands over the transaction that is written to it. -/
theorem handsOver_write {t : Transaction} (whole : t.value.json.NoReals)
    (fits : t.toJson.nesting ≤ Json.maxDepth) (f : TransactionFile)
    : (f.write t).HandsOver t := by
  have printable := t.render_printable whole
  have noControl {b : UInt8} (control : ¬ 32 ≤ b) : b ∉ Text.bytesOf t.render :=
    fun member => control (Text.le_of_mem_bytesOf printable member)
  refine { contents := ?_, oneLine := ⟨noControl (by decide), noControl (by decide)⟩, read := ?_ }
  · have lineFeed : Text.bytesOf "\n" = [10] := by rw [Text.bytesOf_eq_flatMap]; decide
    rw [write, put, Transaction.fileText, Text.bytesOf_append, lineFeed]
  · change readTransactions (Text.bytesOf t.fileText) = .ok [t]
    have lines : linesOf [] t.fileText.toList = [t.render] := by
      rw [Transaction.fileText, String.toList_append]
      exact linesOf_line printable
    have kept : [t.render].filter (fun line => !Text.isBlankText line) = [t.render] := by
      rw [List.filter_cons_of_pos (by simp [Transaction.render_isBlankText]), List.filter_nil]
    rw [readTransactions, Text.decode?_bytesOf]
    dsimp only
    rw [lines, kept, List.mapM_cons, Transaction.parse_render whole fits]
    rfl

/-- A transaction of a word is handed over. -/
theorem handsOver_write_word {t : Transaction} {w : UInt64} (h : t.value = .word w)
    (f : TransactionFile)
    : (f.write t).HandsOver t :=
  have ⟨whole, fits⟩ := Transaction.whole_of_word h
  handsOver_write whole fits f

/-- The file hands over what is written to it, whatever it held before: every transaction without
floating-point numbers whose text nests no more brackets than a reader allows. Those that set a
balance or move an amount are such transactions, whoever receives it, and so are those that were
read from a text.
-/
theorem write_read
    : (∀ (f : TransactionFile) (t : Transaction), t.value.json.NoReals → t.toJson.nesting ≤ 127 →
        (f.write t).HandsOver t)
      ∧ (∀ (f : TransactionFile) balance nonce,
          (f.write (.balanceSet balance nonce)).HandsOver (.balanceSet balance nonce))
      ∧ (∀ (f : TransactionFile) receiver amount nonce,
          (f.write (.balanceTransfer receiver amount nonce)).HandsOver
            (.balanceTransfer receiver amount nonce))
      ∧ ∀ (f : TransactionFile) input t, Transaction.parse input = .ok t → t.value.json.NoReals →
          (f.write t).HandsOver t :=
  ⟨fun f _ whole fits => handsOver_write whole fits f,
    fun f _ _ => handsOver_write_word rfl f,
    fun f _ _ _ => handsOver_write_word rfl f,
    fun f _ _ read whole => handsOver_write whole (Transaction.nesting_of_parse read) f⟩

/-- A transaction with line ends and a control in its strings, and the greatest nonce. -/
def awkward : Transaction where
  type := "one\ntwo"
  ref := "\r\n\x01"
  value := ⟨.list [.text "\n", .null], by simp [Json.Canonical, Json.CanonicalItems]⟩
  nonce := 18446744073709551615

theorem write_read_awkward
    : (TransactionFile.absent.write awkward).HandsOver awkward
      ∧ ((TransactionFile.mk (some [13, 10])).write awkward).HandsOver awkward := by
  have whole : awkward.value.json.NoReals := by simp [awkward, Json.NoReals, Json.NoRealItems]
  have fits : awkward.toJson.nesting ≤ 127 := by
    simp [awkward, Transaction.toJson, Json.nesting, Json.nestingMembers, Json.nestingItems]
  have read : Transaction.parse (Text.symbols awkward.render) = .ok awkward :=
    Transaction.parse_render whole fits
  exact ⟨write_read.1 .absent awkward whole fits, write_read.2.2.2 _ _ awkward read whole⟩

end TransactionFile

end NodeTrial
