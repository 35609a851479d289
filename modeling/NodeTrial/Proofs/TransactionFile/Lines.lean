import NodeTrial.Proofs.Result
import NodeTrial.Proofs.Text.Blank
import NodeTrial.Proofs.TransactionFile

/-! Transaction files of many lines. A file of written transactions, a line each and among any lines
of blanks, is read as these transactions. A file with a line that is neither blank nor a transaction
is not read at all, and the first such line says why.
-/

namespace NodeTrial

-----------------------------------------------------------------------------------------
-- The lines of a text
-----------------------------------------------------------------------------------------

/-- How a line ends: with a line feed, or with a carriage return and a line feed. -/
inductive LineEnd where
  | feed
  | returnFeed

def LineEnd.chars : LineEnd → List Char
  | .feed => ['\n']
  | .returnFeed => ['\r', '\n']

/-- The lines of a text. Every line ends in one of the two ways, the last one perhaps with the text.
A carriage return belongs to the end of its line when a line feed follows it, and to the line
otherwise.
-/
inductive Lines : List Char → List String → Prop where
  | none : Lines [] []
  | last {line : List Char} (some : line ≠ []) (single : '\n' ∉ line)
    : Lines line [String.ofList line]
  | ended {line rest : List Char} {lines : List String} (e : LineEnd) (single : '\n' ∉ line)
    (closed : e = .feed → line.getLast? ≠ some '\r') (more : Lines rest lines)
    : Lines (line ++ e.chars ++ rest) (String.ofList line :: lines)

section Division

variable {line text : List Char} {lines : List String}

/-- A line feed ends a line, without the carriage return in front of it. -/
theorem linesOf_feed (single : '\n' ∉ line) (rest : List Char)
    : linesOf [] (line ++ '\n' :: rest)
      = String.ofList (if line.getLast? = some '\r' then line.dropLast else line)
        :: linesOf [] rest := by
  rw [linesOf_append single, List.append_nil]
  rcases List.eq_nil_or_concat line with rfl | ⟨before, c, rfl⟩
  · rfl
  · rw [List.concat_eq_append, List.reverse_append, List.getLast?_concat, List.dropLast_concat]
    by_cases returned : c = '\r'
    · rw [if_pos (congrArg some returned), returned]
      simp [linesOf]
    · rw [if_neg (mt Option.some.inj returned)]
      simp [linesOf, returned]

theorem linesOf_ended (e : LineEnd) (single : '\n' ∉ line)
    (closed : e = .feed → line.getLast? ≠ some '\r') (rest : List Char)
    : linesOf [] (line ++ e.chars ++ rest) = String.ofList line :: linesOf [] rest := by
  cases e with
  | feed =>
      rw [LineEnd.chars, List.append_assoc, List.singleton_append, linesOf_feed single,
        if_neg (closed rfl)]
  | returnFeed =>
      have single : '\n' ∉ line ++ ['\r'] := by simp [single]
      have whole : line ++ LineEnd.returnFeed.chars ++ rest = line ++ ['\r'] ++ '\n' :: rest := by
        simp [LineEnd.chars]
      rw [whole, linesOf_feed single, if_pos List.getLast?_concat, List.dropLast_concat]

theorem linesOf_last (some : line ≠ []) (single : '\n' ∉ line)
    : linesOf [] line = [String.ofList line] := by
  have whole := linesOf_append single [] []
  rw [List.append_nil, List.append_nil] at whole
  rw [whole, linesOf, List.reverse_reverse]
  exact fun none => some (List.reverse_eq_nil_iff.mp none)

/-- A text has no lines but those that it is divided into, by induction on its lines. -/
theorem Lines.eq_linesOf (divided : Lines text lines) : lines = linesOf [] text := by
  induction divided with
  | none => rfl
  | last some single => rw [linesOf_last some single]
  | ended e single closed _ ih => rw [linesOf_ended e single closed, ih]

/-- Every text is divided into lines, by induction on its length. -/
theorem lines_linesOf (text : List Char) : Lines text (linesOf [] text) := by
  by_cases feed : '\n' ∈ text
  · obtain ⟨line, rest, whole, single⟩ := List.eq_append_cons_of_mem feed
    have shorter : rest.length < text.length := by simp [whole]; omega
    have more := lines_linesOf rest
    -- A carriage return in front of the line feed belongs to the line's end.
    by_cases returned : line.getLast? = some '\r'
    · obtain ⟨before, rfl⟩ := List.getLast?_eq_some_iff.mp returned
      have single : '\n' ∉ before := fun member => single (List.mem_append_left _ member)
      have same : text = before ++ LineEnd.returnFeed.chars ++ rest := by
        simp [whole, LineEnd.chars]
      rw [same, linesOf_ended .returnFeed single nofun]
      exact .ended .returnFeed single nofun more
    · have same : text = line ++ LineEnd.feed.chars ++ rest := by simp [whole, LineEnd.chars]
      rw [same, linesOf_ended .feed single fun _ => returned]
      exact .ended .feed single (fun _ => returned) more
  · by_cases empty : text = []
    · rw [empty]
      exact .none
    · rw [linesOf_last empty feed]
      exact .last empty feed
termination_by text.length

theorem lines_iff : Lines text lines ↔ lines = linesOf [] text :=
  ⟨Lines.eq_linesOf, fun same => same ▸ lines_linesOf text⟩

end Division

-----------------------------------------------------------------------------------------
-- Files of transactions
-----------------------------------------------------------------------------------------

/-- The lines of a file that are read: those that are not blank. -/
def visibleLines (text : List Char) : List String :=
  (linesOf [] text).filter fun line => !Text.isBlankText line

/-- The texts that hold transactions: the written text of each on a line of its own, in order, and
any lines of blanks before, between and after them. The last line may end with the text.
-/
inductive Holds : List Char → List Transaction → Prop where
  | lastBlank {blanks : List Char} (blank : Text.Blanks blanks) (single : '\n' ∉ blanks)
    : Holds blanks []
  | last (t : Transaction) : Holds t.render.toList [t]
  | blank {blanks rest : List Char} {ts : List Transaction} (blank : Text.Blanks blanks)
    (single : '\n' ∉ blanks) (e : LineEnd) (more : Holds rest ts)
    : Holds (blanks ++ e.chars ++ rest) ts
  | line {rest : List Char} {ts : List Transaction} (t : Transaction) (e : LineEnd)
    (more : Holds rest ts)
    : Holds (t.render.toList ++ e.chars ++ rest) (t :: ts)

section Reading

variable {text blanks rest : List Char} {ts : List Transaction} {t : Transaction}

theorem isBlankText_ofList (blank : Text.Blanks blanks)
    : Text.isBlankText (String.ofList blanks) = true := by
  rw [Text.isBlankText, String.toList_ofList]
  exact List.all_eq_true.mpr blank

theorem visibleLines_cons {line : List Char}
    (visible : Text.isBlankText (String.ofList line) = false) (single : '\n' ∉ line) (e : LineEnd)
    (closed : e = .feed → line.getLast? ≠ some '\r')
    : visibleLines (line ++ e.chars ++ rest) = String.ofList line :: visibleLines rest := by
  rw [visibleLines, linesOf_ended e single closed, List.filter_cons_of_pos (by simp [visible])]
  rfl

/-- A line of blanks is not read, whether or not a carriage return among them is part of its end. -/
theorem visibleLines_blank (blank : Text.Blanks blanks) (single : '\n' ∉ blanks) (e : LineEnd)
    : visibleLines (blanks ++ e.chars ++ rest) = visibleLines rest := by
  have hidden {line : List Char} (inside : ∀ c ∈ line, c ∈ blanks) (lines : List String)
      : (String.ofList line :: lines).filter (fun line => !Text.isBlankText line)
        = lines.filter fun line => !Text.isBlankText line := by
    have blankLine := isBlankText_ofList fun c member => blank c (inside c member)
    exact List.filter_cons_of_neg (by simp [blankLine])
  -- The blanks may end in a carriage return, so a line feed need not end just them.
  by_cases feed : e = .feed
  · rw [feed, LineEnd.chars, List.append_assoc, List.singleton_append, visibleLines,
      linesOf_feed single, hidden]
    · rfl
    · intro c member
      split at member
      · exact (List.dropLast_sublist blanks).subset member
      · exact member
  · rw [visibleLines, linesOf_ended e single fun same => absurd same feed, hidden fun _ => id]
    rfl

/-- A written transaction has no line end inside, and no carriage return at its own end. -/
theorem Transaction.render_closed (whole : t.value.json.NoReals)
    : '\n' ∉ t.render.toList ∧ t.render.toList.getLast? ≠ some '\r' := by
  have printable := t.render_printable whole
  refine ⟨fun member => absurd (printable '\n' member) (by decide), fun last => ?_⟩
  exact absurd (printable '\r' (List.mem_of_getLast? last)) (by decide)

/-- The lines of a file of transactions are their written texts, by induction on the file. -/
theorem visibleLines_of_holds (holds : Holds text ts) (whole : ∀ t ∈ ts, t.value.json.NoReals)
    : visibleLines text = ts.map Transaction.render := by
  induction holds with
  | @lastBlank blanks blank single =>
      by_cases empty : blanks = []
      · rw [empty]
        rfl
      · rw [visibleLines, linesOf_last empty single,
          List.filter_cons_of_neg (by simp [isBlankText_ofList blank])]
        rfl
  | last t =>
      have visible := t.render_isBlankText
      obtain ⟨single, -⟩ := t.render_closed (whole t List.mem_cons_self)
      have some : t.render.toList ≠ [] := by
        intro none
        rw [Text.isBlankText, none] at visible
        cases visible
      rw [visibleLines, linesOf_last some single, String.ofList_toList,
        List.filter_cons_of_pos (by simp [visible])]
      rfl
  | blank blank single e _ ih => rw [visibleLines_blank blank single, ih whole]
  | line t e _ ih =>
      obtain ⟨first, others⟩ := List.forall_mem_cons.mp whole
      obtain ⟨single, closed⟩ := t.render_closed first
      have visible : Text.isBlankText (String.ofList t.render.toList) = false := by
        rw [String.ofList_toList, t.render_isBlankText]
      rw [visibleLines_cons visible single e fun _ => closed, ih others, String.ofList_toList,
        List.map_cons]

/-- The bytes of a text are read line by line, those of its lines that are not blank. -/
theorem readTransactions_bytesOf (text : String)
    : readTransactions (Text.bytesOf text)
      = (visibleLines text.toList).mapM fun line =>
          (Transaction.parse (Text.symbols line)).mapError .badLine := by
  rw [readTransactions, Text.decode?_bytesOf]
  dsimp only [visibleLines]

theorem readTransactions_of_holds {text : String} (holds : Holds text.toList ts)
    (readable : ∀ t ∈ ts, t.value.json.NoReals ∧ t.toJson.nesting ≤ Json.maxDepth)
    : readTransactions (Text.bytesOf text) = .ok ts := by
  have lines := visibleLines_of_holds holds fun t member => (readable t member).1
  rw [readTransactions_bytesOf, lines, mapM_ok_iff, List.map_map]
  refine List.map_congr_left fun t member => ?_
  obtain ⟨whole, fits⟩ := readable t member
  rw [Function.comp_apply, t.parse_render whole fits, mapError_ok]

end Reading

-----------------------------------------------------------------------------------------
-- Lines that are no transactions
-----------------------------------------------------------------------------------------

/-- A line that is neither blank nor the text of one transaction, and what is wrong with it. -/
structure BadLine (line : String) (e : ReadError) : Prop where
  visible : Text.isBlankText line = false
  wrong : Transaction.parse (Text.symbols line) = .error e

/-- The first bad line of a file has this error: those before it are blank or transactions. -/
inductive FirstBad (lines : List String) (e : ReadError) : Prop where
  | intro {before after : List String} {line : String} (place : lines = before ++ line :: after)
    (bad : BadLine line e) (fine : ∀ earlier ∈ before, ∀ other, ¬ BadLine earlier other)

section Failing

variable {line text : String} {lines : List String} {wrong : ReadError}

theorem not_badLine_iff
    : (∀ e, ¬ BadLine line e)
      ↔ (!Text.isBlankText line) = true →
          ∃ t, (Transaction.parse (Text.symbols line)).mapError FileError.badLine = .ok t := by
  simp only [mapError_eq_ok, Bool.not_eq_true']
  constructor
  · intro fine visible
    cases read : Transaction.parse (Text.symbols line) with
    | ok t => exact ⟨t, rfl⟩
    | error e => exact absurd ⟨visible, read⟩ (fine e)
  · rintro read e ⟨visible, wrong⟩
    obtain ⟨t, read⟩ := read visible
    cases read.symm.trans wrong

/-- The reading of a file stops at its first bad line, and for no other reason. -/
theorem readTransactions_error_iff {e : FileError}
    : readTransactions (Text.bytesOf text) = .error e
      ↔ ∃ wrong, e = .badLine wrong ∧ FirstBad (linesOf [] text.toList) wrong := by
  rw [readTransactions_bytesOf, visibleLines, mapM_filter_error_iff]
  constructor
  · rintro ⟨before, line, after, place, fine, visible, failed⟩
    obtain ⟨wrong, cause, rfl⟩ := mapError_eq_error.mp failed
    exact ⟨wrong, rfl, .intro place ⟨by simpa using visible, cause⟩ fun earlier member =>
      not_badLine_iff.mpr (fine earlier member)⟩
  · rintro ⟨wrong, rfl, @⟨before, after, line, place, ⟨visible, failed⟩, fine⟩⟩
    have answered earlier (member : earlier ∈ before) := not_badLine_iff.mp (fine earlier member)
    exact ⟨before, line, after, place, answered, by simp [visible],
      mapError_eq_error.mpr ⟨wrong, failed, rfl⟩⟩

/-- Where there is a bad line there is a first one, by induction on the lines. -/
theorem exists_firstBad {e : ReadError} (bad : BadLine line e)
    : ∀ {lines : List String}, line ∈ lines → ∃ first, FirstBad lines first
  | head :: tail, member => by
      by_cases wrong : ∃ other, BadLine head other
      · obtain ⟨other, wrong⟩ := wrong
        exact ⟨other, .intro (List.nil_append _).symm wrong (List.forall_mem_nil _)⟩
      · have fine := not_exists.mp wrong
        rcases List.mem_cons.mp member with rfl | later
        · exact absurd bad (fine e)
        · obtain ⟨first, ⟨rfl, found, others⟩⟩ := exists_firstBad bad later
          have fine := List.forall_mem_cons.mpr ⟨fine, others⟩
          exact ⟨first, .intro List.cons_append.symm found fine⟩

end Failing

-----------------------------------------------------------------------------------------
-- The reading of a file
-----------------------------------------------------------------------------------------

namespace TransactionFile

/-- The file that contains a text. -/
def ofText (text : String) : TransactionFile :=
  ⟨some (Text.bytesOf text)⟩

/-- The reading of a file of text.

A file that holds transactions is read as these, in their order, if they are without floating-point
numbers and nest no more brackets than a reader allows. The lines of blanks around them and the ends
of their lines do not matter.

A file of any text has lines, which are divided in one way only. Its reading fails if and only if
one of them is bad, with what is wrong with the first bad one, and then it gives no transaction.
-/
theorem read_lines (text : String)
    : (∀ ts, Holds text.toList ts → (∀ t ∈ ts, t.value.json.NoReals ∧ t.toJson.nesting ≤ 127) →
          (ofText text).read = .ok ts)
      ∧ ∃ lines, (∀ other, Lines text.toList other ↔ other = lines)
          ∧ (∀ e, (ofText text).read = .error e
              ↔ ∃ wrong, e = .badLine wrong ∧ FirstBad lines wrong)
          ∧ ∀ line ∈ lines, ∀ e, BadLine line e →
              ∃ first, FirstBad lines first ∧ (ofText text).read = .error (.badLine first) := by
  refine ⟨fun ts holds readable => readTransactions_of_holds holds readable,
    linesOf [] text.toList, fun other => lines_iff, fun e => readTransactions_error_iff, ?_⟩
  intro line member e bad
  obtain ⟨first, found⟩ := exists_firstBad bad member
  exact ⟨first, found, readTransactions_error_iff.mpr ⟨first, rfl, found⟩⟩

/-- A line of blanks with a carriage return among them, and two transactions around an empty line,
the second without a line end.
-/
def mixedText : String :=
  String.ofList (['\u2028', '\r'] ++ ['\r', '\n']
    ++ (awkward.render.toList ++ ['\r', '\n']
      ++ ([] ++ ['\n'] ++ (Transaction.balanceTransfer "b" 5 1).render.toList)))

/-- A line of blanks and two bad lines, which are wrong in different ways. -/
def spoiltText : String :=
  " \n\x7b\x7d\r\nx"

theorem read_lines_mixed
    : (ofText mixedText).read = .ok [awkward, .balanceTransfer "b" 5 1]
      ∧ (ofText spoiltText).read = .error (.badLine (.unfit (.missingField "operation"))) := by
  constructor
  · have holds : Holds mixedText.toList [awkward, .balanceTransfer "b" 5 1] := by
      rw [mixedText, String.toList_ofList]
      exact .blank (by decide) (by decide) .returnFeed
        (.line awkward .returnFeed (.blank (by decide) (by decide) .feed (.last _)))
    refine (read_lines mixedText).1 _ holds ?_
    simp only [List.forall_mem_cons]
    refine ⟨?_, Transaction.whole_of_word rfl, List.forall_mem_nil _⟩
    simp [awkward, Transaction.toJson, Json.NoReals, Json.NoRealItems, Json.nesting,
      Json.nestingMembers, Json.nestingItems]
  · obtain ⟨-, lines, divided, failure, -⟩ := read_lines spoiltText
    have same : [" "] ++ "\x7b\x7d" :: ["x"] = lines := (divided _).mp (lines_iff.mpr (by decide))
    have blank : Text.isBlankText " " = true := by decide
    refine (failure _).mpr ⟨_, rfl, .intro same.symm ?_ ?_⟩
    · exact ⟨by decide, rfl⟩
    · rw [List.forall_mem_singleton]
      exact fun other bad => absurd (blank.symm.trans bad.visible) (by decide)

end TransactionFile

end NodeTrial
