import NodeTrial.Json.Tagged
import NodeTrial.Proofs.Json.Skip

/-! Two readings of one text compared. A shape reads a value straight from the text, or takes it
from the value of any kind that the text was read as before. Both have the same answer, except
that a union is not read straight from the text when its tag is a number.
-/

namespace NodeTrial.Json

open Text (Symbol)

variable {α β γ σ : Type}

-----------------------------------------------------------------------------------------
-- Agreement of one reading with one taking
-----------------------------------------------------------------------------------------

/-- A reading agrees with a taking when it has an answer just where the taking has it and a
condition holds, and then it has that answer and leaves the given rest.
-/
def Agree (read : Except ReadError (α × List Symbol)) (taken : Except Mismatch α) (fits : Prop)
    (rest : List Symbol) : Prop :=
  ∀ value after, read = .ok (value, after) ↔ taken = .ok value ∧ fits ∧ after = rest

theorem Agree.done (value : α) (rest : List Symbol)
    : Agree (.ok (value, rest)) (.ok value) True rest := by
  intro found after
  rw [Except.ok.injEq, Except.ok.injEq, Prod.mk.injEq]
  exact ⟨fun ⟨same, left⟩ => ⟨same, trivial, left.symm⟩, fun ⟨same, _, left⟩ => ⟨same, left.symm⟩⟩

theorem Agree.failed {e : ReadError} {m : Mismatch} {fits : Prop} {rest : List Symbol}
    : Agree (.error e : Except ReadError (α × List Symbol)) (.error m) fits rest :=
  fun _ _ => iff_of_false nofun fun h => nomatch h.1

/-- A reading that fails agrees with any taking of a value that does not fit. -/
theorem Agree.unfit {e : ReadError} {taken : Except Mismatch α} {fits : Prop} {rest : List Symbol}
    (unfit : ¬ fits)
    : Agree (.error e) taken fits rest :=
  fun _ _ => iff_of_false nofun fun h => unfit h.2.1

theorem Agree.congr {read : Except ReadError (α × List Symbol)} {taken : Except Mismatch α}
    {fits fits' : Prop} {rest : List Symbol} (agree : Agree read taken fits rest)
    (same : fits ↔ fits')
    : Agree read taken fits' rest :=
  propext same ▸ agree

/-- Readings that follow one another agree with takings that do, where the value fits if it fits
both.
-/
theorem Agree.bind {read : Except ReadError (α × List Symbol)} {taken : Except Mismatch α}
    {next : α × List Symbol → Except ReadError (β × List Symbol)} {later : α → Except Mismatch β}
    {fits fits' whole : Prop} {middle rest : List Symbol} (agree : Agree read taken fits middle)
    (agrees
      : ∀ value, taken = .ok value → fits →
          Agree (next (value, middle)) (later value) fits' rest)
    (both : whole ↔ fits ∧ fits')
    : Agree (read >>= next) (taken >>= later) whole rest := by
  intro value after
  rw [bind_ok_iff, bind_ok_iff, both]
  constructor
  · rintro ⟨⟨found, left⟩, first, second⟩
    obtain ⟨took, fit, rfl⟩ := (agree found left).mp first
    obtain ⟨tookLater, fitLater, rfl⟩ := (agrees found took fit value after).mp second
    exact ⟨⟨found, took, tookLater⟩, ⟨fit, fitLater⟩, rfl⟩
  · rintro ⟨⟨found, took, tookLater⟩, ⟨fit, fitLater⟩, rfl⟩
    exact ⟨(found, middle), (agree found middle).mpr ⟨took, fit, rfl⟩,
      (agrees found took fit value after).mpr ⟨tookLater, fitLater, rfl⟩⟩

/-- An answer that is changed alike on both sides. -/
theorem Agree.map {read : Except ReadError (α × List Symbol)} {taken : Except Mismatch α}
    {fits : Prop} {rest : List Symbol} (agree : Agree read taken fits rest) (f : α → β)
    : Agree (read >>= fun (value, after) => .ok (f value, after))
        (taken >>= fun value => .ok (f value)) fits rest :=
  agree.bind (fun value _ _ => .done (f value) rest) (iff_of_eq (and_true _)).symm

/-- A check of the value alone, made on both sides. -/
theorem Agree.check (taken : Except Mismatch α) (rest : List Symbol)
    : Agree (taken.mapError .unfit >>= fun value => .ok (value, rest)) taken True rest := by
  cases taken with
  | error m => exact .failed
  | ok value => exact .done value rest

theorem Agree.checkMap (taken : Except Mismatch α) (rest : List Symbol) (f : α → β)
    : Agree (taken.mapError .unfit >>= fun value => .ok (f value, rest))
        (taken >>= fun value => .ok (f value)) True rest := by
  cases taken with
  | error m => exact .failed
  | ok value => exact .done (f value) rest

-----------------------------------------------------------------------------------------
-- Loops
-----------------------------------------------------------------------------------------

/-- Items that are read one by one agree with items that are taken one by one, by induction on the
bound of the loop.
-/
theorem readItems_agree {tree : Reader α} {item : Reader β} {take : α → Except Mismatch β}
    {fits : α → Prop}
    (agrees
      : ∀ {input value rest}, tree input = .ok (value, rest) →
          Agree (item input) (take value) (fits value) rest)
    {bound : Nat}
    : ∀ {first : Bool} {input rest : List Symbol} {values : List α},
        readItems tree bound first input = .ok (values, rest) →
        Agree (readItems item bound first input) (values.mapM take) (∀ v ∈ values, fits v)
          rest := by
  induction bound with
  | zero =>
      intro _ _ _ _ h
      cases h
  | succ bound ih =>
      intro first input rest values h
      rcases readItems_ok_iff.mp h with
        ⟨closing, found, rfl, rfl⟩ | ⟨start, head, middle, tail, found, read, others, rfl⟩
      · rw [readItems, found, List.mapM_nil]
        exact (Agree.done [] _).congr (by simp)
      · rw [readItems, found, List.mapM_cons]
        exact (agrees read).bind (fun value _ _ => (ih others).map fun values => value :: values)
          List.forall_mem_cons

/-- Members that are taken in from the text agree with members that are taken in from those
collected, by induction on the bound of the loop.
-/
theorem readMembers_agree_from {tree : Reader α} {step : σ → String → Reader σ}
    {next : σ → String × α → Except Mismatch σ} {fits : String → α → Prop}
    (agrees
      : ∀ state key input start value rest, colon input = .ok start →
          tree start = .ok (value, rest) →
          Agree (step state key input) (next state (key, value)) (fits key value) rest)
    {bound : Nat}
    : ∀ {first : Bool} {input rest : List Symbol} {before members : List (String × α)},
        readMembers (collect tree) bound first before input = .ok (members, rest) →
        ∃ added,
          members = before ++ added
          ∧ ∀ state,
              Agree (readMembers step bound first state input) (added.foldlM next state)
                (∀ m ∈ added, fits m.1 m.2) rest := by
  induction bound with
  | zero =>
      intro _ _ _ _ _ h
      cases h
  | succ bound ih =>
      intro first input rest before members h
      rcases readMembers_ok_iff.mp h with
        ⟨found, rfl⟩ | ⟨start, key, value, _, middle, found, named, taken, others⟩
      · refine ⟨[], (List.append_nil _).symm, fun state => ?_⟩
        rw [readMembers, found, List.foldlM_nil]
        exact (Agree.done state _).congr (by simp)
      · obtain ⟨valueStart, v, separated, read, rfl⟩ := collect_ok taken
        obtain ⟨added, rfl, later⟩ := ih others
        refine ⟨(key, v) :: added, by rw [List.append_assoc, List.singleton_append],
          fun state => ?_⟩
        rw [readMembers_next found named, List.foldlM_cons]
        exact (agrees _ key _ _ _ _ separated read).bind (fun state _ _ => later state)
          List.forall_mem_cons

theorem readMembers_agree {tree : Reader α} {step : σ → String → Reader σ}
    (next : σ → String × α → Except Mismatch σ) {fits : String → α → Prop}
    (agrees
      : ∀ state key input start value rest, colon input = .ok start →
          tree start = .ok (value, rest) →
          Agree (step state key input) (next state (key, value)) (fits key value) rest)
    {bound : Nat} {input rest : List Symbol} {members : List (String × α)}
    (h : readMembers (collect tree) bound true [] input = .ok (members, rest)) (state : σ)
    : Agree (readMembers step bound true state input) (members.foldlM next state)
        (∀ m ∈ members, fits m.1 m.2) rest := by
  obtain ⟨added, rfl, agree⟩ := readMembers_agree_from agrees h
  exact agree state

/-- A value that is collected agrees with one that is taken and put behind those before. -/
theorem collect_agree {value : Reader α} {taken : Except Mismatch α} {fits : Prop}
    {input start rest : List Symbol} (separated : colon input = .ok start)
    (agree : Agree (value start) taken fits rest) (before : List (String × α)) (key : String)
    : Agree (collect value before key input)
        (taken >>= fun found => .ok (before ++ [(key, found)])) fits rest := by
  unfold collect
  rw [separated]
  exact agree.map fun found => before ++ [(key, found)]

/-- Members put one behind the other are members taken one by one. -/
theorem foldlM_append {ε : Type} (take : α → Except ε β) (members : List (String × α))
    : ∀ (before : List (String × β)),
        members.foldlM (fun found m => take m.2 >>= fun v => pure (found ++ [(m.1, v)])) before
          = members.mapM (fun m => take m.2 >>= fun v => pure (m.1, v))
            >>= fun added => pure (before ++ added) := by
  induction members with
  | nil => exact fun before => by simp
  | cons m members ih =>
      intro before
      simp only [List.foldlM_cons, List.mapM_cons, bind_assoc, pure_bind, ih, List.append_assoc,
        List.singleton_append]

-----------------------------------------------------------------------------------------
-- Scalars and containers
-----------------------------------------------------------------------------------------

namespace Shape

/-- A shape reads from the text what it takes from the value that the text is read as, if that value
fits.
-/
def Agrees (s : Shape) (fits : Json → Prop) : Prop :=
  ∀ depth input j rest, readTree depth input = .ok (j, rest) →
    Agree (s.read depth input) (s.take j) (fits j) rest

theorem Agrees.congr {s : Shape} {fits fits' : Json → Prop} (agrees : s.Agrees fits)
    (same : ∀ j, fits j ↔ fits' j)
    : s.Agrees fits' :=
  fun depth input j rest h => (agrees depth input j rest h).congr (same j)

/-- A shape of scalars, which accepts no list and no object. -/
theorem scalar_agrees {accept : Json → Except Mismatch Json}
    (flat : ∀ j, j.nesting ≠ 0 → ∃ m, accept j = .error m)
    : (scalar accept).Agrees fun _ => True := by
  intro depth input j rest h
  obtain ⟨less, opened, items, rfl, start, -, rfl⟩ | ⟨less, opened, members, rfl, start, -, rfl⟩
    | ⟨read, noList, noObject⟩ := readTree_ok h
  · obtain ⟨m, empty⟩ := flat (.list []) (by simp [nesting])
    obtain ⟨m', refused⟩ := flat (.list items) (by simp [nesting])
    simp only [scalar, start, empty, refused]
    exact .failed
  · obtain ⟨m, empty⟩ := flat (.object []) (by simp [nesting])
    obtain ⟨m', refused⟩ := flat (.object members) (by simp [nesting])
    simp only [scalar, start, empty, refused]
    exact .failed
  · unfold scalar
    dsimp only
    split
    · next start => exact absurd start (noList _)
    · next start => exact absurd start (noObject _)
    · rw [read]
      exact .check (accept j) rest

theorem text_agrees : text.Agrees fun _ => True := by
  refine scalar_agrees fun j nested => ?_
  cases j with
  | list | object => exact ⟨_, rfl⟩
  | null | bool | number | text => exact absurd (by rw [nesting]) nested

theorem signed_agrees : signed.Agrees fun _ => True := by
  refine scalar_agrees fun j nested => ?_
  cases j with
  | list | object => exact ⟨_, rfl⟩
  | null | bool | number | text => exact absurd (by rw [nesting]) nested

theorem unsigned_agrees : unsigned.Agrees fun _ => True := by
  refine scalar_agrees fun j nested => ?_
  cases j with
  | list | object => exact ⟨_, rfl⟩
  | null | bool | number | text => exact absurd (by rw [nesting]) nested

theorem optionalSigned_agrees : optionalSigned.Agrees fun _ => True := by
  refine scalar_agrees fun j nested => ?_
  cases j with
  | list | object => exact ⟨_, rfl⟩
  | null | bool | number | text => exact absurd (by rw [nesting]) nested

theorem any_agrees : any.Agrees fun _ => True := by
  intro depth input j rest h
  simp only [any, h]
  exact .done j.canonical rest

/-- A shape of lists and objects agrees if it does once a bracket is open: it is neither read from
the text of a scalar nor taken from a scalar.
-/
theorem container_agrees {s : Shape} {fits : Json → Prop}
    (lists
      : ∀ {less input opened items rest}, skipSpace input = .char '[' :: opened →
          readItems (readTree less) (opened.length + 1) true opened = .ok (items, rest) →
          Agree (s.read (less + 1) input) (s.take (.list items)) (fits (.list items)) rest)
    (objects
      : ∀ {less input opened members rest}, skipSpace input = .char '\x7b' :: opened →
          readMembers (collect (readTree less)) (opened.length + 1) true [] opened
            = .ok (members, rest) →
          Agree (s.read (less + 1) input) (s.take (.object members)) (fits (.object members)) rest)
    (unread
      : ∀ {depth input}, (∀ after, skipSpace input ≠ .char '[' :: after) →
          (∀ after, skipSpace input ≠ .char '\x7b' :: after) → ∃ e, s.read depth input = .error e)
    (untaken : ∀ {j}, j.nesting = 0 → ∃ m, s.take j = .error m)
    : s.Agrees fits := by
  intro depth input j rest h
  obtain ⟨less, opened, items, rfl, start, read, rfl⟩
    | ⟨less, opened, members, rfl, start, read, rfl⟩ | ⟨read, noList, noObject⟩ := readTree_ok h
  · exact lists start read
  · exact objects start read
  · obtain ⟨e, failed⟩ := unread noList noObject
    obtain ⟨m, refused⟩ := untaken (readScalar_flat read)
    rw [failed, refused]
    exact .failed

theorem table_agrees {item : Shape} {fits : Json → Prop} (agrees : item.Agrees fits)
    : (table item).Agrees fun j => ∀ m ∈ j.asMembers, fits m.2 := by
  refine container_agrees ?lists ?objects ?unread ?untaken
  case lists =>
    intro less input opened items rest start _
    simp only [table, start]
    exact .failed
  case objects =>
    intro less input opened members rest start read
    have loop := readMembers_agree
      (fun found m => item.take m.2 >>= fun v => pure (found ++ [(m.1, v)]))
      (fun before key _ _ _ _ separated read =>
        collect_agree separated (agrees less _ _ _ read) before key) read []
    rw [foldlM_append] at loop
    simp only [List.nil_append, bind_pure] at loop
    simp only [table, start]
    exact loop.map tableOf
  case unread =>
    intro depth input _ noObject
    unfold table
    dsimp only
    split
    · next start => exact absurd start (noObject _)
    · next start => exact absurd start (noObject _)
    · exact ⟨_, rfl⟩
    · exact ⟨_, rfl⟩
  case untaken =>
    intro j flat
    cases j with
    | null | bool | number | text | list => exact ⟨_, rfl⟩
    | object members => cases flat

theorem table_agrees_always {item : Shape} (agrees : item.Agrees fun _ => True)
    : (table item).Agrees fun _ => True :=
  (table_agrees agrees).congr fun _ => iff_of_true (fun _ _ => trivial) trivial

theorem list_agrees {item : Shape} {fits : Json → Prop} (agrees : item.Agrees fits)
    : (list item).Agrees fun j => ∀ part ∈ j.asItems, fits part := by
  refine container_agrees ?lists ?objects ?unread ?untaken
  case lists =>
    intro less input opened items rest start read
    simp only [list, start]
    exact (readItems_agree (agrees less _ _ _) read).map Json.list
  case objects =>
    intro less input opened members rest start _
    simp only [list, start]
    exact .failed
  case unread =>
    intro depth input noList _
    unfold list
    dsimp only
    split
    · next start => exact absurd start (noList _)
    · next start => exact absurd start (noList _)
    · exact ⟨_, rfl⟩
    · exact ⟨_, rfl⟩
  case untaken =>
    intro j flat
    cases j with
    | null | bool | number | text | object => exact ⟨_, rfl⟩
    | list items => cases flat

-----------------------------------------------------------------------------------------
-- Records
-----------------------------------------------------------------------------------------

/-- The values that stand for a record's fields fit: those of the members named for them, or the
items of a list in their order.
-/
def RecordFits (fields : List Field) (fits : Field → Json → Prop) : Json → Prop
  | .list items => ∀ p ∈ fields.zip items, fits p.1 p.2
  | .object members => ∀ m ∈ members, ∀ f, fieldNamed? fields m.1 = some f → fits f m.2
  | _ => True

theorem fieldNamed?_mem {fields : List Field} {name : String} {f : Field}
    (h : fieldNamed? fields name = some f)
    : f ∈ fields :=
  List.mem_of_find?_eq_some h

/-- A member of a record: a field is read as it is taken, and any other member is passed over. -/
theorem readField_agree {fields : List Field} {fits : Field → Json → Prop}
    (agrees : ∀ f ∈ fields, f.shape.Agrees (fits f)) {depth : Nat} {found : List (String × Json)}
    {key : String} {input start rest : List Symbol} {j : Json} (separated : colon input = .ok start)
    (read : readTree depth start = .ok (j, rest))
    : Agree (readField fields depth found key input) (takeField fields found (key, j))
        (∀ f, fieldNamed? fields key = some f → fits f j) rest := by
  unfold readField takeField
  cases named : fieldNamed? fields key with
  | none =>
      have passed := skipAny_of_readTree read
      simp only [separated, passed, bind, Except.bind, orMalformed_ok]
      exact (Agree.done found rest).congr (by simp)
  | some f =>
      dsimp only
      split
      · exact .failed
      · have value := agrees f (fieldNamed?_mem named) depth start j rest read
        exact (collect_agree separated value found key).congr (by simp)

theorem closeList_ok_iff {input rest : List Symbol}
    : closeList input = .ok rest ↔ skipSpace input = .char ']' :: rest := by
  unfold closeList
  split
  · next start => simp [start]
  · next start =>
    rw [start]
    split <;> simp
  · next start => simp [start]
  · next noClose _ _ => exact iff_of_false nofun (noClose _)

/-- The fields of a record given as a list and the bracket after them. -/
def readClosed (expected : String) (depth : Nat) (fields : List Field) (index : Nat)
    : Reader (List (String × Json)) :=
  fun input => do
    let (found, rest) ← readElements expected depth fields index input
    .ok (found, ← orMalformed (closeList rest))

section Elements

variable {expected : String} {depth index : Nat} {f : Field} {fields : List Field}
    {input start : List Symbol}

/-- A field for which there is an item is read before the others. -/
theorem readClosed_item (found : nextItem (index = 0) input = .ok (true, start))
    : readClosed expected depth (f :: fields) index input
      = f.shape.read depth start >>= fun (value, rest) =>
          readClosed expected depth fields (index + 1) rest >>= fun (others, rest) =>
            .ok ((f.name, value) :: others, rest) := by
  simp only [readClosed, readElements, found, orMalformed_ok, bind, Except.bind]
  cases f.shape.read depth start with
  | error e => rfl
  | ok item =>
      obtain ⟨value, middle⟩ := item
      dsimp only
      cases readElements expected depth fields (index + 1) middle with
      | error e => rfl
      | ok elements =>
          obtain ⟨others, after⟩ := elements
          dsimp only
          cases orMalformed (closeList after) <;> rfl

/-- A field for which there is no item has its value for absence. -/
theorem readClosed_absent {value : Json} (found : nextItem (index = 0) input = .ok (false, start))
    (absent : f.absent = some value)
    : readClosed expected depth (f :: fields) index input
      = readClosed expected depth fields index start >>= fun (others, rest) =>
          .ok ((f.name, value) :: others, rest) := by
  simp only [readClosed, readElements, found, orMalformed_ok, bind, Except.bind, absent]
  cases readElements expected depth fields index start with
  | error e => rfl
  | ok elements =>
      obtain ⟨others, after⟩ := elements
      dsimp only
      cases orMalformed (closeList after) <;> rfl

theorem readClosed_missing (found : nextItem (index = 0) input = .ok (false, start))
    (absent : f.absent = none)
    : readClosed expected depth (f :: fields) index input
      = .error (.unfit (.wrongLength index expected)) := by
  simp only [readClosed, readElements, found, orMalformed_ok, bind, Except.bind, absent]

end Elements

/-- The fields of a record given as a list are read as they are taken, by induction on the fields:
each takes one item while there are items, and its value for absence afterwards.
-/
theorem readClosed_agree (expected : String) (total : Nat) {depth : Nat}
    {fits : Field → Json → Prop} {fields : List Field}
    : (∀ f ∈ fields, f.shape.Agrees (fits f)) →
      ∀ {bound index : Nat} {input rest : List Symbol} {items : List Json},
        readItems (readTree depth) bound (index = 0) input = .ok (items, rest) →
        Agree (readClosed expected depth fields index input)
          (takeElements expected total fields index items) (∀ p ∈ fields.zip items, fits p.1 p.2)
          rest := by
  induction fields with
  | nil =>
      intro _ bound index input rest items h
      cases bound with
      | zero => cases h
      | succ bound =>
          unfold readClosed readElements
          rcases readItems_ok_iff.mp h with
            ⟨closing, found, rfl, rfl⟩ | ⟨start, head, middle, tail, found, -, -, rfl⟩
          · obtain ⟨-, close, after, rfl⟩ | ⟨impossible, -⟩ := nextItem_ok found
            · have closed : closeList input = .ok after := closeList_ok_iff.mpr close
              simp only [bind, Except.bind, closed, orMalformed_ok]
              exact (Agree.done [] after).congr (by simp)
            · cases impossible
          · have unclosed (rest : List Symbol) : closeList input ≠ .ok rest := by
              intro closed
              have close := closeList_ok_iff.mp closed
              obtain ⟨impossible, -⟩
                | ⟨-, ⟨s, after, rfl, noClose⟩, ⟨-, front⟩ | ⟨-, _, comma, -⟩⟩ := nextItem_ok found
              · cases impossible
              · exact noClose (List.cons.inj (front.symm.trans close)).1
              · exact absurd (List.cons.inj (comma.symm.trans close)).1 (by decide)
            cases closed : closeList input with
            | error fault =>
                simp only [bind, Except.bind, closed]
                exact .failed
            | ok rest => exact absurd closed (unclosed rest)
  | cons f fields ih =>
      intro agrees bound index input rest items h
      have head := agrees f List.mem_cons_self
      have further : ∀ g ∈ fields, g.shape.Agrees (fits g) :=
        fun g member => agrees g (List.mem_cons_of_mem f member)
      cases bound with
      | zero => cases h
      | succ bound =>
          rcases readItems_ok_iff.mp h with
            ⟨closing, found, rfl, rfl⟩ | ⟨start, item, middle, tail, found, read, later, rfl⟩
          · unfold takeElements
            cases absent : f.absent with
            | none =>
                rw [readClosed_missing found absent]
                exact .failed
            | some value =>
                obtain ⟨-, -, after, rfl⟩ | ⟨impossible, -⟩ := nextItem_ok found
                · have ended : readItems (readTree depth) 1 (index = 0) (.char ']' :: after)
                      = .ok ([], after) := by
                    rw [readItems, nextItem_close]
                    rfl
                  rw [readClosed_absent found absent]
                  exact ((ih further ended).map fun found => (f.name, value) :: found).congr
                    (by simp)
                · cases impossible
          · rw [readClosed_item found, takeElements]
            exact (head _ _ _ _ read).bind
              (fun value _ _ => (ih further later).map fun found => (f.name, value) :: found)
              List.forall_mem_cons

/-- A record agrees with the record taken from a value if its fields do. -/
theorem record_agrees (name : String) {fields : List Field} {fits : Field → Json → Prop}
    (agrees : ∀ f ∈ fields, f.shape.Agrees (fits f))
    : (record name fields).Agrees (RecordFits fields fits) := by
  refine container_agrees ?lists ?objects ?unread ?untaken
  case lists =>
    intro less input opened items rest start read
    have closed : Agree
        (readClosed ("struct " ++ name ++ " with " ++ elements fields.length) less fields 0 opened)
        (takeElements ("struct " ++ name ++ " with " ++ elements fields.length) fields.length fields 0
          items)
        (∀ p ∈ fields.zip items, fits p.1 p.2) rest :=
      readClosed_agree _ _ agrees read
    have normal := closed.map Json.object
    simp only [readClosed, bind_assoc] at normal
    simp only [record, start]
    exact normal
  case objects =>
    intro less input opened members rest start read
    have loop := readMembers_agree (takeField fields)
      (fun found key _ _ _ _ separated read => readField_agree agrees separated read) read []
    simp only [record, start]
    exact loop.bind (fun found _ _ => .checkMap (complete found fields) rest Json.object)
      (iff_of_eq (and_true _)).symm
  case unread =>
    intro depth input noList noObject
    unfold record
    dsimp only
    split
    · next start => exact absurd start (noList _)
    · next start => exact absurd start (noObject _)
    · next start => exact absurd start (noList _)
    · next start => exact absurd start (noObject _)
    · exact ⟨_, rfl⟩
    · exact ⟨_, rfl⟩
  case untaken =>
    intro j flat
    cases j with
    | null | bool | number | text => exact ⟨_, rfl⟩
    | list | object => cases flat

/-- A record whose fields agree on every value agrees on every value. -/
theorem record_agrees_always (name : String) {fields : List Field}
    (agrees : ∀ f ∈ fields, f.shape.Agrees fun _ => True)
    : (record name fields).Agrees fun _ => True := by
  refine (record_agrees name agrees).congr fun j => iff_of_true ?_ trivial
  cases j with
  | list items => exact fun _ _ => trivial
  | object members => exact fun _ _ _ _ => trivial
  | null | bool | number | text => exact trivial

-----------------------------------------------------------------------------------------
-- Unions
-----------------------------------------------------------------------------------------

theorem nextItem_length {first found : Bool} {input rest : List Symbol}
    (h : nextItem first input = .ok (found, rest))
    : rest.length ≤ input.length := by
  have short := skipSpace_length input
  obtain ⟨-, rfl, -⟩ | ⟨-, -, ⟨-, rfl⟩ | ⟨-, after, comma, rfl⟩⟩ := nextItem_ok h
  · exact short
  · exact short
  · have shorter := skipSpace_length after
    rw [comma, List.length_cons] at short
    omega

/-- Items that are read within some bound are read within any bound above the length of the text:
each of them takes a symbol. By induction on the first bound.
-/
theorem readItems_bound {item : Reader α}
    (shorter : ∀ {input value rest}, item input = .ok (value, rest) → rest.length < input.length)
    {bound : Nat}
    : ∀ {first : Bool} {input rest : List Symbol} {values : List α} {enough : Nat},
        readItems item bound first input = .ok (values, rest) →
        input.length < enough →
        readItems item enough first input = .ok (values, rest) := by
  induction bound with
  | zero =>
      intro _ _ _ _ _ h
      cases h
  | succ bound ih =>
      intro first input rest values enough h large
      cases enough with
      | zero => exact absurd large (Nat.not_lt_zero _)
      | succ enough =>
          rcases readItems_ok_iff.mp h with
            ended | ⟨start, head, middle, tail, found, read, others, rfl⟩
          · exact readItems_ok_iff.mpr (.inl ended)
          · have front := nextItem_length found
            have less := shorter read
            exact readItems_ok_iff.mpr
              (.inr ⟨start, head, middle, tail, found, read, ih others (by omega), rfl⟩)

/-- A value is a number. -/
def isNumber : Json → Bool
  | .number _ => true
  | _ => false

/-- The variant of a union is named by a number, in a member or in front of the other items. -/
def numberedTag (tagName : String) : Json → Bool
  | .object members => members.any fun m => m.1 = tagName && isNumber m.2
  | .list (tag :: _) => isNumber tag
  | _ => false

/-- A tag is read as it is taken, unless it is a number. -/
theorem readTag_agree {variants : List Variant} {depth : Nat} {input rest : List Symbol} {j : Json}
    (h : readTree depth input = .ok (j, rest))
    : Agree (readTag variants input) (takeTag variants j) (isNumber j = false) rest := by
  obtain ⟨less, opened, items, rfl, start, -, rfl⟩ | ⟨less, opened, members, rfl, start, -, rfl⟩
    | ⟨read, noList, noObject⟩ := readTree_ok h
  · simp only [readTag, start]
    exact .failed
  · simp only [readTag, start]
    exact .failed
  · have flat := readScalar_flat read
    unfold readTag
    split
    · next start => exact absurd start (noList _)
    · next start => exact absurd start (noObject _)
    · rw [read]
      cases j with
      | null | bool => exact .failed
      | number n => exact .unfit nofun
      | text name =>
          exact (Agree.check (variantNamed variants name) rest).congr (iff_of_true trivial rfl)
      | list | object => cases flat

/-- A member of a tagged object: the tag is read as it is taken unless it is a number, and any other
member is collected on both sides.
-/
theorem readTagged_agree {tagName : String} {variants : List Variant} {depth : Nat}
    {state : Option Variant × List (String × Json)} {key : String} {input start rest : List Symbol}
    {j : Json} (separated : colon input = .ok start) (read : readTree depth start = .ok (j, rest))
    : Agree (readTagged tagName variants depth state key input)
        (takeTagged tagName variants state (key, j)) (key = tagName → isNumber j = false) rest := by
  unfold readTagged takeTagged
  split
  · next named =>
    split
    · exact .failed
    · rw [separated]
      exact ((readTag_agree read).map fun v => (some v, state.2)).congr (by simp [named])
  · next other =>
    simp only [collect, separated, read, bind, Except.bind]
    exact (Agree.done _ rest).congr (by simp [other])

/-- A union agrees with the union taken from a value, unless its tag is a number. -/
theorem tagged_agrees (title tagName : String) (variants : List Variant)
    : (tagged title tagName variants).Agrees fun j => numberedTag tagName j = false := by
  refine container_agrees ?lists ?objects ?unread ?untaken
  case lists =>
    intro less input opened items rest start read
    simp only [tagged, start]
    rcases readItems_ok_iff.mp read with
      ⟨closing, found, -, rfl⟩ | ⟨front, tag, middle, tail, found, first, others, rfl⟩
    · rw [found]
      exact .failed
    · have further
          : readItems (readTree less) (middle.length + 1) false middle = .ok (tail, rest) :=
        readItems_bound (fun read => (passes_of_readTree read).1) others (Nat.lt_succ_self _)
      rw [found]
      refine (readTag_agree first).bind (fun v _ _ => ?_) (iff_of_eq (and_true _)).symm
      dsimp only
      rw [further]
      exact .check (withTag tagName (some v, .list tail)) rest
  case objects =>
    intro less input opened members rest start read
    have loop := readMembers_agree (takeTagged tagName variants)
      (fun state key _ _ _ _ separated read => readTagged_agree separated read) read (none, [])
    simp only [tagged, start]
    refine loop.bind (fun found _ _ => .check (withTag tagName (found.1, .object found.2)) rest) ?_
    rw [and_true, numberedTag, List.any_eq_false]
    exact forall₂_congr fun m _ => by simp
  case unread =>
    intro depth input noList noObject
    unfold tagged
    dsimp only
    split
    · next start => exact absurd start (noList _)
    · next start => exact absurd start (noObject _)
    · next start => exact absurd start (noList _)
    · next start => exact absurd start (noObject _)
    · exact ⟨_, rfl⟩
    · exact ⟨_, rfl⟩
  case untaken =>
    intro j flat
    cases j with
    | null | bool | number | text => exact ⟨_, rfl⟩
    | list | object => cases flat

/-- A text that is one JSON value is read as a shape when the value is taken as it and fits. -/
theorem Agrees.parse_ok_iff {s : Shape} {fits : Json → Prop} (agrees : s.Agrees fits)
    {input : List Symbol} {j : Json} (whole : Json.parse input = .ok j) {normal : Json}
    : s.parse input = .ok normal ↔ s.take j = .ok normal ∧ fits j := by
  obtain ⟨rest, read, blank⟩ := readWhole_ok_iff.mp whole
  have agree := agrees maxDepth input j rest read
  rw [Shape.parse, readWhole_ok_iff]
  constructor
  · rintro ⟨after, direct, -⟩
    obtain ⟨taken, fit, -⟩ := (agree normal after).mp direct
    exact ⟨taken, fit⟩
  · rintro ⟨taken, fit⟩
    exact ⟨rest, (agree normal rest).mpr ⟨taken, fit, rfl⟩, blank⟩

end Shape

end NodeTrial.Json
