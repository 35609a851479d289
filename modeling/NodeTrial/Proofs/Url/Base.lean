import NodeTrial.Proofs.Url.Parser
import NodeTrial.Url.Base

/-! Base URLs. Closing the path of a URL adds a slash and changes nothing else, unless the path
reads otherwise with the slash. Names joined onto a closed path come after it.
-/

namespace NodeTrial.Url

variable {scheme : String} {segments : List String} {u : Url}

-----------------------------------------------------------------------------------------
-- Paths read anew
-----------------------------------------------------------------------------------------

/-- A written text that does not start with a slash is a bare path as it is. -/
theorem pathAnew_bare {old : String} {text : List Char}
    (written : ∀ c ∈ text, Percent.isControl c = false) (noRoot : text.head? ≠ some '/')
    : pathAnew scheme (.bare old) text = .bare (String.ofList text) := by
  have plain : ∀ c ∈ text, isIgnored c = false :=
    fun c member => isIgnored_of_isControl (written c member)
  have kept : pathAnew scheme (.bare old) text
      = .bare (String.ofList (Percent.encode Percent.isControl (visible text))) := by
    unfold pathAnew
    split
    · exact absurd rfl noRoot
    · rfl
    · next rooted => cases rooted
  rw [kept, visible_of_plain plain, Percent.encode_of_unmarked written]

/-- The segments of a path as they are when it is read anew; only those of a file may change. -/
def segmentsAnew (scheme : String) (segments : List String) : List String :=
  if scheme = "file" then anew segments else segments

theorem segmentsAnew_eq_iff
    : segmentsAnew scheme segments = segments ↔ (scheme = "file" → IsSteady segments) := by
  rw [segmentsAnew]
  split
  · next file => rw [anew_eq_iff, imp_iff_right file]
  · next noFile => exact iff_of_true rfl fun file => absurd file noFile

theorem text_segmentsAnew_iff
    (written : ∀ segment ∈ segments, IsWritten (isSpecial scheme) segment)
    : (UrlPath.rooted (segmentsAnew scheme segments)).text = (UrlPath.rooted segments).text
      ↔ (scheme = "file" → IsSteady segments) := by
  have anewWritten : ∀ segment ∈ segmentsAnew scheme segments,
      IsWritten (isSpecial scheme) segment := by
    rw [segmentsAnew]
    split
    · exact isWritten_anew written
    · exact written
  rw [← segmentsAnew_eq_iff]
  constructor
  · exact eq_of_text_eq anewWritten written
  · exact fun same => by rw [same]

theorem names_of_areRead {special file : Bool} (h : AreRead special file segments)
    (noFile : file = false)
    : ∀ segment ∈ segments, IsName special segment := by
  cases h with
  | names all => exact all
  | divided inFile => rw [noFile] at inFile; cases inFile

/-- The text of a rooted path with a slash after it reads as its segments and an empty one. -/
theorem pathAnew_rooted {old : List String} (read : IsReadPath scheme (.rooted segments))
    (opened : scheme = "file" → segments.head? ≠ some "")
    : pathAnew scheme (.rooted old) ((UrlPath.rooted segments).text.toList ++ ['/'])
      = .rooted (segmentsAnew scheme segments ++ [""]) := by
  cases read with
  | rooted read _ =>
      rw [segmentsAnew]
      by_cases file : scheme = "file"
      · subst file
        change UrlPath.rooted (dropEmpty (readFilePath _).segments) = _
        rw [readFilePath_text read, dropEmpty_anew (opened rfl)]
        rfl
      · rw [if_neg file]
        change (if scheme = "file" then _ else _) = _
        rw [if_neg file, readSegments_names (names_of_areRead read (beq_false_of_ne file))]

-----------------------------------------------------------------------------------------
-- Closed paths
-----------------------------------------------------------------------------------------

def EndsInSlash (path : UrlPath) : Prop :=
  path.text.toList.getLast? = some '/'

instance : DecidablePred EndsInSlash :=
  fun path => inferInstanceAs (Decidable (path.text.toList.getLast? = some '/'))

theorem text_concat
    : (UrlPath.rooted (segments ++ [""])).text = (UrlPath.rooted segments).text ++ "/" := by
  rw [text_append, text_singleton]
  rfl

theorem endsInSlash_of_text {path : UrlPath} {front : String} (h : path.text = front ++ "/")
    : EndsInSlash path := by
  rw [EndsInSlash, h, String.toList_append]
  exact List.getLast?_concat

theorem endsInSlash_concat : EndsInSlash (.rooted (segments ++ [""])) :=
  endsInSlash_of_text text_concat

/-- A path of segments without slashes ends in one when the last segment is empty. -/
theorem eq_concat_of_endsInSlash {special : Bool}
    (written : ∀ segment ∈ segments, IsWritten special segment)
    (h : EndsInSlash (.rooted segments))
    : ∃ before, segments = before ++ [""] := by
  obtain rfl | ⟨before, last, whole⟩ := List.eq_nil_or_concat segments
  · cases h
  · rw [List.concat_eq_append] at whole
    subst whole
    refine ⟨before, congrArg (before ++ [·]) (String.toList_inj.mp ?_)⟩
    rw [EndsInSlash, text_append, text_singleton, String.toList_append, String.toList_append,
      ← List.append_assoc, List.getLast?_append] at h
    cases found : last.toList.getLast? with
    | none => exact List.getLast?_eq_none_iff.mp found
    | some c =>
        rw [found] at h
        obtain rfl := Option.some.inj h
        have member : '/' ∈ last.toList := List.mem_of_getLast? found
        exact absurd (written last (by simp) _ member).2 (by simp [isSeparator])

/-- What closing makes of a path: one that ends in a slash is kept, another one is read anew with a
slash after it.
-/
inductive Closing (scheme : String) : UrlPath → UrlPath → Prop where
  | kept {path : UrlPath} (ends : EndsInSlash path) : Closing scheme path path
  | empty : Closing scheme (.bare "") (.bare "%2F")
  | bare {text : String} (opened : ¬ EndsInSlash (.bare text)) (some : text ≠ "")
    : Closing scheme (.bare text) (.bare (text ++ "/"))
  | rooted {segments : List String} (opened : ¬ EndsInSlash (.rooted segments))
    : Closing scheme (.rooted segments) (.rooted (segmentsAnew scheme segments ++ [""]))

/-- A closed URL is the URL with another path. -/
theorem closed_eq : u.closed = { u with path := u.closed.path } := by
  rw [closed]
  split <;> rfl

theorem closed_of_endsInSlash (h : EndsInSlash u.path) : u.closed = u :=
  if_pos h

theorem closed_of_not_endsInSlash (h : ¬ EndsInSlash u.path)
    : u.closed.path = pathAnew u.scheme u.path (u.path.text.toList ++ ['/']) :=
  congrArg Url.path (if_neg h)

theorem closing_of_isReadPath (read : IsReadPath u.scheme u.path)
    : Closing u.scheme u.path u.closed.path := by
  by_cases ends : EndsInSlash u.path
  · rw [closed_of_endsInSlash ends]
    exact .kept ends
  · rw [closed_of_not_endsInSlash ends]
    generalize u.path = path at read ends
    cases read with
    | @bare text written noRoot =>
        by_cases empty : text = ""
        · subst empty
          exact .empty
        · have chars : text.toList ≠ [] := by simpa using empty
          obtain ⟨first, rest, front⟩ := List.exists_cons_of_ne_nil chars
          have stillNoRoot : (text.toList ++ ['/']).head? ≠ some '/' := by
            rw [front] at noRoot ⊢
            exact noRoot
          have all : ∀ c ∈ text.toList ++ ['/'], Percent.isControl c = false :=
            List.forall_mem_append.mpr ⟨written, List.forall_mem_singleton.mpr (by decide)⟩
          have whole : String.ofList (text.toList ++ ['/']) = text ++ "/" := by simp
          rw [UrlPath.text, pathAnew_bare all stillNoRoot, whole]
          exact .bare ends empty
    | @rooted segments read front =>
        rw [pathAnew_rooted (.rooted read front)]
        · exact .rooted ends
        · intro file empty
          rw [front file empty] at ends
          exact ends rfl

/-- A path is another one with at most one slash after it, and ends in a slash. -/
structure IsSlashed (path slashed : UrlPath) : Prop where
  ends : EndsInSlash slashed
  text : slashed.text = path.text ∨ slashed.text = path.text ++ "/"

/-- A path that reads as before with a slash after it: a bare one is not empty, and the segments of
a file's path stay as they are when they are read again.
-/
inductive TakesSlash (scheme : String) : UrlPath → Prop where
  | bare {text : String} (some : text ≠ "") : TakesSlash scheme (.bare text)
  | rooted {segments : List String} (steady : scheme = "file" → IsSteady segments)
    : TakesSlash scheme (.rooted segments)

namespace Closing

variable {path result : UrlPath}

theorem endsInSlash_iff (closing : Closing scheme path result)
    : EndsInSlash result ↔ path ≠ .bare "" := by
  cases closing with
  | kept ends =>
      refine iff_of_true ends ?_
      rintro rfl
      cases ends
  | empty => exact iff_of_false (by decide) fun some => some rfl
  | bare opened some =>
      exact iff_of_true (endsInSlash_of_text rfl) fun empty => some (UrlPath.bare.inj empty)
  | rooted => exact iff_of_true endsInSlash_concat nofun

theorem isSlashed_iff (closing : Closing scheme path result) (read : IsReadPath scheme path)
    : IsSlashed path result ↔ EndsInSlash path ∨ TakesSlash scheme path := by
  cases closing with
  | kept ends => exact iff_of_true ⟨ends, .inl rfl⟩ (.inl ends)
  | empty =>
      refine iff_of_false (fun slashed => absurd slashed.ends (by decide)) ?_
      rintro (ends | takes)
      · cases ends
      · cases takes with
        | bare some => exact some rfl
  | bare opened some =>
      exact iff_of_true ⟨endsInSlash_of_text rfl, .inr rfl⟩ (.inr (.bare some))
  | @rooted segments opened =>
      cases read with
      | rooted read front =>
          have same := text_segmentsAnew_iff read.isWritten
          constructor
          · rintro ⟨ends, kept | slashed⟩
            · rw [EndsInSlash, kept] at ends
              exact absurd ends opened
            · rw [text_concat] at slashed
              exact .inr (.rooted (same.mp ((String.append_left_inj "/").mp slashed)))
          · rintro (ends | takes)
            · exact absurd ends opened
            · cases takes with
              | rooted steady =>
                  refine ⟨endsInSlash_concat, .inr ?_⟩
                  rw [text_concat, same.mpr steady]

/-- The last segment of a closed path is empty. -/
theorem eq_concat (closing : Closing scheme path (.rooted segments))
    (read : IsReadPath scheme path)
    : ∃ before, segments = before ++ [""] := by
  cases closing with
  | kept ends =>
      cases read with
      | rooted read front => exact eq_concat_of_endsInSlash read.isWritten ends
  | rooted opened => exact ⟨_, rfl⟩

theorem isRooted_iff (closing : Closing scheme path result)
    : (∃ segments, result = .rooted segments) ↔ ∃ segments, path = .rooted segments := by
  cases closing with
  | kept => exact Iff.rfl
  | empty => exact iff_of_false (fun ⟨_, h⟩ => nomatch h) fun ⟨_, h⟩ => nomatch h
  | bare => exact iff_of_false (fun ⟨_, h⟩ => nomatch h) fun ⟨_, h⟩ => nomatch h
  | rooted => exact iff_of_true ⟨_, rfl⟩ ⟨_, rfl⟩

end Closing

theorem isBase_iff : u.isBase = true ↔ ∃ segments, u.path = .rooted segments := by
  rw [isBase]
  split
  · next text bare => exact iff_of_false nofun fun ⟨_, h⟩ => nomatch bare.symm.trans h
  · next segments rooted => exact iff_of_true rfl ⟨segments, rooted⟩

theorem closed_isBase (read : IsReadPath u.scheme u.path)
    : u.closed.isBase = true ↔ u.isBase = true := by
  rw [isBase_iff, isBase_iff, (closing_of_isReadPath read).isRooted_iff]

-----------------------------------------------------------------------------------------
-- Names joined onto a base
-----------------------------------------------------------------------------------------

/-- A name joined onto a URL whose path is closed by a slash comes after all its segments. The
closing segment is no drive, so this holds for files as well.
-/
theorem join_closed {u : Url} (segments : List String) (name : String)
    (closed : u.path = .rooted (segments ++ [""]))
    : u.join name
      = .ok { u with path := .rooted (segments ++ [name]), query := none, fragment := none } := by
  have plain : replaceLast (segments ++ [""]) name = segments ++ [name] := by
    rw [replaceLast, List.dropLast_concat]
  have file : joinFile (segments ++ [""]) name = segments ++ [name] := by
    rw [joinFile, List.reverse_concat]
    exact plain
  simp only [join, closed, plain, file, ite_self]

/-- A URL is another one with a name after its path, and without query and fragment. -/
structure IsJoined (u : Url) (name : String) (joined : Url) : Prop where
  others : joined = { u with path := joined.path, query := none, fragment := none }
  path : joined.path.text = u.path.text ++ name

/-- Names can be joined onto the closed path of a URL that takes any. -/
theorem closed_join (read : IsReadPath u.scheme u.path) (base : u.closed.isBase = true)
    (name : String)
    : ∃ joined, u.closed.join name = .ok joined ∧ IsJoined u.closed name joined := by
  obtain ⟨segments, path⟩ := isBase_iff.mp base
  obtain ⟨before, rfl⟩ := (path ▸ closing_of_isReadPath read).eq_concat read
  refine ⟨_, join_closed before name path, rfl, ?_⟩
  rw [path, text_append, text_concat, text_singleton, String.append_assoc]

-----------------------------------------------------------------------------------------
-- Base URLs of candidates and defaults
-----------------------------------------------------------------------------------------

/-- A candidate gives a URL of its own: it is there, it can be read, and it takes names. -/
def Gives (candidate : Option String) (own : Url) : Prop :=
  ∃ text, candidate = some text ∧ parse text = .ok own ∧ own.isBase = true

/-- The URL that a base URL comes from: that of the candidate, or of the default if the candidate
gives none.
-/
def IsSource (candidate : Option String) (default : String) (own : Url) : Prop :=
  Gives candidate own ∨ (¬ ∃ given, Gives candidate given) ∧ parse default = .ok own

section Source

variable {candidate : Option String} {default : String}

theorem base_of_gives {own : Url} (given : Gives candidate own)
    : base candidate default = .ok own.closed := by
  obtain ⟨text, rfl, parsed, isBase⟩ := given
  simp [base, parsed, isBase]

theorem base_of_not_gives (none : ¬ ∃ given, Gives candidate given)
    : base candidate default = (parse default).map closed := by
  unfold base
  split
  · next own found =>
    obtain ⟨text, some, parsed⟩ := Option.map_eq_some_iff.mp found
    split
    · next isBase => exact absurd ⟨own, text, some, parsed, isBase⟩ none
    · rfl
  · rfl

theorem base_ok_iff
    : base candidate default = .ok u
      ↔ ∃ own, IsSource candidate default own ∧ u = own.closed := by
  constructor
  · intro h
    by_cases given : ∃ own, Gives candidate own
    · obtain ⟨own, gives⟩ := given
      rw [base_of_gives gives] at h
      exact ⟨own, .inl gives, (Except.ok.inj h).symm⟩
    · rw [base_of_not_gives given] at h
      obtain ⟨own, parsed, rfl⟩ := map_ok_iff.mp h
      exact ⟨own, .inr ⟨given, parsed⟩, rfl⟩
  · rintro ⟨own, gives | ⟨none, parsed⟩, rfl⟩
    · exact base_of_gives gives
    · rw [base_of_not_gives none, parsed]
      rfl

theorem base_error_iff {e : UrlError}
    : base candidate default = .error e
      ↔ (¬ ∃ given, Gives candidate given) ∧ parse default = .error e := by
  by_cases given : ∃ own, Gives candidate own
  · obtain ⟨own, gives⟩ := given
    rw [base_of_gives gives]
    exact iff_of_false nofun fun h => h.1 ⟨own, gives⟩
  · rw [base_of_not_gives given, and_iff_right given, map_error_iff]

theorem isReadPath_of_gives {own : Url} (given : Gives candidate own)
    : IsReadPath own.scheme own.path := by
  obtain ⟨text, -, parsed, -⟩ := given
  exact parse_isRead parsed

theorem isReadPath_of_isSource {own : Url} (source : IsSource candidate default own)
    : IsReadPath own.scheme own.path := by
  obtain given | ⟨-, parsed⟩ := source
  · exact isReadPath_of_gives given
  · exact parse_isRead parsed

end Source

/-- The endpoints of a server, those that operations are posted to and the one that is read. -/
def endpoints : List String :=
  ["set", "increase", "update", "batch", "get_value"]

/-- What a base URL is of the URL it comes from: that URL with another path. It ends in a slash
unless that URL had no path at all, and is its path with at most one slash added exactly where that
path takes a slash. Every endpoint can be joined onto it if any name can.
-/
structure IsBaseOf (own u : Url) : Prop where
  others : u = { own with path := u.path }
  ends : EndsInSlash u.path ↔ own.path ≠ .bare ""
  slashed : IsSlashed own.path u.path ↔ EndsInSlash own.path ∨ TakesSlash own.scheme own.path
  joins : u.isBase = true →
    ∀ name ∈ endpoints, ∃ joined, u.join name = .ok joined ∧ IsJoined u name joined

theorem closed_isBaseOf {own : Url} (read : IsReadPath own.scheme own.path)
    : IsBaseOf own own.closed :=
  have closing := closing_of_isReadPath read
  { others := closed_eq
    ends := closing.endsInSlash_iff
    slashed := closing.isSlashed_iff read
    joins := fun base name _ => closed_join read base name }

/-- The base URL of a candidate and a default is the closed URL of the candidate where that gives
one, and of the default otherwise. It is missing only where the default is needed and is no URL.
-/
theorem base_closes (candidate : Option String) (default : String)
    : (∀ u, base candidate default = .ok u
          ↔ ∃ own, IsSource candidate default own ∧ u = own.closed)
      ∧ (∀ e, base candidate default = .error e
          ↔ (¬ ∃ given, Gives candidate given) ∧ parse default = .error e)
      ∧ ∀ own, IsSource candidate default own → IsBaseOf own own.closed :=
  ⟨fun _ => base_ok_iff, fun _ => base_error_iff,
    fun _ source => closed_isBaseOf (isReadPath_of_isSource source)⟩

/-- A drive with a bar and an empty path do not stay as they are with a slash after them: the one is
written with a colon, the other one is percent-encoded together with the slash.
-/
theorem base_not_slashed
    : (∃ own u, IsSource (some "file:///C|") "http://localhost:8080/" own
        ∧ base (some "file:///C|") "http://localhost:8080/" = .ok u
        ∧ u.path.text = "/C:/" ∧ ¬ IsSlashed own.path u.path)
      ∧ ∃ own u, IsSource none "foo:" own ∧ base none "foo:" = .ok u
        ∧ u.path.text = "%2F" ∧ ¬ IsSlashed own.path u.path := by
  constructor
  · have parsed : parse "file:///C|"
        = .ok (plain "file" (some (.domain "")) (.rooted ["C|"])) := rfl
    have given : IsSource (some "file:///C|") "http://localhost:8080/" _ :=
      .inl ⟨_, rfl, parsed, rfl⟩
    exact ⟨_, _, given, base_ok_iff.mpr ⟨_, given, rfl⟩, by decide,
      fun slashed => absurd slashed.text (by decide)⟩
  · have absent : ¬ ∃ given, Gives none given := fun ⟨_, _, found, _⟩ => nomatch found
    have parsed : parse "foo:" = .ok (plain "foo" none (.bare "")) := rfl
    have needed : IsSource none "foo:" _ := .inr ⟨absent, parsed⟩
    exact ⟨_, _, needed, base_ok_iff.mpr ⟨_, needed, rfl⟩, by decide,
      fun slashed => absurd slashed.ends (by decide)⟩

end NodeTrial.Url
