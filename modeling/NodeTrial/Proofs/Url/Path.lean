import NodeTrial.Proofs.Url.Segment

/-! Paths, segment by segment. All segments of a path that was read are names. A drive at the front
of a file's path may be followed by one more segment, which may be one of dots. Reading such a path
again only moves that drive and these dots.
-/

namespace NodeTrial.Url

open Text (sections)

variable {special file : Bool} {segments : List String} {p : PathReading} {cs : List Char}

@[simp]
theorem PathReading.add_segments : (p.add segments).segments = p.segments ++ segments :=
  rfl

-----------------------------------------------------------------------------------------
-- Segments that were read
-----------------------------------------------------------------------------------------

/-- The segments of a path as they are read: names, but for what was divided from a drive at the
front of a file's path.
-/
inductive AreRead (special file : Bool) (segments : List String) : Prop where
  | names (all : ∀ segment ∈ segments, IsName special segment)
  | divided {drive second : String} {rest : List String} (inFile : file = true)
    (whole : segments = drive :: second :: rest) (front : isWrittenDrive drive = true)
    (written : IsWritten special second) (all : ∀ segment ∈ rest, IsName special segment)

namespace AreRead

theorem nil : AreRead special file [] :=
  .names nofun

theorem isWritten (h : AreRead special file segments)
    : ∀ segment ∈ segments, IsWritten special segment := by
  cases h with
  | names all => exact fun segment member => (all segment member).written
  | divided _ whole front written all =>
      subst whole
      exact List.forall_mem_cons.mpr ⟨(isName_of_isWrittenDrive front).written,
        List.forall_mem_cons.mpr ⟨written, fun segment member => (all segment member).written⟩⟩

/-- Names can be added at the end. -/
theorem append {more : List String} (h : AreRead special file segments)
    (others : ∀ segment ∈ more, IsName special segment)
    : AreRead special file (segments ++ more) := by
  cases h with
  | names all => exact .names (List.forall_mem_append.mpr ⟨all, others⟩)
  | divided inFile whole front written all =>
      subst whole
      exact .divided inFile rfl front written (List.forall_mem_append.mpr ⟨all, others⟩)

theorem dropLast (h : AreRead special file segments) : AreRead special file segments.dropLast := by
  cases h with
  | names all => exact .names fun segment member => all segment (List.dropLast_subset _ member)
  | @divided drive second rest inFile whole front written all =>
      subst whole
      cases rest with
      | nil => exact .names (List.forall_mem_singleton.mpr (isName_of_isWrittenDrive front))
      | cons third rest =>
          exact .divided inFile rfl front written fun segment member =>
            all segment (List.dropLast_subset _ member)

theorem above (h : AreRead special file segments) : AreRead special file (above segments) := by
  rw [Url.above]
  split
  · exact h
  · exact h.dropLast

end AreRead

theorem addFront_of_not_divided (whole : dividedDrive? cs = none)
    : addFront p cs = if isDrive (visible cs) then ⟨[writtenDrive (visible cs)], true⟩
        else p.add [writtenSegment (visible cs)] := by
  rw [addFront, whole]

section Adding

variable (unmarked : ∀ c ∈ cs, isSeparator special c = false)

include unmarked

/-- A drive and what is divided from it are the first two segments. -/
theorem addFront_divided_areRead (empty : p.segments = [])
    (divided : (dividedDrive? cs).isSome = true)
    : AreRead special true (addFront p cs).segments := by
  obtain ⟨parts, found⟩ := Option.isSome_iff_exists.mp divided
  obtain ⟨drive, second, rfl, front, written⟩ := isWritten_of_dividedDrive? unmarked found
  rw [addFront, found, PathReading.add_segments, empty]
  exact .divided rfl rfl front written nofun

theorem addName_areRead (h : AreRead special file p.segments)
    (noDot : isDot (visible cs) = false) (noDoubleDot : isDoubleDot (visible cs) = false)
    : AreRead special file (p.add [writtenSegment (visible cs)]).segments := by
  have inside : ∀ c ∈ visible cs, isSeparator special c = false :=
    fun c member => unmarked c (mem_of_mem_visible member)
  exact h.append (List.forall_mem_singleton.mpr (isName_writtenSegment inside noDot noDoubleDot))

theorem addFront_whole_areRead (h : AreRead special file p.segments)
    (whole : dividedDrive? cs = none)
    (noDot : isDot (visible cs) = false) (noDoubleDot : isDoubleDot (visible cs) = false)
    : AreRead special file (addFront p cs).segments := by
  rw [addFront_of_not_divided whole]
  split
  · next drive =>
    exact .names (List.forall_mem_singleton.mpr
      (isName_of_isWrittenDrive (isWrittenDrive_writtenDrive drive)))
  · exact addName_areRead unmarked h noDot noDoubleDot

/-- Adding a segment leaves segments that were read: one that is dots moves in the path, any other
one is written as a name.
-/
theorem addSegment_areRead {last : Bool} (h : AreRead special file p.segments)
    : AreRead special file (addSegment file last p cs).segments := by
  have closing : ∀ s ∈ (if last then [""] else []), IsName special s := by
    cases last with
    | true => exact List.forall_mem_singleton.mpr isName_empty
    | false => exact nofun
  rw [addSegment]
  split
  · next divided =>
    simp only [Bool.and_eq_true, List.isEmpty_iff] at divided
    obtain ⟨⟨rfl, empty⟩, some⟩ := divided
    exact addFront_divided_areRead unmarked empty some
  · next undivided =>
    split
    · exact h.above.append closing
    · next noDoubleDot =>
      split
      · exact h.append closing
      · next noDot =>
        have noDoubleDot := Bool.eq_false_iff.mpr noDoubleDot
        have noDot := Bool.eq_false_iff.mpr noDot
        split
        · next atFront =>
          have whole : dividedDrive? cs = none := by simpa [atFront] using undivided
          exact addFront_whole_areRead unmarked h whole noDot noDoubleDot
        · exact addName_areRead unmarked h noDot noDoubleDot

end Adding

/-- By induction on the segments that are added. -/
theorem addSegments_areRead {parts : List (List Char)}
    : ∀ {p : PathReading}, (∀ part ∈ parts, ∀ c ∈ part, isSeparator special c = false) →
        AreRead special file p.segments →
        AreRead special file (addSegments file p parts).segments := by
  induction parts with
  | nil => exact fun _ h => h
  | cons part parts ih =>
      intro p unmarked h
      obtain ⟨first, others⟩ := List.forall_mem_cons.mp unmarked
      cases parts with
      | nil => exact addSegment_areRead first h
      | cons next rest => exact ih others (addSegment_areRead first h)

theorem readSegments_areRead : AreRead special file (readSegments special file cs).segments :=
  addSegments_areRead Text.unmarked_of_mem_sections .nil

-----------------------------------------------------------------------------------------
-- Empty segments at the front
-----------------------------------------------------------------------------------------

theorem dropEmpty_of_head (h : segments.head? ≠ some "") : dropEmpty segments = segments := by
  unfold dropEmpty
  split
  · exact absurd rfl h
  · rfl

/-- Only the last segment can be left empty at the front, by induction on the segments. -/
theorem dropEmpty_eq_of_head (h : (dropEmpty segments).head? = some "")
    : dropEmpty segments = [""] := by
  induction segments with
  | nil => cases h
  | cons first rest ih =>
      by_cases empty : first = ""
      · subst empty
        cases rest with
        | nil => rfl
        | cons next rest => exact ih h
      · have kept : dropEmpty (first :: rest) = first :: rest := dropEmpty_of_head (by simp [empty])
        rw [kept] at h
        exact absurd (Option.some.inj h) empty

theorem dropEmpty_subset : dropEmpty segments ⊆ segments := by
  induction segments with
  | nil => exact List.Subset.refl _
  | cons first rest ih =>
      by_cases empty : first = ""
      · subst empty
        cases rest with
        | nil => exact List.Subset.refl _
        | cons next rest => exact List.subset_cons_of_subset _ ih
      · rw [dropEmpty_of_head (by simp [empty])]
        exact List.Subset.refl _

theorem AreRead.dropEmpty (h : AreRead special file segments)
    : AreRead special file (dropEmpty segments) := by
  cases h with
  | names all => exact .names fun segment member => all segment (dropEmpty_subset member)
  | divided inFile whole front written all =>
      subst whole
      rw [dropEmpty_of_head]
      · exact .divided inFile rfl front written all
      · intro empty
        rw [Option.some.inj empty] at front
        exact absurd front (by decide)

-----------------------------------------------------------------------------------------
-- The text of a path
-----------------------------------------------------------------------------------------

theorem text_append {more : List String}
    : (UrlPath.rooted (segments ++ more)).text
      = (UrlPath.rooted segments).text ++ (UrlPath.rooted more).text := by
  simp [UrlPath.text]

@[simp]
theorem text_singleton {segment : String} : (UrlPath.rooted [segment]).text = "/" ++ segment := by
  simp [UrlPath.text, String.join_cons]

theorem rooted_toList
    : (UrlPath.rooted segments).text.toList
      = segments.flatMap fun segment => '/' :: segment.toList := by
  simp [UrlPath.text, List.flatMap_map]

/-- A slash at the end of a path gives each of its segments one of its own, by induction on them. -/
theorem text_slash
    : (UrlPath.rooted segments).text.toList ++ ['/']
      = '/' :: (segments.map String.toList).flatMap (· ++ ['/']) := by
  rw [rooted_toList]
  induction segments with
  | nil => rfl
  | cons segment rest ih =>
      rw [List.flatMap_cons, List.append_assoc, ih, List.map_cons, List.flatMap_cons,
        List.cons_append, List.append_assoc, List.singleton_append]

/-- The segments of a path stand behind its root with slashes between them, by induction on them. -/
theorem rooted_cons_toList {segment : String}
    : (UrlPath.rooted (segment :: segments)).text.toList
      = '/' :: ['/'].intercalate ((segment :: segments).map String.toList) := by
  rw [rooted_toList]
  induction segments generalizing segment with
  | nil => simp [List.intercalate_singleton]
  | cons next rest ih =>
      rw [List.flatMap_cons, ih, List.map_cons, List.map_cons, List.map_cons,
        List.intercalate_cons_cons, List.append_assoc, List.singleton_append, List.cons_append]

/-- The sections of the text of a path with a slash at its end are its segments and an empty one. -/
theorem sections_belowRoot (written : ∀ segment ∈ segments, IsWritten special segment)
    : sections (isSeparator special)
        (belowRoot special ((UrlPath.rooted segments).text.toList ++ ['/']))
      = (segments ++ [""]).map String.toList := by
  have below (rest : List Char) : belowRoot special ('/' :: rest) = rest := rfl
  have unmarked : ∀ part ∈ segments.map String.toList, ∀ c ∈ part, isSeparator special c = false :=
    List.forall_mem_map.mpr fun segment member c inside => (written segment member c inside).2
  rw [text_slash, below, Text.sections_ended rfl unmarked, List.map_append]
  rfl

/-- Segments without slashes are told by the text of their path. -/
theorem eq_of_text_eq {others : List String}
    (written : ∀ segment ∈ segments, IsWritten special segment)
    (alsoWritten : ∀ segment ∈ others, IsWritten special segment)
    (same : (UrlPath.rooted segments).text = (UrlPath.rooted others).text)
    : segments = others := by
  have parts := sections_belowRoot written
  rw [same, sections_belowRoot alsoWritten] at parts
  exact List.append_cancel_right
    ((List.map_inj_right fun _ _ => String.toList_inj.mp).mp parts.symm)

-----------------------------------------------------------------------------------------
-- Reading written segments again
-----------------------------------------------------------------------------------------

theorem visible_of_isWritten {segment : String} (h : IsWritten special segment)
    : visible segment.toList = segment.toList :=
  visible_of_plain h.plain

/-- A written segment below the front of a path: dots move, any other one is added as it is. -/
theorem addSegment_of_isWritten {segment : String} {last : Bool} (h : IsWritten special segment)
    (inside : file = true → p.segments ≠ [])
    : addSegment file last p segment.toList
      = if isDoubleDot segment.toList then
          { p with segments := above p.segments ++ if last then [""] else [] }
        else if isDot segment.toList then p.add (if last then [""] else [])
        else p.add [segment] := by
  have notFront : (file && p.segments.isEmpty) = false := by
    cases file with
    | true => simpa using inside rfl
    | false => rfl
  simp [addSegment, notFront, visible_of_isWritten h, h.writtenSegment]

theorem addSegment_name {segment : String} {last : Bool} (h : IsName special segment)
    (inside : file = true → p.segments ≠ [])
    : addSegment file last p segment.toList = p.add [segment] := by
  have noDots := Bool.or_eq_false_iff.mp h.noDots
  rw [addSegment_of_isWritten h.written inside, noDots.1, noDots.2]
  rfl

/-- Names are read one by one as they are, by induction on them. -/
theorem addSegments_names {names : List String} (all : ∀ name ∈ names, IsName special name)
    : ∀ {p : PathReading}, (file = true → p.segments ≠ []) →
        (addSegments file p (names.map String.toList)).segments = p.segments ++ names := by
  induction names with
  | nil => exact fun _ => (List.append_nil _).symm
  | cons name names ih =>
      intro p inside
      obtain ⟨first, others⟩ := List.forall_mem_cons.mp all
      cases names with
      | nil => exact congrArg PathReading.segments (addSegment_name first inside)
      | cons next rest =>
          have step : (addSegments file (addSegment file false p name.toList)
                ((next :: rest).map String.toList)).segments
              = p.segments ++ [name] ++ (next :: rest) := by
            rw [addSegment_name first inside, ih others (by simp), PathReading.add_segments]
          rwa [List.append_assoc] at step

/-- A path of names that is no file's is read again as it is. -/
theorem readSegments_names (all : ∀ segment ∈ segments, IsName special segment)
    : (readSegments special false
        (belowRoot special ((UrlPath.rooted segments).text.toList ++ ['/']))).segments
      = segments ++ [""] := by
  rw [readSegments, sections_belowRoot fun segment member => (all segment member).written]
  exact addSegments_names (List.forall_mem_append.mpr
    ⟨all, List.forall_mem_singleton.mpr isName_empty⟩) nofun

/-- The first segment of a file's path as it is when the path is read again. -/
def frontAnew (segment : String) : String :=
  if isDrive segment.toList then writtenDrive segment.toList else segment

/-- The segments of a file's path as they are when the path is read again: a drive at the front is
written with a colon, and dots below it are gone.
-/
def anew : List String → List String
  | [] => []
  | front :: rest => frontAnew front :: rest.filter fun segment => !isDots segment

theorem addSegments_cons {part : List Char} {parts : List (List Char)} (more : parts ≠ [])
    : addSegments file p (part :: parts)
      = addSegments file (addSegment file false p part) parts := by
  cases parts with
  | nil => exact absurd rfl more
  | cons next rest => rfl

theorem addSegment_front {segment : String} (last : Bool) (h : IsName special segment)
    : (addSegment true last ⟨[], false⟩ segment.toList).segments = [frontAnew segment] := by
  have noDots := Bool.or_eq_false_iff.mp h.noDots
  have whole : dividedDrive? segment.toList = none := dividedDrive?_of_plain h.written.plain
  simp only [addSegment, whole, visible_of_isWritten h.written, noDots, List.isEmpty_nil,
    Option.isSome_none, Bool.and_false, Bool.and_self, Bool.false_eq_true, if_false, if_true]
  rw [addFront_of_not_divided whole, visible_of_isWritten h.written, h.written.writtenSegment,
    frontAnew]
  split
  · rfl
  · rfl

/-- There is no way up from a drive, so dots below it are not kept. -/
theorem addSegment_below_drive {drive segment : String} (front : isWrittenDrive drive = true)
    (path : p.segments = [drive]) (h : IsWritten special segment)
    : (addSegment true false p segment.toList).segments
      = drive :: [segment].filter fun segment => !isDots segment := by
  rw [addSegment_of_isWritten h fun _ => by simp [path]]
  split
  · next dots => simp [isDots, dots, path, above_drive front]
  · next noDoubleDot =>
    split
    · next dot => simp [isDots, dot, path]
    · next noDot => simp [isDots, noDoubleDot, noDot, path]

theorem filter_names {names : List String} (all : ∀ name ∈ names, IsName special name)
    : (names.filter fun name => !isDots name) = names :=
  List.filter_eq_self.mpr fun name member => by rw [(all name member).noDots]; rfl

/-- How a file's path is read again, a slash after it. -/
theorem readFilePath_text (h : AreRead true true segments)
    : (readFilePath ((UrlPath.rooted segments).text.toList ++ ['/'])).segments
      = anew segments ++ [""] := by
  have empty : IsName true "" := isName_empty
  have ended {rest : List String} (all : ∀ name ∈ rest, IsName true name)
      : ∀ name ∈ rest ++ [""], IsName true name :=
    List.forall_mem_append.mpr ⟨all, List.forall_mem_singleton.mpr empty⟩
  have more (rest : List String) : (rest ++ [""]).map String.toList ≠ [] := by simp
  rw [readFilePath, readSegments, sections_belowRoot h.isWritten]
  cases h with
  | names all =>
      cases segments with
      | nil => exact addSegment_front true empty
      | cons front rest =>
          obtain ⟨first, others⟩ := List.forall_mem_cons.mp all
          have begun := addSegment_front false first
          rw [List.cons_append, List.map_cons, addSegments_cons (more rest),
            addSegments_names (ended others) (by simp [begun]), begun, anew, filter_names others]
          rfl
  | @divided drive second rest _ whole front written all =>
      subst whole
      have first : frontAnew drive = drive := by
        rw [frontAnew, writtenDrive_of_isWrittenDrive front, ite_self]
      have name : IsName true drive := isName_of_isWrittenDrive front
      have begun := addSegment_front false name
      rw [first] at begun
      have below := addSegment_below_drive front begun written
      have kept : anew (drive :: second :: rest)
          = drive :: ([second].filter fun segment => !isDots segment) ++ rest := by
        change frontAnew drive :: ([second] ++ rest).filter (fun segment => !isDots segment) = _
        rw [first, List.filter_append, filter_names all, List.cons_append]
      rw [List.cons_append, List.cons_append, List.map_cons, List.map_cons,
        addSegments_cons (by simp), addSegments_cons (more rest),
        addSegments_names (ended all) (by simp [below]), below, kept, List.append_assoc]

-----------------------------------------------------------------------------------------
-- What is not changed by reading it again
-----------------------------------------------------------------------------------------

/-- The segments of a file's path stay as they are when the path is read again: there is no drive
with a bar at the front, and there are no dots below the front.
-/
structure IsSteady (segments : List String) : Prop where
  colon : ∀ front ∈ segments.head?, isDrive front.toList = true → isWrittenDrive front = true
  noDots : ∀ segment ∈ segments.tail, isDots segment = false

theorem frontAnew_eq_iff {segment : String}
    : frontAnew segment = segment
      ↔ (isDrive segment.toList = true → isWrittenDrive segment = true) := by
  rw [frontAnew]
  split
  · next drive =>
    constructor
    · exact fun same _ => same ▸ isWrittenDrive_writtenDrive drive
    · exact fun written => writtenDrive_of_isWrittenDrive (written drive)
  · next noDrive => exact iff_of_true rfl fun drive => absurd drive noDrive

theorem anew_eq_iff : anew segments = segments ↔ IsSteady segments := by
  cases segments with
  | nil => exact iff_of_true rfl ⟨nofun, nofun⟩
  | cons front rest =>
      have kept : (rest.filter fun segment => !isDots segment) = rest
          ↔ ∀ segment ∈ rest, isDots segment = false := by
        simp
      rw [anew, List.cons.injEq, frontAnew_eq_iff, kept]
      constructor
      · rintro ⟨colon, noDots⟩
        exact ⟨fun _ first => Option.some.inj first ▸ colon, noDots⟩
      · exact fun h => ⟨h.colon front rfl, h.noDots⟩

theorem isWritten_anew (written : ∀ segment ∈ segments, IsWritten special segment)
    : ∀ segment ∈ anew segments, IsWritten special segment := by
  cases segments with
  | nil => exact nofun
  | cons front rest =>
      obtain ⟨first, others⟩ := List.forall_mem_cons.mp written
      refine List.forall_mem_cons.mpr ⟨?_, fun segment member => ?_⟩
      · rw [frontAnew]
        split
        · next drive =>
          exact (isName_of_isWrittenDrive (isWrittenDrive_writtenDrive drive)).written
        · exact first
      · exact others segment (List.mem_filter.mp member).1

/-- No empty segment comes to the front of a file's path when it is read again. -/
theorem dropEmpty_anew (h : segments.head? ≠ some "")
    : dropEmpty (anew segments ++ [""]) = anew segments ++ [""] := by
  cases segments with
  | nil => rfl
  | cons front rest =>
      refine dropEmpty_of_head fun empty => ?_
      have empty : frontAnew front = "" := Option.some.inj empty
      rw [frontAnew] at empty
      split at empty
      · next drive =>
        have written := isWrittenDrive_writtenDrive drive
        rw [empty] at written
        exact absurd written (by decide)
      · exact h (congrArg some empty)

end NodeTrial.Url
