import NodeTrial.Proofs.Url.Authority
import NodeTrial.Proofs.Url.Base

/-! URLs of the web, which have an authority. Such a URL that was read is read again from its own
text, part by part; only its host may read otherwise, where it is a name beyond ASCII.
-/

namespace NodeTrial.Url

open Text (sections)

variable {u : Url} {host : Host} {segments : List String}

/-- A scheme of the web. -/
def IsWebScheme (scheme : String) : Prop :=
  scheme = "http" ∨ scheme = "https"

theorem IsWebScheme.special {scheme : String} (web : IsWebScheme scheme)
    : isSpecial scheme = true := by
  obtain rfl | rfl := web <;> decide

theorem IsWebScheme.noFile {scheme : String} (web : IsWebScheme scheme) : scheme ≠ "file" := by
  obtain rfl | rfl := web <;> decide

/-- A URL of the web as it was read: an authority, a path of names, and a query and a fragment that are
encoded.
-/
structure IsWeb (u : Url) (host : Host) (segments : List String) : Prop
    extends IsAuthority u host where
  web : IsWebScheme u.scheme
  path : u.path = .rooted segments
  names : ∀ segment ∈ segments, IsName true segment
  query : ∀ query, u.query = some query → ∀ c ∈ query.toList, Percent.inSpecialQuery c = false
  fragment : ∀ fragment, u.fragment = some fragment →
    ∀ c ∈ fragment.toList, Percent.inFragment c = false

-----------------------------------------------------------------------------------------
-- URLs that were read
-----------------------------------------------------------------------------------------

theorem readBody_web {scheme : String} (web : IsWebScheme scheme) (followed : Bool)
    (cs : List Char)
    : readBody scheme followed cs
      = readHostAndPath scheme followed ((visible cs).dropWhile (isSeparator true)) := by
  rw [readBody, if_neg web.noFile, if_pos web.special]

/-- What is read after a scheme of the web: an authority and a path of names. -/
theorem names_of_readBody {scheme : String} {followed : Bool} {cs : List Char}
    (web : IsWebScheme scheme) (h : readBody scheme followed cs = .ok u)
    : ∃ host segments, IsAuthority u host ∧ u.path = .rooted segments
        ∧ ∀ segment ∈ segments, IsName true segment := by
  rw [readBody_web web] at h
  obtain ⟨⟨made, rest⟩, authority, h⟩ := bind_ok_iff.mp h
  obtain ⟨host, auth⟩ := isAuthority_of_readAuthority web.special authority
  cases h
  refine ⟨host, _, auth.before _ _ _, rfl, ?_⟩
  rw [web.special]
  exact names_of_areRead (readPath_areRead rfl : AreRead true false _) rfl

theorem isWeb_of_parse {s : String} (h : parse s = .ok u) (web : IsWebScheme u.scheme)
    : ∃ host segments, IsWeb u host segments := by
  rw [parse] at h
  split at h
  · cases h
  · next scheme rest found =>
    obtain ⟨made, body, h⟩ := bind_ok_iff.mp h
    cases h
    have same : made.scheme = scheme := (readBody_isRead body).same
    change IsWebScheme made.scheme at web
    rw [same] at web
    obtain ⟨host, segments, auth, path, names⟩ := names_of_readBody web body
    refine ⟨host, segments, auth.before _ _ _, same ▸ web, path, names, fun query found => ?_,
      fun fragment found => ?_⟩
    · obtain ⟨cs, -, rfl⟩ := Option.map_eq_some_iff.mp found
      rw [web.special, String.toList_ofList]
      exact Percent.unmarked_of_mem_encode Percent.inSpecialQuery_spares
    · obtain ⟨cs, -, rfl⟩ := Option.map_eq_some_iff.mp found
      rw [String.toList_ofList]
      exact Percent.unmarked_of_mem_encode Percent.inFragment_spares

theorem isWeb_of_isSource {candidate : Option String} {default : String}
    (source : IsSource candidate default u) (web : IsWebScheme u.scheme)
    : ∃ host segments, IsWeb u host segments := by
  rcases source with ⟨text, -, parsed, -⟩ | ⟨-, parsed⟩
  · exact isWeb_of_parse parsed web
  · exact isWeb_of_parse parsed web

theorem IsWeb.withPath {more : List String} (isWeb : IsWeb u host segments)
    (names : ∀ segment ∈ more, IsName true segment)
    : IsWeb { u with path := .rooted more } host more :=
  ⟨isWeb.before _ _ _, isWeb.web, rfl, names, isWeb.query, isWeb.fragment⟩

/-- The base URL of a URL of the web is one itself, and the last segment of its path is empty. -/
theorem isWeb_of_base {candidate : Option String} {default : String}
    (based : base candidate default = .ok u) (web : IsWebScheme u.scheme)
    : ∃ host before, IsWeb u host (before ++ [""]) := by
  obtain ⟨own, source, rfl⟩ := base_ok_iff.mp based
  have same : own.closed = { own with path := own.closed.path } := closed_eq
  rw [same] at web ⊢
  obtain ⟨host, segments, isWeb⟩ := isWeb_of_isSource source web
  have closing := closing_of_isReadPath (isReadPath_of_isSource source)
  generalize own.closed.path = path at closing
  rw [isWeb.path] at closing
  cases closing with
  | kept ends =>
      obtain ⟨before, rfl⟩ := eq_concat_of_endsInSlash
        (fun segment member => (isWeb.names segment member).written) ends
      exact ⟨host, before, isWeb.withPath isWeb.names⟩
  | rooted opened =>
      rw [segmentsAnew, if_neg isWeb.web.noFile]
      exact ⟨host, segments, isWeb.withPath
        (List.forall_mem_append.mpr ⟨isWeb.names, List.forall_mem_singleton.mpr isName_empty⟩)⟩

-----------------------------------------------------------------------------------------
-- Texts
-----------------------------------------------------------------------------------------

/-- What stands between the scheme of a URL and its query: an authority and a path. -/
def body (u : Url) (host : Host) : List Char :=
  '/' :: '/' :: (u.network host ++ u.path.text.toList)

theorem text_toList (some : u.host = some host)
    : u.text.toList
      = u.scheme.toList ++ ':' :: (u.body host ++ (marked "?" u.query).toList
          ++ (marked "#" u.fragment).toList) := by
  simp [text, body, authority_toList some]

namespace IsWeb

variable (isWeb : IsWeb u host segments)

include isWeb

theorem clear_body : ∀ c ∈ u.body host, IsClear ['#', '?'] c := by
  have slash : IsClear ['#', '?'] '/' := ⟨by decide, by decide⟩
  have network : ∀ c ∈ u.network host, IsClear ['#', '?'] c :=
    fun c member => (isWeb.clear c member).mono (by decide)
  have path : ∀ c ∈ u.path.text.toList, IsClear ['#', '?'] c := by
    intro c member
    rw [isWeb.path, rooted_toList] at member
    obtain ⟨segment, found, inside⟩ := List.mem_flatMap.mp member
    rcases List.mem_cons.mp inside with rfl | inside
    · exact slash
    · have plain := ((isWeb.names segment found).written c inside).1
      refine isClear_of_unmarked (by decide) (fun c control => ?_) plain
      simp [Percent.inPath, Percent.inFragment, control]
  exact List.forall_mem_cons.mpr ⟨slash, List.forall_mem_cons.mpr ⟨slash,
    List.forall_mem_append.mpr ⟨network, path⟩⟩⟩

theorem clear_query : ∀ c ∈ (marked "?" u.query).toList, IsClear ['#'] c := by
  cases found : u.query with
  | none => exact nofun
  | some query =>
      rw [marked, String.toList_append]
      refine List.forall_mem_cons.mpr ⟨⟨by decide, by decide⟩, fun c member => ?_⟩
      refine isClear_of_unmarked (by decide) (fun c control => ?_) (isWeb.query query found c member)
      simp [Percent.inSpecialQuery, Percent.inQuery, control]

theorem clear_fragment : ∀ c ∈ (marked "#" u.fragment).toList, IsClear [] c := by
  cases found : u.fragment with
  | none => exact nofun
  | some fragment =>
      rw [marked, String.toList_append]
      refine List.forall_mem_cons.mpr ⟨⟨by decide, by decide⟩, fun c member => ?_⟩
      refine isClear_of_unmarked (by decide) (fun c control => ?_) (isWeb.fragment fragment found c member)
      simp [Percent.inFragment, control]

/-- The text of a URL of the web holds no controls and no spaces. -/
theorem visible_text : ∀ c ∈ u.text.toList, ' ' < c := by
  have scheme : ∀ c ∈ u.scheme.toList, ' ' < c := by
    obtain http | https := isWeb.web
    · simp [http]
    · simp [https]
  rw [text_toList isWeb.named]
  refine List.forall_mem_append.mpr ⟨scheme, List.forall_mem_cons.mpr ⟨by decide, ?_⟩⟩
  refine List.forall_mem_append.mpr ⟨List.forall_mem_append.mpr ⟨?_, ?_⟩, ?_⟩
  · exact fun c member => (isWeb.clear_body c member).visible
  · exact fun c member => (isWeb.clear_query c member).visible
  · exact fun c member => (isWeb.clear_fragment c member).visible

end IsWeb

-----------------------------------------------------------------------------------------
-- Texts read again
-----------------------------------------------------------------------------------------

theorem isIgnored_of_lt {c : Char} (above : ' ' < c) : isIgnored c = false := by
  refine Bool.eq_false_iff.mpr fun ignored => ?_
  simp only [isIgnored, Bool.or_eq_true, beq_iff_eq] at ignored
  obtain (rfl | rfl) | rfl := ignored <;> exact absurd above (by decide)

theorem visible_of_clear {cs marks : List Char} (clear : ∀ c ∈ cs, IsClear marks c)
    : visible cs = cs :=
  visible_of_plain fun c member => isIgnored_of_lt (clear c member).visible

theorem core_of_visible {cs : List Char} (above : ∀ c ∈ cs, ' ' < c) : core cs = cs := by
  have kept {cs : List Char} (above : ∀ c ∈ cs, ' ' < c)
      : cs.dropWhile (fun c => decide (c ≤ ' ')) = cs := by
    cases cs with
    | nil => rfl
    | cons c cs =>
        have first : ¬ c ≤ ' ' := Std.not_le.mpr (above c List.mem_cons_self)
        rw [List.dropWhile_cons_of_neg (by simpa using first)]
  rw [core, kept above, kept fun c member => above c (List.mem_reverse.mp member),
    List.reverse_reverse]

/-- A part is cut off at its mark, if it is there. -/
theorem cutAt_marked {mark : String} {m : Char} (same : mark.toList = [m]) {front : List Char}
    (clear : ∀ c ∈ front, c ≠ m) (part : Option String)
    : cutAt m (front ++ (marked mark part).toList) = (front, part.map String.toList) := by
  have unmarked : ∀ c ∈ front, (c == m) = false := fun c member => beq_false_of_ne (clear c member)
  cases part with
  | none =>
      have bare : front ++ (marked mark none).toList = front := List.append_nil front
      rw [bare, cutAt, Text.splitFirst?_of_unmarked unmarked]
      rfl
  | some part =>
      have whole : front ++ (marked mark (some part)).toList = front ++ m :: part.toList := by
        rw [marked, String.toList_append, same, List.singleton_append]
      have divided : Text.splitFirst? (· == m) (front ++ m :: part.toList)
          = some (front, part.toList) :=
        Text.splitFirst?_append (by simp) _ unmarked
      rw [whole, cutAt, divided]
      rfl

theorem splitScheme?_web {scheme : String} (web : IsWebScheme scheme) (rest : List Char)
    : splitScheme? (scheme.toList ++ ':' :: rest) = some (scheme, rest) := by
  have unmarked : ∀ c ∈ scheme.toList, (c == ':') = false := by
    obtain rfl | rfl := web <;> simp
  rw [splitScheme?, Text.splitFirst?_append rfl rest unmarked]
  obtain rfl | rfl := web <;> rfl

/-- A path of names is read as it is; without a segment it is read as its root. -/
theorem readPath_rooted (names : ∀ segment ∈ segments, IsName true segment)
    : readPath true (UrlPath.rooted segments).text.toList
      = if segments = [] then [""] else segments := by
  cases segments with
  | nil => decide
  | cons segment rest =>
      have unmarked : ∀ part ∈ (segment :: rest).map String.toList, ∀ c ∈ part,
          isSeparator true c = false :=
        List.forall_mem_map.mpr fun segment member c inside =>
          ((names segment member).written c inside).2
      have divided : sections (isSeparator true)
          (['/'].intercalate ((segment :: rest).map String.toList))
            = (segment :: rest).map String.toList :=
        Text.sections_intercalate rfl (List.cons_ne_nil _ _) unmarked
      rw [rooted_cons_toList, if_neg (List.cons_ne_nil _ _)]
      change (addSegments false ⟨[], false⟩ (sections (isSeparator true)
        (['/'].intercalate ((segment :: rest).map String.toList)))).segments = _
      rw [divided]
      exact addSegments_names names nofun

/-- The part of the web that a URL names read again: its host may differ, and its path is not empty. -/
def reread (u : Url) (segments : List String) (host : Host) : Url :=
  { u with host := some host, path := .rooted (if segments = [] then [""] else segments) }

namespace IsWeb

variable (isWeb : IsWeb u host segments)

include isWeb

theorem readBody_body (followed : Bool)
    : readBody u.scheme followed (u.body host)
      = (Host.read host.text.toList).map fun found =>
          { u.reread segments found with query := none, fragment := none } := by
  have special := isWeb.web.special
  have noSeparator : ∀ c ∈ u.network host, isSeparator true c = false := by
    intro c member
    have other := (isWeb.clear c member).other
    simp only [outerMarks, List.mem_cons, List.not_mem_nil, or_false, not_or] at other
    simp [isSeparator, other]
  have started : (u.body host).dropWhile (isSeparator true)
      = u.network host ++ u.path.text.toList := by
    have ne : u.network host ≠ [] := by
      simp [network, isWeb.read.text_ne_nil]
    obtain ⟨c, cs, whole⟩ := List.exists_cons_of_ne_nil ne
    have first := noSeparator c (whole ▸ List.mem_cons_self)
    rw [body, whole, List.dropWhile_cons_of_pos rfl, List.dropWhile_cons_of_pos rfl,
      List.cons_append, List.dropWhile_cons_of_neg (Bool.eq_false_iff.mp first)]
  have rooted : u.path.text.toList.head?.all (isSeparator true) = true := by
    rw [isWeb.path, rooted_toList]
    cases segments with
    | nil => rfl
    | cons segment rest => rfl
  rw [readBody_web isWeb.web, visible_of_clear isWeb.clear_body, started]
  simp only [readHostAndPath, special, Text.upTo_append noSeparator rooted,
    readAuthority_network isWeb.toIsAuthority special]
  cases found : Host.read host.text.toList with
  | error e => rfl
  | ok again =>
      have path : readPath true ([] ++ u.path.text.toList) = if segments = [] then [""] else segments := by
        rw [List.nil_append, isWeb.path, readPath_rooted isWeb.names]
      simp only [bind, Except.bind, Except.map, path]
      rfl

theorem written_query
    : (u.query.map String.toList).map (fun cs =>
        String.ofList (Percent.encode Percent.inSpecialQuery (visible cs))) = u.query := by
  cases found : u.query with
  | none => rfl
  | some query =>
      have seen : visible query.toList = query.toList := visible_of_plain fun c member =>
        isIgnored_of_lt (isWeb.clear_query c (by simp [found, marked, member])).visible
      rw [Option.map_some, Option.map_some, seen,
        Percent.encode_of_unmarked (isWeb.query query found), String.ofList_toList]

theorem written_fragment
    : (u.fragment.map String.toList).map (fun cs =>
        String.ofList (Percent.encode Percent.inFragment (visible cs))) = u.fragment := by
  cases found : u.fragment with
  | none => rfl
  | some fragment =>
      have seen : visible fragment.toList = fragment.toList := visible_of_plain fun c member =>
        isIgnored_of_lt (isWeb.clear_fragment c (by simp [found, marked, member])).visible
      rw [Option.map_some, Option.map_some, seen,
        Percent.encode_of_unmarked (isWeb.fragment fragment found), String.ofList_toList]

/-- A URL of the web is read again from its text, if its host is. -/
theorem parse_text
    : parse u.text = (Host.read host.text.toList).map (u.reread segments) := by
  have noFragment : ∀ c ∈ u.body host ++ (marked "?" u.query).toList, c ≠ '#' := by
    refine List.forall_mem_append.mpr ⟨fun c member same => ?_, fun c member same => ?_⟩
    · exact (isWeb.clear_body c member).other (by simp [same])
    · exact (isWeb.clear_query c member).other (by simp [same])
  have noQuery : ∀ c ∈ u.body host, c ≠ '?' :=
    fun c member same => (isWeb.clear_body c member).other (by simp [same])
  have special := isWeb.web.special
  rw [parse, core_of_visible isWeb.visible_text, text_toList isWeb.named, splitScheme?_web isWeb.web]
  simp only [cutAt_marked (by rfl : "#".toList = ['#']) noFragment,
    cutAt_marked (by rfl : "?".toList = ['?']) noQuery, isWeb.readBody_body, special, if_true,
    isWeb.written_query, isWeb.written_fragment]
  cases found : Host.read host.text.toList with
  | error e => rfl
  | ok again => rfl

end IsWeb

-----------------------------------------------------------------------------------------
-- Base URLs of texts
-----------------------------------------------------------------------------------------

/-- A text denotes the URL that is its base URL whatever the default is. -/
def Denotes (text : String) (u : Url) : Prop :=
  ∀ default, base (some text) default = .ok u

/-- The host of a URL is read again from its own text. -/
def KeepsHost (u : Url) : Prop :=
  ∃ host, u.host = some host ∧ Host.read host.text.toList = .ok host

namespace IsWeb

variable (isWeb : IsWeb u host segments)

include isWeb

/-- A path that does not end in a slash is closed by one. -/
theorem closed_of_opened (opened : ¬ EndsInSlash (.rooted segments))
    : u.closed = { u with path := .rooted (segments ++ [""]) } := by
  have read : IsReadPath u.scheme (.rooted segments) := by
    refine .rooted (.names ?_) fun file => absurd file isWeb.web.noFile
    rw [isWeb.web.special]
    exact isWeb.names
  have path : u.closed.path = .rooted (segments ++ [""]) := by
    rw [closed_of_not_endsInSlash (isWeb.path ▸ opened), isWeb.path, pathAnew_rooted read,
      segmentsAnew, if_neg isWeb.web.noFile]
    exact fun file => absurd file isWeb.web.noFile
  rw [closed_eq, path]

/-- A URL that was read again is closed as the URL itself is, but for its host. -/
theorem closed_reread (found : Host)
    : (u.reread segments found).closed = { u.closed with host := some found } := by
  by_cases none : segments = []
  · subst none
    rw [isWeb.closed_of_opened (by decide)]
    exact closed_of_endsInSlash (by decide : EndsInSlash (.rooted [""]))
  · have kept : (u.reread segments found).path = u.path := by
      rw [reread, if_neg none, isWeb.path]
    have path : (u.reread segments found).closed.path = u.closed.path := by
      by_cases ends : EndsInSlash u.path
      · rw [closed_of_endsInSlash ends, closed_of_endsInSlash (kept ▸ ends), kept]
      · rw [closed_of_not_endsInSlash ends, closed_of_not_endsInSlash (kept ▸ ends), kept]
        rfl
    have whole : (u.reread segments found).closed
        = { u.reread segments found with path := u.closed.path } := path ▸ closed_eq
    have own : u.closed = { u with path := u.closed.path } := closed_eq
    rw [whole, own]
    rfl

theorem base_text {found : Host} (again : Host.read host.text.toList = .ok found)
    (default : String)
    : base (some u.text) default = .ok { u.closed with host := some found } := by
  have parsed : parse u.text = .ok (u.reread segments found) := by
    rw [isWeb.parse_text, again]
    rfl
  rw [base_of_gives ⟨_, rfl, parsed, rfl⟩, isWeb.closed_reread]

/-- The text of a URL denotes that URL closed, if its host is read again. -/
theorem denotes_closed (kept : KeepsHost u) : Denotes u.text u.closed := by
  obtain ⟨found, hasHost, again⟩ := kept
  obtain rfl := Option.some.inj (hasHost.symm.trans isWeb.named)
  have named : u.closed.host = some found := by
    rw [closed_eq]
    exact hasHost
  intro default
  rw [isWeb.base_text again, ← named]

/-- What the text of a URL denotes has the host of the URL only if that is read again. -/
theorem keepsHost_of_denotes {v : Url} (named : v.host = some host) (denotes : Denotes u.text v)
    : KeepsHost v := by
  have given := denotes ""
  cases again : Host.read host.text.toList with
  | error e =>
      have unread : parse u.text = .error e := by
        rw [isWeb.parse_text, again]
        rfl
      -- without a URL in the text there is only the default, and the empty text is none
      obtain ⟨own, ⟨read, whole, parsed, -⟩ | ⟨-, parsed⟩, -⟩ := base_ok_iff.mp given
      · rw [← Option.some.inj whole] at parsed
        exact nomatch unread.symm.trans parsed
      · exact nomatch parsed
  | ok found =>
      rw [isWeb.base_text again] at given
      have hosts := congrArg Url.host (Except.ok.inj given)
      obtain rfl := Option.some.inj (hosts.trans named)
      exact ⟨found, named, again⟩

end IsWeb

/-- The text of a base URL denotes that URL just when its host is read again. -/
theorem IsWeb.denotes_text_iff {before : List String} (isWeb : IsWeb u host (before ++ [""]))
    : Denotes u.text u ↔ KeepsHost u := by
  have closed : u.closed = u := closed_of_endsInSlash (isWeb.path ▸ endsInSlash_concat)
  constructor
  · exact isWeb.keepsHost_of_denotes isWeb.named
  · intro kept
    have denotes := isWeb.denotes_closed kept
    rwa [closed] at denotes

end NodeTrial.Url
