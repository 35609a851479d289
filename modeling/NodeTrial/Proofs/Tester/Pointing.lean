import Mathlib.Data.List.DropRight
import NodeTrial.Proofs.Url.Web
import NodeTrial.Tester.Config

/-! What the executor is pointed at. It is told the text of the server's URL without the slashes at the
end, whichever part of the URL these belong to. The slash that closes a path comes back when the text
is made a base URL again; other slashes, and those of a query or a fragment, do not.
-/

namespace NodeTrial

-----------------------------------------------------------------------------------------
-- Slashes at the end
-----------------------------------------------------------------------------------------

namespace ToolCommand

theorem withoutSlashes_toList (s : String)
    : (withoutSlashes s).toList = s.toList.rdropWhile (· = '/') := by
  rw [withoutSlashes, String.toList_ofList, List.rdropWhile]

theorem withoutSlashes_eq_iff {s : String}
    : withoutSlashes s = s ↔ s.toList.getLast? ≠ some '/' := by
  rw [← String.toList_inj, withoutSlashes_toList, List.rdropWhile_eq_self_iff]
  constructor
  · intro other slash
    obtain ⟨ne, same⟩ := List.mem_getLast?_eq_getLast slash
    exact other ne (by simp [← same])
  · intro other ne slash
    rw [List.getLast?_eq_some_getLast ne] at other
    exact other (congrArg some (of_decide_eq_true slash))

/-- No slash is taken away before another character, by induction on what stands behind it. -/
theorem rdropWhile_append {c : Char} (other : c ≠ '/') (front rest : List Char)
    : (front ++ c :: rest).rdropWhile (· = '/') = front ++ c :: rest.rdropWhile (· = '/') := by
  induction rest using List.reverseRecOn with
  | nil => exact List.rdropWhile_concat_neg _ _ _ (by simpa using other)
  | append_singleton rest d ih =>
      have whole : front ++ c :: (rest ++ [d]) = (front ++ c :: rest) ++ [d] := by simp
      by_cases slash : d = '/'
      · rw [whole, List.rdropWhile_concat_pos _ _ _ (by simpa using slash), ih,
          List.rdropWhile_concat_pos _ _ _ (by simpa using slash)]
      · rw [whole, List.rdropWhile_concat_neg _ _ _ (by simpa using slash),
          List.rdropWhile_concat_neg _ _ _ (by simpa using slash), ← whole]

/-- The slashes behind a mark are those of the part that it stands before. -/
theorem withoutSlashes_append {mark : String} {c : Char} (same : mark.toList = [c]) (other : c ≠ '/')
    (start part : String)
    : withoutSlashes (start ++ (mark ++ part)) = start ++ (mark ++ withoutSlashes part) := by
  simp only [← String.toList_inj, withoutSlashes_toList, String.toList_append, same,
    List.singleton_append, rdropWhile_append other]

theorem mem_of_mem_withoutSlashes {s : String} {c : Char} (member : c ∈ (withoutSlashes s).toList)
    : c ∈ s.toList := by
  rw [withoutSlashes_toList] at member
  exact (List.rdropWhile_prefix _ _).subset member

end ToolCommand

namespace Url

open ToolCommand (withoutSlashes)

variable {u : Url} {host : Host} {segments : List String}

/-- The segments of a path without the empty ones at its end. -/
def withoutEmpty (segments : List String) : List String :=
  segments.rdropWhile (· = "")

/-- Slashes at the end of a path are taken away with the empty segments behind them, by induction on
the segments from the last one on.
-/
theorem rdropWhile_rooted {front : List Char} (ended : front.rdropWhile (· = '/') = front)
    (names : ∀ segment ∈ segments, IsName true segment)
    : (front ++ (UrlPath.rooted segments).text.toList).rdropWhile (· = '/')
      = front ++ (UrlPath.rooted (withoutEmpty segments)).text.toList := by
  induction segments using List.reverseRecOn with
  | nil => simpa [withoutEmpty, rooted_toList] using ended
  | append_singleton segments last ih =>
      obtain ⟨others, final⟩ := List.forall_mem_append.mp names
      have final := List.forall_mem_singleton.mp final
      by_cases empty : last = ""
      · subst empty
        have fewer : withoutEmpty (segments ++ [""]) = withoutEmpty segments :=
          List.rdropWhile_concat_pos _ _ _ (by simp)
        have slash : "/".toList = ['/'] := rfl
        rw [fewer, ← ih others, text_concat, String.toList_append, slash, ← List.append_assoc,
          List.rdropWhile_concat_pos _ _ _ (by simp)]
      · have all : withoutEmpty (segments ++ [last]) = segments ++ [last] :=
          List.rdropWhile_concat_neg _ _ _ (by simpa using empty)
        obtain none | ⟨start, c, chars⟩ := List.eq_nil_or_concat last.toList
        · exact absurd (String.toList_eq_nil_iff.mp none) empty
        · have inside : c ∈ last.toList := by simp [chars]
          have other : c ≠ '/' := by
            rintro rfl
            exact absurd (final.written _ inside).2 (by decide)
          have whole : front ++ (UrlPath.rooted (segments ++ [last])).text.toList
              = front ++ (UrlPath.rooted segments).text.toList ++ '/' :: start ++ [c] := by
            simp [text_append, chars]
          rw [all, whole]
          exact List.rdropWhile_concat_neg _ _ _ (by simpa using other)

/-- A URL without the slashes at the end of its last part. -/
def stripped (u : Url) : Url :=
  match u.fragment, u.query, u.path with
  | some fragment, _, _ => { u with fragment := some (withoutSlashes fragment) }
  | none, some query, _ => { u with query := some (withoutSlashes query) }
  | none, none, .rooted segments => { u with path := .rooted (withoutEmpty segments) }
  | none, none, .bare text => { u with path := .bare (withoutSlashes text) }

section Parts

variable {fragment query : String}

theorem stripped_of_fragment (ends : u.fragment = some fragment)
    : u.stripped = { u with fragment := some (withoutSlashes fragment) } := by
  simp only [stripped, ends]

theorem stripped_of_query (none : u.fragment = none) (ends : u.query = some query)
    : u.stripped = { u with query := some (withoutSlashes query) } := by
  simp only [stripped, none, ends]

theorem stripped_of_path (noFragment : u.fragment = none) (noQuery : u.query = none)
    (ends : u.path = .rooted segments)
    : u.stripped = { u with path := .rooted (withoutEmpty segments) } := by
  simp only [stripped, noFragment, noQuery, ends]

end Parts

theorem stripped_named (named : u.host = some host) : u.stripped.host = some host := by
  unfold stripped
  split <;> exact named

namespace IsWeb

variable (isWeb : IsWeb u host segments)

include isWeb

/-- A URL of the web is still one without the slashes at its end. -/
theorem isWeb_stripped : ∃ left, IsWeb u.stripped host left := by
  cases hasFragment : u.fragment with
  | some fragment =>
      rw [stripped_of_fragment hasFragment]
      refine ⟨segments, isWeb.before _ _ _, isWeb.web, isWeb.path, isWeb.names, isWeb.query,
        fun left same c member => ?_⟩
      obtain rfl := Option.some.inj same
      exact isWeb.fragment _ hasFragment c (ToolCommand.mem_of_mem_withoutSlashes member)
  | none =>
      cases hasQuery : u.query with
      | some query =>
          rw [stripped_of_query hasFragment hasQuery]
          refine ⟨segments, isWeb.before _ _ _, isWeb.web, isWeb.path, isWeb.names,
            fun left same c member => ?_, isWeb.fragment⟩
          obtain rfl := Option.some.inj same
          exact isWeb.query _ hasQuery c (ToolCommand.mem_of_mem_withoutSlashes member)
      | none =>
          rw [stripped_of_path hasFragment hasQuery isWeb.path]
          exact ⟨_, isWeb.withPath fun segment member =>
            isWeb.names segment ((List.rdropWhile_prefix _ _).subset member)⟩

theorem authority_ended
    : (u.scheme ++ ":" ++ u.authority).toList.rdropWhile (· = '/')
      = (u.scheme ++ ":" ++ u.authority).toList := by
  have ne : u.network host ≠ [] := by simp [network, isWeb.read.text_ne_nil]
  have whole : (u.scheme ++ ":" ++ u.authority).toList
      = (u.scheme.toList ++ [':', '/', '/']) ++ u.network host := by
    simp [authority_toList isWeb.named]
  rw [List.rdropWhile_eq_self_iff]
  intro some slash
  simp only [whole, List.getLast_append_of_ne_nil _ ne, decide_eq_true_eq] at slash
  have other := (isWeb.clear _ (List.getLast_mem ne)).other
  rw [slash] at other
  exact other (by decide)

/-- The text of a URL without query and fragment, whatever its path is. -/
theorem text_withPath (noFragment : u.fragment = none) (noQuery : u.query = none) (path : UrlPath)
    : { u with path }.text = u.scheme ++ ":" ++ u.authority ++ path.text := by
  have kept : { u with path }.authority = u.authority := by
    simp [authority, isWeb.named, userinfo]
  rw [text, kept, noFragment, noQuery]
  exact String.append_empty.trans String.append_empty

/-- Taking the slashes off the end of a URL's text takes them off its last part. -/
theorem withoutSlashes_text : withoutSlashes u.text = u.stripped.text := by
  cases hasFragment : u.fragment with
  | some fragment =>
      rw [stripped_of_fragment hasFragment, text, hasFragment]
      exact ToolCommand.withoutSlashes_append rfl (by decide) _ _
  | none =>
      cases hasQuery : u.query with
      | some query =>
          have whole : u.text
              = u.scheme ++ ":" ++ u.authority ++ u.path.text ++ ("?" ++ query) := by
            rw [text, hasFragment, hasQuery]
            exact String.append_empty
          rw [stripped_of_query hasFragment hasQuery, whole, text, hasFragment]
          refine (ToolCommand.withoutSlashes_append rfl (by decide) _ _).trans ?_
          exact String.append_empty.symm
      | none =>
          have whole : u.text = u.scheme ++ ":" ++ u.authority ++ u.path.text :=
            isWeb.text_withPath hasFragment hasQuery u.path
          have parts (path : UrlPath) : (u.scheme ++ ":" ++ u.authority ++ path.text).toList
              = (u.scheme ++ ":" ++ u.authority).toList ++ path.text.toList :=
            String.toList_append
          rw [stripped_of_path hasFragment hasQuery isWeb.path,
            isWeb.text_withPath hasFragment hasQuery (.rooted (withoutEmpty segments)), whole,
            isWeb.path, ← String.toList_inj, ToolCommand.withoutSlashes_toList, parts, parts]
          exact rdropWhile_rooted isWeb.authority_ended isWeb.names

end IsWeb

/-- What is left of a path without the empty segments at its end does not end in a slash. -/
theorem not_endsInSlash_withoutEmpty (names : ∀ segment ∈ segments, IsName true segment)
    : ¬ EndsInSlash (.rooted (withoutEmpty segments)) := by
  intro ends
  have written : ∀ segment ∈ withoutEmpty segments, IsWritten true segment := fun segment member =>
    (names segment ((List.rdropWhile_prefix _ _).subset member)).written
  obtain ⟨before, whole⟩ := eq_concat_of_endsInSlash written ends
  have ne : withoutEmpty segments ≠ [] := by simp [whole]
  refine List.rdropWhile_last_not (fun segment => decide (segment = "")) segments ne ?_
  change decide ((withoutEmpty segments).getLast ne = "") = true
  simp [whole]

-----------------------------------------------------------------------------------------
-- What is denoted without the slashes
-----------------------------------------------------------------------------------------

/-- The text of a URL ends in no slash, but for one that closes its path. -/
def EndsPlainly (u : Url) : Prop :=
  u.text.toList.getLast? = some '/' →
    u.query = none ∧ u.fragment = none ∧ ¬ ['/', '/'] <:+ u.path.text.toList

namespace IsWeb

/-- A URL with a query or a fragment ends plainly when no slash is taken off its text. -/
theorem endsPlainly_iff_of_marked (isWeb : IsWeb u host segments)
    (marked : u.query = none → u.fragment ≠ none)
    : EndsPlainly u ↔ u.stripped.text = u.text := by
  rw [← isWeb.withoutSlashes_text, ToolCommand.withoutSlashes_eq_iff]
  constructor
  · intro plain slash
    obtain ⟨noQuery, noFragment, -⟩ := plain slash
    exact marked noQuery noFragment
  · exact fun other slash => absurd slash other

/-- A URL without query and fragment ends plainly when the last segment of its path is the only empty
one at its end.
-/
theorem endsPlainly_iff_of_bare {before : List String} (isWeb : IsWeb u host (before ++ [""]))
    (noQuery : u.query = none) (noFragment : u.fragment = none)
    : EndsPlainly u ↔ ¬ EndsInSlash (.rooted before) := by
  have ends : u.text.toList.getLast? = some '/' := by
    have whole : u.text = u.scheme ++ ":" ++ u.authority ++ (UrlPath.rooted before).text ++ "/" := by
      rw [String.append_assoc, ← text_concat, ← isWeb.path]
      exact isWeb.text_withPath noFragment noQuery u.path
    rw [whole, String.toList_append]
    exact List.getLast?_concat
  have path : u.path.text.toList = (UrlPath.rooted before).text.toList ++ ['/'] := by
    rw [isWeb.path, text_concat, String.toList_append]
    rfl
  have twice : ['/', '/'] <:+ u.path.text.toList ↔ EndsInSlash (.rooted before) := by
    rw [path, EndsInSlash, ← List.singleton_suffix_iff_getLast?_eq_some]
    exact (List.suffix_append_self_iff : ['/'] ++ ['/'] <:+ _ ++ ['/'] ↔ _)
  rw [EndsPlainly, twice]
  exact ⟨fun plain => (plain ends).2.2, fun opened _ => ⟨noQuery, noFragment, opened⟩⟩

theorem closed_stripped_iff_of_marked (isWeb : IsWeb u host segments)
    (marked : u.query = none → u.fragment ≠ none) (slash : EndsInSlash u.stripped.path)
    (told : u.stripped.text = u.text → u.stripped = u)
    : u.stripped.closed = u ↔ EndsPlainly u := by
  rw [isWeb.endsPlainly_iff_of_marked marked, closed_of_endsInSlash slash]
  exact ⟨congrArg text, told⟩

/-- Closing a path gives back one slash, so a path that had more of them is another one. -/
theorem closed_stripped_iff_of_bare {before : List String} (isWeb : IsWeb u host (before ++ [""]))
    (noQuery : u.query = none) (noFragment : u.fragment = none)
    : u.stripped.closed = u ↔ EndsPlainly u := by
  have whole := stripped_of_path noFragment noQuery isWeb.path
  have fewer : withoutEmpty (before ++ [""]) = withoutEmpty before :=
    List.rdropWhile_concat_pos _ _ _ (by simp)
  rw [fewer] at whole
  have names := (List.forall_mem_append.mp isWeb.names).1
  have web : IsWeb u.stripped host (withoutEmpty before) := by
    rw [whole]
    exact isWeb.withPath fun segment member =>
      names segment ((List.rdropWhile_prefix _ _).subset member)
  rw [isWeb.endsPlainly_iff_of_bare noQuery noFragment,
    web.closed_of_opened (not_endsInSlash_withoutEmpty names)]
  constructor
  · intro same ends
    have paths := (congrArg Url.path same).trans isWeb.path
    rw [← List.append_cancel_right (UrlPath.rooted.inj paths)] at ends
    exact not_endsInSlash_withoutEmpty names ends
  · intro opened
    have all : withoutEmpty before = before := by
      refine List.rdropWhile_eq_self_iff.mpr fun ne last => opened ?_
      have parts := List.dropLast_append_getLast ne
      rw [of_decide_eq_true last] at parts
      rw [← parts]
      exact endsInSlash_concat
    rw [whole, all, ← isWeb.path]

/-- A base URL without the slashes at its end is itself once it is closed, if it ended plainly. -/
theorem closed_stripped_iff {before : List String} (isWeb : IsWeb u host (before ++ [""]))
    : u.stripped.closed = u ↔ EndsPlainly u := by
  have slash : EndsInSlash u.path := isWeb.path ▸ endsInSlash_concat
  cases hasFragment : u.fragment with
  | some fragment =>
      have whole := stripped_of_fragment hasFragment
      refine isWeb.closed_stripped_iff_of_marked (by simp [hasFragment]) (by rw [whole]; exact slash)
        fun same => ?_
      have part : withoutSlashes fragment = fragment := by
        rw [whole, text, text, hasFragment] at same
        exact (String.append_right_inj "#").mp ((String.append_right_inj _).mp same)
      rw [whole, part, ← hasFragment]
  | none =>
      cases hasQuery : u.query with
      | some query =>
          have whole := stripped_of_query hasFragment hasQuery
          refine isWeb.closed_stripped_iff_of_marked (by simp [hasQuery]) (by rw [whole]; exact slash)
            fun same => ?_
          have part : withoutSlashes query = query := by
            rw [whole, text, text, hasQuery] at same
            exact (String.append_right_inj "?").mp
              ((String.append_right_inj _).mp ((String.append_left_inj _).mp same))
          rw [whole, part, ← hasQuery]
      | none => exact isWeb.closed_stripped_iff_of_bare hasQuery hasFragment

/-- With a host that is read again, the text denotes the closed URL without the slashes at its end. -/
theorem denotes_stripped (isWeb : IsWeb u host segments) (kept : KeepsHost u)
    : Denotes (withoutSlashes u.text) u.stripped.closed := by
  obtain ⟨left, web⟩ := isWeb.isWeb_stripped
  obtain ⟨found, hasHost, again⟩ := kept
  rw [isWeb.withoutSlashes_text]
  exact web.denotes_closed ⟨found, stripped_named hasHost, again⟩

/-- The text of a base URL without the slashes at its end denotes that URL just when it ended plainly
and its host is read again.
-/
theorem denotes_iff {before : List String} (isWeb : IsWeb u host (before ++ [""]))
    : Denotes (withoutSlashes u.text) u ↔ EndsPlainly u ∧ KeepsHost u := by
  constructor
  · intro denotes
    have kept : KeepsHost u := by
      obtain ⟨left, web⟩ := isWeb.isWeb_stripped
      rw [isWeb.withoutSlashes_text] at denotes
      exact web.keepsHost_of_denotes isWeb.named denotes
    have same := (isWeb.denotes_stripped kept "").symm.trans (denotes "")
    exact ⟨isWeb.closed_stripped_iff.mp (Except.ok.inj same), kept⟩
  · rintro ⟨plain, kept⟩ default
    rw [isWeb.denotes_stripped kept, isWeb.closed_stripped_iff.mpr plain]

end IsWeb

end Url

namespace TesterConfig

open ToolCommand (withoutSlashes)
open Url (base Denotes EndsPlainly KeepsHost)

/-- The last argument of the executor names the server. -/
theorem server_argument (config : TesterConfig) (key file : String)
    : (config.command.invocation key file).2.getLast?
      = some ("--server=" ++ withoutSlashes config.server.text) := by
  unfold ToolCommand.invocation
  split <;> rfl

/-- What the executor is told denotes the URL that the tester itself reads from just when that URL ends
plainly and its host is read again from its own text, as every host is that some text in ASCII gives.
Whatever the URL ends in, what is told denotes it without the slashes at its end and with its path
closed again, while its whole text denotes it as it is.
-/
theorem server_denoted (config : TesterConfig) {candidate : Option String} {default : String}
    (based : base candidate default = .ok config.server)
    (web : config.server.scheme = "http" ∨ config.server.scheme = "https") (key file : String)
    : ∃ text, (config.command.invocation key file).2.getLast? = some ("--server=" ++ text)
        ∧ (Denotes text config.server ↔ EndsPlainly config.server ∧ KeepsHost config.server)
        ∧ (KeepsHost config.server → Denotes text config.server.stripped.closed)
        ∧ (Denotes config.server.text config.server ↔ KeepsHost config.server)
        ∧ (KeepsHost config.server ↔ ∃ host name, config.server.host = some host
            ∧ Host.read name = .ok host ∧ Host.IsAscii name) := by
  obtain ⟨host, before, isWeb⟩ := Url.isWeb_of_base based web
  refine ⟨_, server_argument config key file, isWeb.denotes_iff, isWeb.denotes_stripped,
    isWeb.denotes_text_iff, ?_⟩
  constructor
  · rintro ⟨found, named, again⟩
    obtain rfl := Option.some.inj (named.symm.trans isWeb.named)
    obtain ⟨name, read, ascii⟩ := isWeb.read.read_text_iff.mp again
    exact ⟨found, name, named, read, ascii⟩
  · rintro ⟨found, name, named, read, ascii⟩
    obtain rfl := Option.some.inj (named.symm.trans isWeb.named)
    exact ⟨found, named, isWeb.read.read_text_iff.mpr ⟨name, read, ascii⟩⟩

theorem server_denoted_loopback
    : ∃ config : TesterConfig, base none "http://[::1]:8080/" = .ok config.server
        ∧ config.server.scheme = "http"
        ∧ (config.command.invocation "k" "t.txt").2.getLast? = some "--server=http://[::1]:8080"
        ∧ Denotes "http://[::1]:8080" config.server := by
  let server : Url :=
    { Url.plain "http" (some (.ipv6 [0, 0, 0, 0, 0, 0, 0, 1])) (.rooted [""]) with port := some 8080 }
  have based : base none "http://[::1]:8080/" = .ok server :=
    toOption_eq_some.mp (by decide +kernel)
  let config := usual server "./run"
  obtain ⟨text, told, denotes, -⟩ := server_denoted config based (.inl rfl) "k" "t.txt"
  have last : (config.command.invocation "k" "t.txt").2.getLast?
      = some ("--server=" ++ "http://[::1]:8080") := by
    decide +kernel
  have same : text = "http://[::1]:8080" :=
    (String.append_right_inj _).mp (Option.some.inj (told.symm.trans last))
  have plain : EndsPlainly server := fun _ => ⟨rfl, rfl, by decide +kernel⟩
  have kept : KeepsHost server := ⟨_, rfl, toOption_eq_some.mp (by decide +kernel)⟩
  exact ⟨config, based, rfl, last, same ▸ denotes.mpr ⟨plain, kept⟩⟩

/-- Neither the slash at the end of a query nor the second one at the end of a path comes back. -/
theorem server_undenoted
    : (∃ (config : TesterConfig) (text : String) (other : Url),
        base (some "http://[::1]/?q=/") "" = .ok config.server
          ∧ (config.command.invocation "k" "t.txt").2.getLast? = some ("--server=" ++ text)
          ∧ base (some text) "" = .ok other ∧ other ≠ config.server)
      ∧ ∃ (config : TesterConfig) (text : String) (other : Url),
        base (some "http://[::1]/a//") "" = .ok config.server
          ∧ (config.command.invocation "k" "t.txt").2.getLast? = some ("--server=" ++ text)
          ∧ base (some text) "" = .ok other ∧ other ≠ config.server := by
  let server : Url := Url.plain "http" (some (.ipv6 [0, 0, 0, 0, 0, 0, 0, 1])) (.rooted [""])
  constructor
  · refine ⟨usual { server with query := some "q=/" } "./run", "http://[::1]/?q=",
      { server with query := some "q=" }, ?_, by decide +kernel, ?_, by decide +kernel⟩
    · exact toOption_eq_some.mp (by decide +kernel)
    · exact toOption_eq_some.mp (by decide +kernel)
  · refine ⟨usual { server with path := .rooted ["a", "", ""] } "./run", "http://[::1]/a",
      { server with path := .rooted ["a", ""] }, ?_, by decide +kernel, ?_, by decide +kernel⟩
    · exact toOption_eq_some.mp (by decide +kernel)
    · exact toOption_eq_some.mp (by decide +kernel)

end TesterConfig

end NodeTrial
