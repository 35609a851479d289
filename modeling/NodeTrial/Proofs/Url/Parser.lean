import NodeTrial.Proofs.Result
import NodeTrial.Proofs.Url.Path

/-! URLs that were read from a text. Their paths hold nothing that is still to be encoded, and the
segments of a path were read one by one.
-/

namespace NodeTrial.Url

variable {scheme : String} {followed : Bool} {cs : List Char} {u : Url}

/-- A path of a URL that was read: a bare one does not look like a rooted one, and at the front of a
file's path there is no empty segment but the last one.
-/
inductive IsReadPath (scheme : String) : UrlPath → Prop where
  | bare {text : String} (written : ∀ c ∈ text.toList, Percent.isControl c = false)
    (noRoot : text.toList.head? ≠ some '/')
    : IsReadPath scheme (.bare text)
  | rooted {segments : List String}
    (read : AreRead (isSpecial scheme) (scheme == "file") segments)
    (front : scheme = "file" → segments.head? = some "" → segments = [""])
    : IsReadPath scheme (.rooted segments)

/-- A URL of a scheme with a path that was read. -/
structure IsReadAs (scheme : String) (u : Url) : Prop where
  same : u.scheme = scheme
  path : IsReadPath scheme u.path

theorem readAuthority_scheme {rest : List Char}
    (h : readAuthority scheme followed cs = .ok (u, rest))
    : u.scheme = scheme := by
  unfold readAuthority at h
  obtain ⟨-, h⟩ := checked_ok_iff.mp h
  obtain ⟨-, h⟩ := checked_ok_iff.mp h
  obtain ⟨host, -, h⟩ := bind_ok_iff.mp h
  obtain ⟨-, h⟩ := checked_ok_iff.mp h
  obtain ⟨port, -, h⟩ := bind_ok_iff.mp h
  obtain ⟨-, h⟩ := checked_ok_iff.mp h
  cases h
  rfl

theorem readPath_areRead {special file : Bool} (noFile : file = false)
    : AreRead special file (readPath special cs) := by
  subst noFile
  rw [readPath]
  split
  · exact .nil
  · exact readSegments_areRead

theorem readHostAndPath_isRead (noFile : scheme ≠ "file")
    (h : readHostAndPath scheme followed cs = .ok u)
    : IsReadAs scheme u := by
  obtain ⟨⟨made, rest⟩, authority, h⟩ := bind_ok_iff.mp h
  have same : made.scheme = scheme := readAuthority_scheme authority
  cases h
  exact ⟨same,
    .rooted (readPath_areRead (beq_false_of_ne noFile)) fun file => absurd file noFile⟩

theorem fileUrl_isRead {host : Host} {path : PathReading} (read : AreRead true true path.segments)
    : IsReadAs "file" (fileUrl host path) :=
  ⟨rfl, .rooted read.dropEmpty fun _ => dropEmpty_eq_of_head⟩

theorem readFile_isRead (h : readFile cs = .ok u) : IsReadAs "file" u := by
  rw [readFile] at h
  split at h
  · cases h
    exact fileUrl_isRead readSegments_areRead
  · dsimp only at h
    split at h
    · cases h
      exact fileUrl_isRead readSegments_areRead
    · obtain ⟨host, -, h⟩ := bind_ok_iff.mp h
      split at h
      · cases h
        exact fileUrl_isRead readSegments_areRead
      · cases h
        exact fileUrl_isRead readSegments_areRead

theorem readBody_isRead (h : readBody scheme followed cs = .ok u) : IsReadAs scheme u := by
  rw [readBody] at h
  split at h
  · next file => exact file ▸ readFile_isRead h
  · next noFile =>
    split at h
    · exact readHostAndPath_isRead noFile h
    · next notSpecial =>
      split at h
      · exact readHostAndPath_isRead noFile h
      · cases h
        refine ⟨rfl, .rooted ?_ fun file => absurd file noFile⟩
        rw [Bool.eq_false_iff.mpr notSpecial, beq_false_of_ne noFile]
        exact readSegments_areRead
      · next noRoot =>
        cases h
        refine ⟨rfl, .bare ?_ ?_⟩
        · rw [String.toList_ofList]
          exact Percent.unmarked_of_mem_encode Percent.isControl_spares
        · rw [String.toList_ofList]
          intro root
          obtain ⟨rest, front⟩ := List.head?_eq_some_iff.mp root
          obtain ⟨tail, whole, -⟩ := Percent.cons_of_encode front (by decide)
          exact noRoot tail whole

/-- Every URL that can be read has a path that was read. -/
theorem parse_isRead {s : String} (h : parse s = .ok u) : IsReadPath u.scheme u.path := by
  rw [parse] at h
  split at h
  · cases h
  · obtain ⟨made, body, h⟩ := bind_ok_iff.mp h
    cases h
    have read := readBody_isRead body
    exact read.same ▸ read.path

end NodeTrial.Url
