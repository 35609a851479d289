import NodeTrial.Proofs.Url.Host
import NodeTrial.Proofs.Url.Parser

/-! Authorities: credentials, a host and a port. Credentials are percent-encoded and a host holds no
marks, so that the text of an authority is divided into these parts again, each at its own mark.
-/

namespace NodeTrial.Url

variable {scheme : String} {followed : Bool} {u : Url} {host : Host} {c : Char}

-----------------------------------------------------------------------------------------
-- Characters
-----------------------------------------------------------------------------------------

/-- A character that is no control, no space and none of some marks. -/
structure IsClear (marks : List Char) (c : Char) : Prop where
  visible : ' ' < c
  other : c ∉ marks

theorem IsClear.mono {marks fewer : List Char} (clear : IsClear marks c) (sub : fewer ⊆ marks)
    : IsClear fewer c :=
  ⟨clear.visible, fun mark => clear.other (sub mark)⟩

theorem lt_of_isControl (plain : Percent.isControl c = false) (noSpace : c ≠ ' ') : ' ' < c := by
  have above : ¬ c < ' ' := of_decide_eq_false (Bool.or_eq_false_iff.mp plain).1
  exact Std.lt_of_le_of_ne (Std.not_lt.mp above) noSpace.symm

/-- What is not encoded is none of the characters that are. -/
theorem isClear_of_unmarked {set : Char → Bool} {marks : List Char}
    (encodes : (' ' :: marks).all set = true)
    (controls : ∀ c, Percent.isControl c = true → set c = true)
    (plain : set c = false)
    : IsClear marks c := by
  have other : c ∉ ' ' :: marks := by
    intro member
    rw [List.all_eq_true.mp encodes c member] at plain
    cases plain
  have noControl : Percent.isControl c = false :=
    Bool.eq_false_iff.mpr fun control => Bool.eq_false_iff.mp plain (controls c control)
  rw [List.mem_cons, not_or] at other
  exact ⟨lt_of_isControl noControl other.1, other.2⟩

/-- The marks that end an authority, or stand behind it. -/
def outerMarks : List Char :=
  ['#', '?', '/', '\\']

theorem isClear_of_inUserinfo (plain : Percent.inUserinfo c = false)
    : IsClear ('@' :: ':' :: outerMarks) c := by
  refine isClear_of_unmarked (by decide) (fun c control => ?_) plain
  simp [Percent.inUserinfo, Percent.inPath, Percent.inFragment, control]

theorem isClear_of_isPlain (plain : Domain.IsPlain c) : IsClear ('@' :: outerMarks) c := by
  obtain ⟨noControl, -, noDelimiter⟩ := plain.allowed
  refine ⟨lt_of_isControl noControl ?_, fun member => noDelimiter ?_⟩
  · rintro rfl
    exact noDelimiter (by decide)
  · have all : '@' :: outerMarks ⊆ Domain.delimiters := by decide
    exact all member

/-- What the text of a port is made of. -/
theorem mem_portText {port : Option UInt16} (member : c ∈ (portText port).toList)
    : c = ':' ∨ c.isDigit = true := by
  cases port with
  | none => cases member
  | some port =>
      rw [portText, String.toList_append] at member
      rcases List.mem_append.mp member with colon | digit
      · exact .inl (List.mem_singleton.mp colon)
      · exact .inr (Text.isDigit_of_mem_natText digit)

theorem isClear_of_isDigit (digit : c.isDigit = true) : IsClear ('@' :: outerMarks) c := by
  have all : ∀ m ∈ '@' :: outerMarks, m.isDigit = false := by simp [outerMarks]
  have least : 48 ≤ c.toNat := of_decide_eq_true ((Bool.and_eq_true _ _).mp digit).1
  refine ⟨?_, fun member => Bool.eq_false_iff.mp (all c member) digit⟩
  change 32 < c.toNat
  omega

-----------------------------------------------------------------------------------------
-- Authorities that were read
-----------------------------------------------------------------------------------------

/-- The authority of a special scheme as it was read: encoded credentials, a host, and a port that is
not the one the scheme stands for.
-/
structure IsAuthority (u : Url) (host : Host) : Prop where
  username : ∀ c ∈ u.username.toList, Percent.inUserinfo c = false
  password : ∀ c ∈ u.password.toList, Percent.inUserinfo c = false
  named : u.host = some host
  read : host.IsRead
  port : ∀ port, u.port = some port → defaultPort? u.scheme ≠ some port

/-- An authority stays one whatever follows it. -/
theorem IsAuthority.before (auth : IsAuthority u host) (path : UrlPath)
    (query fragment : Option String)
    : IsAuthority { u with path, query, fragment } host :=
  ⟨auth.username, auth.password, auth.named, auth.read, auth.port⟩

theorem unmarked_of_readUserinfo (cs : List Char)
    : (∀ c ∈ (readUserinfo cs).1.toList, Percent.inUserinfo c = false)
      ∧ ∀ c ∈ (readUserinfo cs).2.toList, Percent.inUserinfo c = false := by
  have written (part : List Char)
      : ∀ c ∈ (String.ofList (Percent.encode Percent.inUserinfo part)).toList,
          Percent.inUserinfo c = false := by
    rw [String.toList_ofList]
    exact Percent.unmarked_of_mem_encode Percent.inUserinfo_spares
  exact ⟨written _, written _⟩

theorem readOptionalPort_other {default : Option UInt16} {cs rest : List Char}
    {port : Option UInt16} (h : readOptionalPort default cs = .ok (port, rest))
    : ∀ p, port = some p → default ≠ some p := by
  unfold readOptionalPort at h
  split at h
  · unfold readPort at h
    dsimp only at h
    split at h
    · cases h
    · split at h
      · cases h
        intro p found
        split at found
        · cases found
        · next other =>
          obtain rfl := Option.some.inj found
          exact fun same => other (.inr same)
      · cases h
  · cases h
    exact nofun

theorem isAuthority_of_readAuthority {cs rest : List Char} (special : isSpecial scheme = true)
    (h : readAuthority scheme followed cs = .ok (u, rest))
    : ∃ host, IsAuthority u host := by
  unfold readAuthority at h
  obtain ⟨-, h⟩ := checked_ok_iff.mp h
  obtain ⟨-, h⟩ := checked_ok_iff.mp h
  obtain ⟨host, read, h⟩ := bind_ok_iff.mp h
  obtain ⟨-, h⟩ := checked_ok_iff.mp h
  obtain ⟨⟨port, _⟩, readPort, h⟩ := bind_ok_iff.mp h
  obtain ⟨-, h⟩ := checked_ok_iff.mp h
  rw [readHost, if_pos special] at read
  obtain ⟨name, secret⟩ := unmarked_of_readUserinfo ((cutUserinfo cs).1.getD [])
  cases h
  exact ⟨host, name, secret, rfl, Host.isRead_of_read read, readOptionalPort_other readPort⟩

-----------------------------------------------------------------------------------------
-- Authorities read again
-----------------------------------------------------------------------------------------

/-- The text of an authority: credentials with the sign that ends them, a host and a port. -/
def network (u : Url) (host : Host) : List Char :=
  u.userinfo.toList ++ (host.text.toList ++ (portText u.port).toList)

theorem authority_toList (some : u.host = some host)
    : u.authority.toList = '/' :: '/' :: u.network host := by
  simp [authority, some, network]

/-- The credentials of a URL, if it has any: without a password they are the name alone. -/
def credentials? (u : Url) : Option (List Char) :=
  if u.username = "" ∧ u.password = "" then none
  else if u.password = "" then some u.username.toList
  else some (u.username.toList ++ ':' :: u.password.toList)

theorem userinfo_toList
    : u.userinfo.toList = match u.credentials? with
        | none => []
        | some info => info ++ ['@'] := by
  rw [userinfo, credentials?]
  split
  · rfl
  · split <;> simp

namespace IsAuthority

variable (auth : IsAuthority u host)

include auth

/-- What the text of an authority is made of. -/
theorem clear_address
    : ∀ c ∈ host.text.toList ++ (portText u.port).toList, IsClear ('@' :: outerMarks) c := by
  refine List.forall_mem_append.mpr ⟨fun c member => ?_, fun c member => ?_⟩
  · rcases auth.read.mem_text member with bracket | plain
    · have all : ∀ m ∈ [':', '[', ']'], ' ' < m ∧ m ∉ '@' :: outerMarks := by simp [outerMarks]
      exact ⟨(all c bracket).1, (all c bracket).2⟩
    · exact isClear_of_isPlain plain
  · rcases mem_portText member with rfl | digit
    · exact ⟨by decide, by decide⟩
    · exact isClear_of_isDigit digit

theorem clear_credentials {info : List Char} (some : u.credentials? = some info)
    : ∀ c ∈ info, IsClear outerMarks c := by
  have encoded {part : List Char} (all : ∀ c ∈ part, Percent.inUserinfo c = false)
      : ∀ c ∈ part, IsClear outerMarks c :=
    fun c member => (isClear_of_inUserinfo (all c member)).mono (by decide)
  rw [credentials?] at some
  split at some
  · cases some
  · split at some
    · obtain rfl := Option.some.inj some
      exact encoded auth.username
    · obtain rfl := Option.some.inj some
      exact List.forall_mem_append.mpr ⟨encoded auth.username,
        List.forall_mem_cons.mpr ⟨⟨by decide, by decide⟩, encoded auth.password⟩⟩

theorem clear : ∀ c ∈ u.network host, IsClear outerMarks c := by
  refine List.forall_mem_append.mpr ⟨?_, fun c member => ?_⟩
  · rw [userinfo_toList]
    split
    · exact List.forall_mem_nil _
    · next info some =>
      exact List.forall_mem_append.mpr ⟨auth.clear_credentials some,
        List.forall_mem_singleton.mpr ⟨by decide, by decide⟩⟩
  · exact (auth.clear_address c member).mono (List.subset_cons_self _ _)

theorem cutUserinfo_network
    : cutUserinfo (u.network host)
      = (u.credentials?, host.text.toList ++ (portText u.port).toList) := by
  have noSign : ∀ c ∈ host.text.toList ++ (portText u.port).toList, (c == '@') = false :=
    fun c member => beq_false_of_ne fun same =>
      (auth.clear_address c member).other (same ▸ List.mem_cons_self)
  rw [network, userinfo_toList]
  split
  · next none => rw [List.nil_append, cutUserinfo, Text.splitLast?_of_unmarked noSign, none]
  · next info some =>
    rw [List.append_assoc, List.singleton_append, cutUserinfo,
      Text.splitLast?_append rfl noSign, some]

theorem readUserinfo_credentials
    : readUserinfo (u.credentials?.getD []) = (u.username, u.password) := by
  have noColon {part : List Char} (all : ∀ c ∈ part, Percent.inUserinfo c = false)
      : ∀ c ∈ part, (c == ':') = false :=
    fun c member => beq_false_of_ne fun same =>
      (isClear_of_inUserinfo (all c member)).other (by simp [same])
  have written {part : String} (all : ∀ c ∈ part.toList, Percent.inUserinfo c = false)
      : String.ofList (Percent.encode Percent.inUserinfo part.toList) = part := by
    rw [Percent.encode_of_unmarked all, String.ofList_toList]
  rw [credentials?]
  split
  · next none => rw [none.1, none.2]; rfl
  · split
    · next noPassword =>
      rw [Option.getD_some, readUserinfo, cutAt,
        Text.splitFirst?_of_unmarked (noColon auth.username)]
      exact Prod.ext (written auth.username) noPassword.symm
    · rw [Option.getD_some, readUserinfo, cutAt,
        Text.splitFirst?_append rfl _ (noColon auth.username)]
      simp [written auth.username, written auth.password]

end IsAuthority

/-- A host ends where no colon outside of brackets follows, by induction on its characters. -/
theorem splitHost_append {cs : List Char} (unmarked : ∀ c ∈ cs, c ∉ [':', '[', ']'])
    (rest : List Char)
    : splitHost false (cs ++ rest)
      = (cs ++ (splitHost false rest).1, (splitHost false rest).2) := by
  induction cs with
  | nil => rfl
  | cons c cs ih =>
      obtain ⟨first, others⟩ := List.forall_mem_cons.mp unmarked
      simp only [List.mem_cons, List.not_mem_nil, or_false, not_or] at first
      simp [splitHost, first, ih others]

theorem splitHost_bracketed {cs : List Char} (unmarked : ∀ c ∈ cs, c ∉ ['[', ']'])
    (rest : List Char)
    : splitHost true (cs ++ ']' :: rest)
      = (cs ++ ']' :: (splitHost false rest).1, (splitHost false rest).2) := by
  induction cs with
  | nil => simp [splitHost]
  | cons c cs ih =>
      obtain ⟨first, others⟩ := List.forall_mem_cons.mp unmarked
      simp only [List.mem_cons, List.not_mem_nil, or_false, not_or] at first
      simp [splitHost, first, ih others]

/-- The text of a host is told apart from that of a port. -/
theorem splitHost_text (read : host.IsRead) (port : Option UInt16)
    : splitHost false (host.text.toList ++ (portText port).toList)
      = (host.text.toList, (portText port).toList) := by
  have ended : splitHost false (portText port).toList = ([], (portText port).toList) := by
    cases port with
    | none => rfl
    | some port => simp [portText, splitHost]
  have unbracketed (plain : ∀ c ∈ host.text.toList, Domain.IsPlain c)
      : splitHost false (host.text.toList ++ (portText port).toList)
        = (host.text.toList, (portText port).toList) := by
    have delimiters : [':', '[', ']'] ⊆ Domain.delimiters := by decide
    have unmarked : ∀ c ∈ host.text.toList, c ∉ [':', '[', ']'] :=
      fun c member mark => (plain c member).allowed.2.2 (delimiters mark)
    rw [splitHost_append unmarked, ended, List.append_nil]
  cases read with
  | domain some plain => exact unbracketed (by rwa [Host.text, String.toList_ofList])
  | ipv4 address => exact unbracketed fun c member => (Host.isPlain_of_mem_ipv4 c member).1
  | @ipv6 pieces are =>
      have unmarked : ∀ c ∈ Host.piecesText pieces, c ∉ ['[', ']'] := by
        intro c member
        rcases Host.unmarked_of_mem_piecesText member with rfl | ⟨other, -⟩
        · decide
        · have sub : ['[', ']'] ⊆ [':', '.', '[', ']'] := by decide
          exact fun mark => other (sub mark)
      have opened (rest : List Char)
          : splitHost false ('[' :: rest) = ('[' :: (splitHost true rest).1, (splitHost true rest).2) := by
        simp [splitHost]
      rw [Host.text_ipv6, List.cons_append, List.append_assoc, List.singleton_append, opened,
        splitHost_bracketed unmarked, ended]

/-- A port that is not the one its scheme stands for is read as it is. -/
theorem readOptionalPort_portText {default port : Option UInt16}
    (other : ∀ p, port = some p → default ≠ some p)
    : readOptionalPort default (portText port).toList = .ok (port, []) := by
  cases port with
  | none => rfl
  | some port =>
      have digits : ∀ c ∈ (Text.natText port.toNat).toList, c.isDigit = true :=
        fun c member => Text.isDigit_of_mem_natText member
      have all : Text.upTo (fun c => !c.isDigit) (Text.natText port.toNat).toList
          = ((Text.natText port.toNat).toList, []) :=
        Text.upTo_of_unmarked fun c member => by rw [digits c member]; rfl
      have number : Host.numberIn? 10 (Text.natText port.toNat).toList = some port.toNat := by
        rw [Text.natText_toList]
        exact Host.numberIn?_toDigits (by decide) (by decide) _
      have small : ¬ UInt16.size ≤ port.toNat := Nat.not_le.mpr port.toNat_lt
      have nonempty : (Text.natText port.toNat).toList.isEmpty = false := by
        rw [Text.natText_toList]
        simp
      have text : (portText (some port)).toList = ':' :: (Text.natText port.toNat).toList := by
        simp [portText]
      rw [text]
      change readPort default _ = _
      rw [readPort, all]
      simp [number, small, nonempty, other port rfl]

/-- The text of an authority is read as it is, if its host is. -/
theorem readAuthority_network (auth : IsAuthority u host) (special : isSpecial u.scheme = true)
    : readAuthority u.scheme followed (u.network host)
      = (Host.read host.text.toList).map fun found =>
          ({ u with host := some found, path := .rooted [], query := none, fragment := none }, []) := by
  have ne := auth.read.text_ne_nil
  have some : host.text.toList.isEmpty = false := List.isEmpty_eq_false_iff.mpr ne
  have more : (host.text.toList ++ (portText u.port).toList).isEmpty = false :=
    List.isEmpty_eq_false_iff.mpr (List.append_ne_nil_of_left_ne_nil ne _)
  simp only [readAuthority, auth.cutUserinfo_network, auth.readUserinfo_credentials,
    splitHost_text auth.read, readHost, special, some, more, Bool.false_eq_true, false_and, and_false,
    Bool.and_false, if_false, if_true]
  cases found : Host.read host.text.toList with
  | error e => rfl
  | ok again =>
      have named : again.isEmpty = false := (Host.isRead_of_read found).isEmpty
      simp only [bind, Except.bind, named, readOptionalPort_portText auth.port, Bool.false_eq_true,
        Bool.false_and, false_and, if_false]
      rfl

end NodeTrial.Url
