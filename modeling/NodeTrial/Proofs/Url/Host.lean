import NodeTrial.Proofs.Url.Address
import NodeTrial.Proofs.Url.Percent

/-! Hosts and their texts. The text of a host that was read holds nothing that divides a URL, but for
the colons between the brackets of a long address. An address is read again from its text, and so is
a domain in small letters that is not written in Punycode.
-/

namespace NodeTrial.Host

open Domain (IsPlain)
open Text (sections)

/-- The hosts of special schemes as they are read. -/
inductive IsRead : Host → Prop where
  | domain {name : List Char} (some : name ≠ []) (plain : ∀ c ∈ name, IsPlain c)
    (noNumber : endsInNumber name = false)
    : IsRead (.domain (String.ofList name))
  | ipv4 (address : UInt32) : IsRead (.ipv4 address)
  | ipv6 {pieces : List Nat} (are : ArePieces pieces) : IsRead (.ipv6 pieces)

theorem isRead_of_readBracketed {text : List Char} {h : Host}
    (read : readBracketed text = .ok h)
    : h.IsRead := by
  unfold readBracketed at read
  split at read
  · split at read
    · next found =>
      cases read
      exact .ipv6 (arePieces_of_ipv6Pieces? found)
    · cases read
  · cases read

theorem isRead_of_readIpv4 {name : List Char} {h : Host} (read : readIpv4 name = .ok h)
    : h.IsRead := by
  unfold readIpv4 at read
  split at read
  · cases read
    exact .ipv4 _
  · cases read

theorem isRead_of_read {text : List Char} {h : Host} (read : Host.read text = .ok h) : h.IsRead := by
  unfold Host.read at read
  split at read
  · exact isRead_of_readBracketed read
  · split at read
    · cases read
    · next name found =>
      obtain ⟨decoded, -, found⟩ := Option.bind_eq_some_iff.mp found
      split at read
      · cases read
      · next some =>
        split at read
        · exact isRead_of_readIpv4 read
        · next noNumber =>
          cases read
          exact .domain (by simpa using some) (Domain.isPlain_of_toAscii? found)
            (Bool.eq_false_iff.mpr noNumber)

theorem IsRead.isEmpty {h : Host} (read : h.IsRead) : h.isEmpty = false := by
  cases read with
  | domain some => simpa [Host.isEmpty] using some
  | ipv4 address => rfl
  | ipv6 are => rfl

-----------------------------------------------------------------------------------------
-- Texts
-----------------------------------------------------------------------------------------

/-- The digits of the bytes of a short address. -/
def byteTexts (address : UInt32) : List (List Char) :=
  (bytes address).map fun b => (Text.natText b).toList

theorem text_ipv4 (address : UInt32)
    : (Host.ipv4 address).text.toList = ['.'].intercalate (byteTexts address) := by
  rw [Host.text, String.toList_intercalate, List.map_map]
  rfl

theorem text_ipv6 (pieces : List Nat)
    : (Host.ipv6 pieces).text.toList = '[' :: (piecesText pieces ++ [']']) := by
  simp [Host.text]

theorem digit_of_mem_byteTexts {address : UInt32}
    : ∀ digits ∈ byteTexts address, ∀ c ∈ digits, ∃ digit < 10, c = digit.digitChar := by
  refine List.forall_mem_map.mpr fun b _ c member => ?_
  rw [Text.natText_toList] at member
  exact digit_of_mem_toDigits (by decide) member

theorem sections_ipv4 (address : UInt32)
    : sections (· == '.') (Host.ipv4 address).text.toList = byteTexts address := by
  have noPoint : ∀ digit < 10, (digit.digitChar == '.') = false := by decide
  have unmarked : ∀ digits ∈ byteTexts address, ∀ c ∈ digits, (c == '.') = false := by
    intro digits found c inside
    obtain ⟨digit, small, rfl⟩ := digit_of_mem_byteTexts digits found c inside
    exact noPoint digit small
  rw [text_ipv4]
  exact Text.sections_intercalate rfl (List.cons_ne_nil _ _) unmarked

/-- The text of a short address is a name in small letters. -/
theorem isPlain_of_mem_ipv4 {address : UInt32}
    : ∀ c ∈ (Host.ipv4 address).text.toList, IsPlain c ∧ c.toLower = c := by
  have all : ∀ digit < 10, (Domain.isAscii digit.digitChar = true
      ∧ Domain.isAllowed digit.digitChar = true) ∧ digit.digitChar.toLower = digit.digitChar := by
    decide
  intro c member
  rw [text_ipv4] at member
  rcases Text.mem_of_mem_intercalate member with rfl | ⟨digits, found, inside⟩
  · exact ⟨⟨by decide, by decide⟩, by decide⟩
  · obtain ⟨digit, small, rfl⟩ := digit_of_mem_byteTexts digits found c inside
    exact all digit small

/-- The text of a host that was read is made of characters that a domain may hold, of colons and of
brackets.
-/
theorem IsRead.mem_text {h : Host} (read : h.IsRead) {c : Char} (member : c ∈ h.text.toList)
    : c ∈ [':', '[', ']'] ∨ IsPlain c := by
  cases read with
  | domain some plain =>
      rw [Host.text, String.toList_ofList] at member
      exact .inr (plain c member)
  | ipv4 address => exact .inr (isPlain_of_mem_ipv4 c member).1
  | ipv6 are =>
      rw [text_ipv6] at member
      rcases List.mem_cons.mp member with rfl | member
      · exact .inl (by decide)
      · rcases List.mem_append.mp member with inside | last
        · rcases unmarked_of_mem_piecesText inside with rfl | ⟨-, plain⟩
          · exact .inl (by decide)
          · exact .inr plain
        · obtain rfl := List.mem_singleton.mp last
          exact .inl (by decide)

theorem IsRead.text_ne_nil {h : Host} (read : h.IsRead) : h.text.toList ≠ [] := by
  cases read with
  | domain some => rwa [Host.text, String.toList_ofList]
  | ipv4 address =>
      intro empty
      have parts := sections_ipv4 address
      rw [empty] at parts
      exact nomatch (List.cons.inj parts).2
  | ipv6 are =>
      rw [text_ipv6]
      exact List.cons_ne_nil _ _

-----------------------------------------------------------------------------------------
-- Hosts read again
-----------------------------------------------------------------------------------------

/-- A text that is its own name in ASCII is read as it is. -/
theorem read_of_isPlain {cs : List Char} (some : cs ≠ []) (plain : ∀ c ∈ cs, IsPlain c)
    (own : Domain.toAscii? cs = .some cs)
    : Host.read cs = if endsInNumber cs then readIpv4 cs else .ok (.domain (String.ofList cs)) := by
  have noPercent : ∀ c ∈ cs, c ≠ '%' := fun c member => (plain c member).allowed.2.1
  have found : (Text.decode? (Percent.decode cs) >>= fun s => Domain.toAscii? s.toList)
      = .some cs := by
    rw [Percent.decode_of_unmarked noPercent, Text.decode?_bytesOf]
    change Domain.toAscii? (String.ofList cs).toList = _
    rw [String.toList_ofList, own]
  have nonempty : ¬ cs.isEmpty = true := by simpa using some
  unfold Host.read
  split
  · exact absurd (by decide) (plain '[' List.mem_cons_self).allowed.2.2
  · rw [found]
    change (if cs.isEmpty then _ else _) = _
    rw [if_neg nonempty]

theorem labels_ipv4 (address : UInt32)
    : labels (Host.ipv4 address).text.toList = byteTexts address := by
  have some : ∀ digits ∈ byteTexts address, digits ≠ [] :=
    List.forall_mem_map.mpr fun b _ => (Text.natText_toList b).symm ▸ Nat.toDigits_ne_nil
  unfold labels
  rw [sections_ipv4]
  split
  · next rest reversed =>
    have member : [] ∈ byteTexts address := by
      rw [← List.mem_reverse, reversed]
      exact List.mem_cons_self
    exact absurd rfl (some [] member)
  · exact List.reverse_reverse _

theorem endsInNumber_ipv4 (address : UInt32)
    : endsInNumber (Host.ipv4 address).text.toList = true := by
  have last : (byteTexts address).getLast?
      = some (Text.natText (address.toNat >>> (8 * 0) % 256)).toList := rfl
  rw [endsInNumber, labels_ipv4, last]
  dsimp only
  rw [ipv4Number?_natText (Nat.mod_lt _ (by decide))]
  exact Bool.or_true _

theorem unmarked_of_mem_byteTexts {address : UInt32}
    : ∀ digits ∈ byteTexts address, Domain.punycodeMark.isPrefixOf digits = false := by
  have noMark : ∀ digit < 10, ('x' == digit.digitChar) = false := by decide
  intro digits found
  cases digits with
  | nil => rfl
  | cons c rest =>
      obtain ⟨digit, small, rfl⟩ := digit_of_mem_byteTexts _ found c List.mem_cons_self
      rw [Domain.punycodeMark, List.isPrefixOf, noMark digit small, Bool.false_and]

/-- A short address is read again from its text. -/
theorem read_ipv4 (address : UInt32)
    : Host.read (Host.ipv4 address).text.toList = .ok (.ipv4 address) := by
  have unmarked : ∀ label ∈ sections (· == '.') (Host.ipv4 address).text.toList,
      Domain.punycodeMark.isPrefixOf label = false := by
    rw [sections_ipv4]
    exact unmarked_of_mem_byteTexts
  have numbers : (byteTexts address).mapM ipv4Number? = some (bytes address) := by
    rw [mapM_some_iff, byteTexts, List.map_map]
    exact List.map_congr_left fun b member => ipv4Number?_natText (lt_of_mem_bytes b member)
  have plain : ∀ c ∈ (Host.ipv4 address).text.toList, IsPlain c :=
    fun c member => (isPlain_of_mem_ipv4 c member).1
  have own := Domain.toAscii?_of_isPlain plain (fun c member => (isPlain_of_mem_ipv4 c member).2)
    unmarked
  rw [read_of_isPlain (IsRead.ipv4 address).text_ne_nil plain own,
    if_pos (endsInNumber_ipv4 address), readIpv4, labels_ipv4, numbers, Option.bind_eq_bind,
    Option.bind_some, ipv4Of?_bytes]

/-- A long address is read again from its text. -/
theorem read_ipv6 {pieces : List Nat} (are : ArePieces pieces)
    : Host.read (Host.ipv6 pieces).text.toList = .ok (.ipv6 pieces) := by
  rw [text_ipv6]
  change readBracketed _ = _
  have reversed : (piecesText pieces ++ [']']).reverse = ']' :: (piecesText pieces).reverse :=
    List.reverse_concat
  simp only [readBracketed, reversed, List.reverse_reverse, ipv6Pieces?_piecesText are]

/-- A text whose bytes are in ASCII once its percent encoding is undone. -/
def IsAscii (text : List Char) : Prop :=
  ∀ b ∈ Percent.decode text, b.toNat < 0x80

theorem IsRead.isAscii_text {h : Host} (read : h.IsRead) : IsAscii h.text.toList := by
  have each : ∀ c ∈ h.text.toList, c ≠ '%' ∧ c.toNat < 0x80 := by
    intro c member
    rcases read.mem_text member with bracket | plain
    · have all : ∀ m ∈ [':', '[', ']'], m ≠ '%' ∧ m.toNat < 0x80 := by simp
      exact all c bracket
    · exact ⟨plain.allowed.2.1, of_decide_eq_true plain.1⟩
  intro b member
  rw [Percent.decode_of_unmarked fun c member => (each c member).1, Text.bytesOf_eq_flatMap,
    String.toList_ofList] at member
  obtain ⟨c, inside, member⟩ := List.mem_flatMap.mp member
  have small := (each c inside).2
  rw [Text.encodeChar_of_ascii small] at member
  obtain rfl := List.mem_singleton.mp member
  rwa [Text.Utf8.toNat_ofNat_of_lt (by omega)]

/-- A domain that was read from a text in ASCII is its own name. -/
theorem toAscii?_of_read {name chars : List Char}
    (found : Host.read name = .ok (.domain (String.ofList chars))) (ascii : IsAscii name)
    : Domain.toAscii? chars = some chars := by
  have inAscii : ∀ c ∈ (Percent.decode name).map fun b => Char.ofNat b.toNat,
      Domain.isAscii c = true := by
    have all : ∀ n < 128, Domain.isAscii (Char.ofNat n) = true := by decide
    exact List.forall_mem_map.mpr fun b member => all b.toNat (ascii b member)
  unfold Host.read at found
  split at found
  · next rest =>
    unfold readBracketed at found
    split at found
    · split at found <;> cases found
    · cases found
  · rw [Text.decode?_of_ascii ascii] at found
    split at found
    · cases found
    · next own =>
      change Domain.toAscii? (String.ofList _).toList = _ at own
      rw [String.toList_ofList] at own
      split at found
      · cases found
      · split at found
        · unfold readIpv4 at found
          split at found <;> cases found
        · rw [← String.ofList_inj.mp (Host.domain.inj (Except.ok.inj found))]
          exact Domain.toAscii?_again inAscii own

/-- A host is read again from its text just when there is any text in ASCII that it is read from. So
every address is, and every domain that is not written in Punycode for the first time.
-/
theorem IsRead.read_text_iff {h : Host} (read : h.IsRead)
    : Host.read h.text.toList = .ok h ↔ ∃ name, Host.read name = .ok h ∧ IsAscii name := by
  constructor
  · exact fun again => ⟨_, again, read.isAscii_text⟩
  · rintro ⟨name, found, ascii⟩
    cases read with
    | @domain chars some plain noNumber =>
        have own : Domain.toAscii? chars = .some chars := toAscii?_of_read found ascii
        rw [Host.text, String.toList_ofList, read_of_isPlain some plain own, noNumber]
        rfl
    | ipv4 address => exact read_ipv4 address
    | ipv6 are => exact read_ipv6 are

end NodeTrial.Host
