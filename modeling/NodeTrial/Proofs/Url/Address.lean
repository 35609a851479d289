import Mathlib.Algebra.Group.Nat.Defs
import NodeTrial.Proofs.Text.Division
import NodeTrial.Proofs.Text.Numeral
import NodeTrial.Proofs.Url.Domain
import NodeTrial.Url.Host

/-! Addresses of both lengths, and how their texts are read again. A long address is read back from
its text although the longest run of zeros is left out of it: what stands before and after the run
tells how long it is.
-/

namespace NodeTrial

namespace Host

open Text (sections)

-----------------------------------------------------------------------------------------
-- Numbers
-----------------------------------------------------------------------------------------

/-- One digit more of a number in some base. -/
def nextDigit (base : Nat) (value : Option Nat) (c : Char) : Option Nat := do
  let digit ← Text.hexValue? c
  if digit < base then return (← value) * base + digit else none

theorem numberIn?_eq (base : Nat) (digits : List Char)
    : numberIn? base digits = digits.foldl (nextDigit base) (some 0) :=
  rfl

theorem nextDigit_none (base : Nat) (c : Char) : nextDigit base none c = none := by
  unfold nextDigit
  cases Text.hexValue? c with
  | none => rfl
  | some digit => simp

theorem foldl_nextDigit_none (base : Nat) (digits : List Char)
    : digits.foldl (nextDigit base) none = none := by
  induction digits with
  | nil => rfl
  | cons c digits ih => rw [List.foldl_cons, nextDigit_none, ih]

theorem nextDigit_eq_some {base value n : Nat} {c : Char} (h : nextDigit base (some value) c = some n)
    : ∃ digit < base, n = value * base + digit := by
  obtain ⟨digit, -, h⟩ := Option.bind_eq_some_iff.mp h
  split at h
  · next small => exact ⟨digit, small, (Option.some.inj h).symm⟩
  · cases h

/-- Digits spell a number below the power of the base that their number is, by induction on them. -/
theorem foldl_nextDigit_lt {base : Nat} {digits : List Char}
    : ∀ {value n : Nat}, digits.foldl (nextDigit base) (some value) = some n →
        n < (value + 1) * base ^ digits.length := by
  induction digits with
  | nil =>
      intro value n h
      obtain rfl := Option.some.inj h
      simp
  | cons c digits ih =>
      intro value n h
      rw [List.foldl_cons] at h
      cases next : nextDigit base (some value) c with
      | none =>
          rw [next, foldl_nextDigit_none] at h
          cases h
      | some further =>
          rw [next] at h
          obtain ⟨digit, small, rfl⟩ := nextDigit_eq_some next
          have bound := ih h
          have room : value * base + digit + 1 ≤ (value + 1) * base := by
            rw [Nat.add_mul, Nat.one_mul]
            omega
          calc n < (value * base + digit + 1) * base ^ digits.length := bound
            _ ≤ (value + 1) * base * base ^ digits.length := Nat.mul_le_mul_right _ room
            _ = (value + 1) * base ^ (digits.length + 1) := by rw [Nat.pow_succ', Nat.mul_assoc]

theorem numberIn?_lt {base n : Nat} {digits : List Char} (h : numberIn? base digits = some n)
    : n < base ^ digits.length := by
  have bound := foldl_nextDigit_lt h
  simpa using bound

/-- The digits of a number spell it, by induction on the number. -/
theorem numberIn?_toDigits {base : Nat} (some : 1 < base) (most : base ≤ 16) (n : Nat)
    : numberIn? base (Nat.toDigits base n) = .some n := by
  have one (digit : Nat) (small : digit < base) (value : Nat)
      : nextDigit base (.some value) digit.digitChar = .some (value * base + digit) := by
    have all : ∀ digit < 16, Text.hexValue? digit.digitChar = .some digit := by decide
    simp [nextDigit, all digit (by omega), small]
  induction n using Nat.strongRecOn with
  | ind n ih =>
      by_cases small : n < base
      · rw [Nat.toDigits_of_lt_base small, numberIn?_eq, List.foldl_cons, one n small, List.foldl_nil]
        simp
      · have large := Nat.le_of_not_lt small
        rw [Nat.toDigits_of_base_le some large, numberIn?_eq, List.foldl_append, ← numberIn?_eq,
          ih _ (Nat.div_lt_self (by omega) some), List.foldl_cons, List.foldl_nil,
          one _ (Nat.mod_lt n (by omega)), Nat.mul_comm, Nat.div_add_mod]

/-- The digits of a number are characters for values below the base, by induction on the number. -/
theorem digit_of_mem_toDigits {base : Nat} (some : 1 < base) {n : Nat} {c : Char}
    : c ∈ Nat.toDigits base n → ∃ digit < base, c = digit.digitChar := by
  induction n using Nat.strongRecOn with
  | ind n ih =>
      intro member
      by_cases small : n < base
      · rw [Nat.toDigits_of_lt_base small] at member
        exact ⟨n, small, List.mem_singleton.mp member⟩
      · have large := Nat.le_of_not_lt small
        rw [Nat.toDigits_of_base_le some large] at member
        rcases List.mem_append.mp member with early | last
        · exact ih _ (Nat.div_lt_self (by omega) some) early
        · exact ⟨_, Nat.mod_lt n (by omega), List.mem_singleton.mp last⟩

-----------------------------------------------------------------------------------------
-- Pieces of long addresses
-----------------------------------------------------------------------------------------

/-- A number of sixteen bits. -/
def IsPiece (n : Nat) : Prop :=
  n < 65536

theorem hexDigits_ne_nil (n : Nat) : hexDigits n ≠ [] :=
  Nat.toDigits_ne_nil

/-- The digits of a piece are none of the marks of an address, and a host may hold them. -/
theorem unmarked_of_mem_hexDigits {n : Nat}
    : ∀ c ∈ hexDigits n, c ∉ [':', '.', '[', ']'] ∧ Domain.IsPlain c := by
  intro c member
  obtain ⟨digit, small, rfl⟩ := digit_of_mem_toDigits (by decide) member
  have all : ∀ digit < 16, digit.digitChar ∉ [':', '.', '[', ']']
      ∧ Domain.isAscii digit.digitChar = true ∧ Domain.isAllowed digit.digitChar = true := by
    decide
  exact all digit small

theorem piece?_hexDigits {n : Nat} (piece : IsPiece n) : piece? (hexDigits n) = some n := by
  have least : 1 ≤ (hexDigits n).length := List.length_pos_iff.mpr (hexDigits_ne_nil n)
  have most : (hexDigits n).length ≤ 4 := (Nat.length_toDigits_le_iff (by decide) (by decide)).mpr piece
  rw [piece?, if_pos ⟨least, most⟩]
  exact numberIn?_toDigits (by decide) (by decide) n

theorem isPiece_of_piece? {digits : List Char} {n : Nat} (h : piece? digits = some n)
    : IsPiece n := by
  rw [piece?] at h
  split at h
  · next bounds =>
    calc n < 16 ^ digits.length := numberIn?_lt h
      _ ≤ 16 ^ 4 := Nat.pow_le_pow_right (by decide) bounds.2
  · cases h

theorem byte?_lt {digits : List Char} {n : Nat} (h : byte? digits = some n) : n < 256 := by
  unfold byte? at h
  split at h
  · cases h
  · cases h
  · exact of_decide_eq_true (Option.filter_eq_some_iff.mp h).2

theorem isPiece_of_dottedPieces? {text : List Char} {pieces : List Nat}
    (h : dottedPieces? text = some pieces)
    : ∀ n ∈ pieces, IsPiece n := by
  unfold dottedPieces? at h
  split at h
  · next a b c d bytes =>
    have small (n : Nat) (member : n ∈ [a, b, c, d]) : n < 256 := by
      obtain ⟨digits, -, read⟩ := mapM_some_mem bytes n member
      exact byte?_lt read
    have sa := small a (by simp)
    have sb := small b (by simp)
    have sc := small c (by simp)
    have sd := small d (by simp)
    obtain rfl := Option.some.inj h
    unfold IsPiece
    refine List.forall_mem_cons.mpr ⟨by omega, List.forall_mem_singleton.mpr (by omega)⟩
  · cases h

/-- Pieces that are read are pieces, by induction on the sections of the text. -/
theorem isPiece_of_piecesOf? {mayEndDotted : Bool} {parts : List (List Char)}
    : ∀ {pieces : List Nat}, piecesOf? mayEndDotted parts = some pieces → ∀ n ∈ pieces, IsPiece n := by
  induction parts with
  | nil =>
      intro pieces h
      obtain rfl := Option.some.inj h
      exact List.forall_mem_nil _
  | cons part rest ih =>
      intro pieces h
      cases rest with
      | nil =>
          rw [piecesOf?] at h
          split at h
          · exact isPiece_of_dottedPieces? h
          · obtain ⟨n, read, rfl⟩ := Option.map_eq_some_iff.mp h
            exact List.forall_mem_singleton.mpr (isPiece_of_piece? read)
      | cons next rest =>
          obtain ⟨n, read, h⟩ := Option.bind_eq_some_iff.mp h
          obtain ⟨others, readOthers, same⟩ := Option.bind_eq_some_iff.mp h
          obtain rfl := Option.some.inj same
          exact List.forall_mem_cons.mpr ⟨isPiece_of_piece? read, ih readOthers⟩

theorem isPiece_of_piecesIn? {mayEndDotted : Bool} {text : List Char} {pieces : List Nat}
    (h : piecesIn? mayEndDotted text = some pieces)
    : ∀ n ∈ pieces, IsPiece n := by
  unfold piecesIn? at h
  split at h
  · obtain rfl := Option.some.inj h
    exact List.forall_mem_nil _
  · exact isPiece_of_piecesOf? h

/-- A long address: eight pieces. -/
structure ArePieces (pieces : List Nat) : Prop where
  eight : pieces.length = 8
  each : ∀ n ∈ pieces, IsPiece n

theorem arePieces_of_ipv6Pieces? {text : List Char} {pieces : List Nat}
    (h : ipv6Pieces? text = some pieces)
    : ArePieces pieces := by
  unfold ipv6Pieces? at h
  split at h
  · obtain ⟨read, eight⟩ := Option.filter_eq_some_iff.mp h
    exact ⟨of_decide_eq_true eight, isPiece_of_piecesIn? read⟩
  · obtain ⟨front, readFront, h⟩ := Option.bind_eq_some_iff.mp h
    obtain ⟨back, readBack, h⟩ := Option.bind_eq_some_iff.mp h
    split at h
    · next room =>
      obtain rfl := Option.some.inj h
      refine ⟨by simp only [List.length_append, List.length_replicate]; omega, ?_⟩
      have zeros : ∀ n ∈ List.replicate (8 - front.length - back.length) 0, IsPiece n := by
        intro n member
        rw [List.eq_of_mem_replicate member]
        exact Nat.zero_lt_succ _
      exact List.forall_mem_append.mpr ⟨List.forall_mem_append.mpr
        ⟨isPiece_of_piecesIn? readFront, zeros⟩, isPiece_of_piecesIn? readBack⟩
    · cases h

-----------------------------------------------------------------------------------------
-- Runs of zeros
-----------------------------------------------------------------------------------------

/-- The longest run of zeros is a run of zeros of the pieces, by induction on them. -/
theorem longestZeros_spec {pieces : List Nat}
    : ∀ {offset place length : Nat}, longestZeros offset pieces = (place, length) →
        ∃ front back, pieces = front ++ (List.replicate length 0 ++ back)
          ∧ place = offset + front.length := by
  induction pieces with
  | nil =>
      intro offset place length h
      obtain ⟨rfl, rfl⟩ := Prod.mk.inj h
      exact ⟨[], [], rfl, rfl⟩
  | cons piece rest ih =>
      intro offset place length h
      rw [longestZeros] at h
      split at h
      · obtain ⟨rfl, rfl⟩ := Prod.mk.inj h
        refine ⟨[], (piece :: rest).dropWhile (· = 0), ?_, rfl⟩
        have zeros : (piece :: rest).takeWhile (· = 0) = List.replicate (leadingZeros (piece :: rest)) 0 := by
          refine List.eq_replicate_iff.mpr ⟨rfl, fun n member => ?_⟩
          exact of_decide_eq_true (List.all_eq_true.mp List.all_takeWhile n member)
        rw [List.nil_append, ← zeros, List.takeWhile_append_dropWhile]
      · obtain ⟨front, back, rfl, rfl⟩ := ih h
        exact ⟨piece :: front, back, rfl, by rw [List.length_cons]; omega⟩

-----------------------------------------------------------------------------------------
-- Long addresses read again
-----------------------------------------------------------------------------------------

/-- Pieces with colons between them are read again, by induction on them. -/
theorem piecesOf?_hexDigits {pieces : List Nat} (each : ∀ n ∈ pieces, IsPiece n)
    (mayEndDotted : Bool)
    : piecesOf? mayEndDotted (pieces.map hexDigits) = some pieces := by
  induction pieces with
  | nil => rfl
  | cons n rest ih =>
      obtain ⟨first, others⟩ := List.forall_mem_cons.mp each
      cases rest with
      | nil =>
          have noDot : (hexDigits n).contains '.' = false := by
            refine Bool.eq_false_iff.mpr fun dot => ?_
            have member := List.contains_iff_mem.mp dot
            exact (unmarked_of_mem_hexDigits '.' member).1 (by decide)
          rw [List.map_singleton, piecesOf?, noDot, piece?_hexDigits first]
          simp
      | cons next rest =>
          rw [List.map_cons, List.map_cons, piecesOf?, piece?_hexDigits first, ← List.map_cons,
            ih others]
          · rfl
          · exact nofun

theorem piecesIn?_colonText {pieces : List Nat} (each : ∀ n ∈ pieces, IsPiece n)
    (mayEndDotted : Bool)
    : piecesIn? mayEndDotted (colonText pieces) = some pieces := by
  cases pieces with
  | nil => rfl
  | cons n rest =>
      have some : (n :: rest).map hexDigits ≠ [] := List.cons_ne_nil _ _
      have unmarked : ∀ part ∈ (n :: rest).map hexDigits, ∀ c ∈ part, (c == ':') = false := by
        refine List.forall_mem_map.mpr fun n _ c member => ?_
        have other := (unmarked_of_mem_hexDigits c member).1
        simp only [List.mem_cons, not_or] at other
        exact beq_false_of_ne other.1
      have divided : Text.sections (· == ':') (colonText (n :: rest)) = (n :: rest).map hexDigits :=
        Text.sections_intercalate (m := ':') rfl some unmarked
      have nonempty : colonText (n :: rest) ≠ [] := by
        intro empty
        rw [empty] at divided
        exact hexDigits_ne_nil n (List.cons.inj divided).1.symm
      unfold piecesIn?
      split
      · next empty => exact absurd empty nonempty
      · rw [divided, piecesOf?_hexDigits each]

/-- No two colons in a row stand before a text without colons, by induction on the text. -/
theorem splitDouble?_append {cs : List Char} (unmarked : ∀ c ∈ cs, c ≠ ':') (rest : List Char)
    : splitDouble? (cs ++ rest)
      = (splitDouble? rest).map fun (before, after) => (cs ++ before, after) := by
  induction cs with
  | nil => exact Option.map_id'.symm
  | cons c cs ih =>
      obtain ⟨first, others⟩ := List.forall_mem_cons.mp unmarked
      rw [List.cons_append, splitDouble?, ih others, Option.map_map]
      · rfl
      · exact fun _ same => absurd same first

theorem splitDouble?_colon {c : Char} (other : c ≠ ':') (rest : List Char)
    : splitDouble? (':' :: c :: rest)
      = (splitDouble? (c :: rest)).map fun (before, after) => (':' :: before, after) := by
  rw [splitDouble?]
  rintro _ - start
  exact absurd (List.cons.inj start).1 other

theorem colonText_singleton (n : Nat) : colonText [n] = hexDigits n := by
  rw [colonText, List.map_singleton, List.intercalate_singleton]

theorem colonText_cons (n next : Nat) (rest : List Nat)
    : colonText (n :: next :: rest) = hexDigits n ++ ':' :: colonText (next :: rest) := by
  rw [colonText, List.map_cons, List.map_cons, List.intercalate_cons_cons, List.append_assoc,
    List.singleton_append, ← List.map_cons, ← colonText]

/-- The text of pieces starts with a digit. -/
theorem exists_colonText (n : Nat) (rest : List Nat)
    : ∃ c cs, colonText (n :: rest) = c :: cs ∧ c ≠ ':' := by
  obtain ⟨c, cs, digits⟩ := List.exists_cons_of_ne_nil (hexDigits_ne_nil n)
  have other : c ≠ ':' := by
    rintro rfl
    have member : ':' ∈ hexDigits n := digits ▸ List.mem_cons_self
    exact (unmarked_of_mem_hexDigits _ member).1 (by decide)
  cases rest with
  | nil => exact ⟨c, cs, (colonText_singleton n).trans digits, other⟩
  | cons next rest =>
      refine ⟨c, cs ++ ':' :: colonText (next :: rest), ?_, other⟩
      rw [colonText_cons, digits, List.cons_append]

/-- The first two colons in a row stand behind all pieces, by induction on these. -/
theorem splitDouble?_colonText (pieces : List Nat) (tail : List Char)
    : splitDouble? (colonText pieces ++ tail)
      = (splitDouble? tail).map fun (before, after) => (colonText pieces ++ before, after) := by
  have digits (n : Nat) : ∀ c ∈ hexDigits n, c ≠ ':' := by
    rintro _ member rfl
    exact (unmarked_of_mem_hexDigits _ member).1 (by decide)
  induction pieces with
  | nil => exact Option.map_id'.symm
  | cons n rest ih =>
      cases rest with
      | nil =>
          rw [colonText_singleton]
          exact splitDouble?_append (digits n) tail
      | cons next rest =>
          have whole (tail : List Char) : colonText (n :: next :: rest) ++ tail
              = hexDigits n ++ ':' :: (colonText (next :: rest) ++ tail) := by
            rw [colonText_cons, List.append_assoc, List.cons_append]
          obtain ⟨c, cs, start, other⟩ := exists_colonText next rest
          have colon : splitDouble? (':' :: (colonText (next :: rest) ++ tail))
              = (splitDouble? (colonText (next :: rest) ++ tail)).map
                  fun (before, after) => (':' :: before, after) := by
            rw [start]
            exact splitDouble?_colon other (cs ++ tail)
          rw [whole, splitDouble?_append (digits n), colon, ih, Option.map_map, Option.map_map]
          refine Option.map_congr fun parts _ => ?_
          exact Prod.ext (whole parts.1).symm rfl

/-- Without a run of zeros left out, all pieces are there. -/
theorem ipv6Pieces?_colonText {pieces : List Nat} (are : ArePieces pieces)
    : ipv6Pieces? (colonText pieces) = some pieces := by
  have single : splitDouble? (colonText pieces) = none := by
    have none := splitDouble?_colonText pieces []
    rwa [List.append_nil] at none
  have eight : decide (pieces.length = 8) = true := decide_eq_true are.eight
  rw [ipv6Pieces?, single, piecesIn?_colonText are.each]
  exact Option.filter_some_pos eight

/-- Where a run of zeros is left out, what stands before and after it tells its length. -/
theorem ipv6Pieces?_shortened {front back : List Nat} {length : Nat} (zero : 1 ≤ length)
    (are : ArePieces (front ++ (List.replicate length 0 ++ back)))
    : ipv6Pieces? (colonText front ++ [':', ':'] ++ colonText back)
      = some (front ++ (List.replicate length 0 ++ back)) := by
  have count : front.length + (length + back.length) = 8 := by
    have eight := are.eight
    rwa [List.length_append, List.length_append, List.length_replicate] at eight
  obtain ⟨inFront, others⟩ := List.forall_mem_append.mp are.each
  have inBack := (List.forall_mem_append.mp others).2
  have divided : splitDouble? (colonText front ++ [':', ':'] ++ colonText back)
      = some (colonText front, colonText back) := by
    rw [List.append_assoc, splitDouble?_colonText]
    change (some ([], colonText back)).map _ = _
    simp
  rw [ipv6Pieces?, divided]
  change (piecesIn? false (colonText front)).bind _ = _
  rw [piecesIn?_colonText inFront]
  change (piecesIn? true (colonText back)).bind _ = _
  rw [piecesIn?_colonText inBack]
  have room : front.length + back.length ≤ 7 := by omega
  have zeros : 8 - front.length - back.length = length := by omega
  change (if front.length + back.length ≤ 7 then _ else _) = _
  rw [if_pos room, zeros, List.append_assoc]
  rfl

/-- A long address is read again from its text. -/
theorem ipv6Pieces?_piecesText {pieces : List Nat} (are : ArePieces pieces)
    : ipv6Pieces? (piecesText pieces) = some pieces := by
  have whole : piecesText pieces = if (longestZeros 0 pieces).2 < 2 then colonText pieces
      else colonText (pieces.take (longestZeros 0 pieces).1) ++ [':', ':']
        ++ colonText (pieces.drop ((longestZeros 0 pieces).1 + (longestZeros 0 pieces).2)) := rfl
  obtain ⟨front, back, parts, place⟩ : ∃ front back,
      pieces = front ++ (List.replicate (longestZeros 0 pieces).2 0 ++ back)
        ∧ (longestZeros 0 pieces).1 = 0 + front.length :=
    longestZeros_spec rfl
  generalize (longestZeros 0 pieces).2 = length at whole parts
  rw [Nat.zero_add] at place
  rw [whole, place]
  split
  · exact ipv6Pieces?_colonText are
  · next long =>
    have before : pieces.take front.length = front := by rw [parts, List.take_left]
    have after : pieces.drop (front.length + length) = back := by
      rw [parts, ← List.append_assoc]
      exact List.drop_left' (by simp)
    rw [before, after, ipv6Pieces?_shortened (by omega) (parts ▸ are), ← parts]

/-- What the text of a long address is made of. -/
theorem unmarked_of_mem_piecesText {pieces : List Nat} {c : Char} (member : c ∈ piecesText pieces)
    : c = ':' ∨ c ∉ [':', '.', '[', ']'] ∧ Domain.IsPlain c := by
  have inColonText {pieces : List Nat} (member : c ∈ colonText pieces)
      : c = ':' ∨ c ∉ [':', '.', '[', ']'] ∧ Domain.IsPlain c := by
    rcases Text.mem_of_mem_intercalate member with colon | ⟨digits, found, inside⟩
    · exact .inl colon
    · obtain ⟨n, -, rfl⟩ := List.mem_map.mp found
      exact .inr (unmarked_of_mem_hexDigits c inside)
  unfold piecesText at member
  dsimp only at member
  split at member
  · exact inColonText member
  · simp only [List.mem_append, List.mem_cons, List.not_mem_nil, or_false, or_self] at member
    rcases member with (before | colon) | after
    · exact inColonText before
    · exact .inl colon
    · exact inColonText after

-----------------------------------------------------------------------------------------
-- Short addresses
-----------------------------------------------------------------------------------------

theorem lt_of_mem_bytes {address : UInt32} : ∀ b ∈ bytes address, b < 256 :=
  List.forall_mem_map.mpr fun _ _ => Nat.mod_lt _ (by decide)

theorem ipv4Number?_natText {b : Nat} (small : b < 256)
    : ipv4Number? (Text.natText b).toList = some b := by
  have all : ∀ b < 256, ipv4Number? (Nat.toDigits 10 b) = some b := by decide +kernel
  rw [Text.natText_toList]
  exact all b small

/-- The bytes of an address make it again. -/
theorem ipv4Of?_bytes (address : UInt32) : ipv4Of? (bytes address) = some address := by
  have whole : bytes address = [address.toNat / 16777216 % 256, address.toNat / 65536 % 256,
      address.toNat / 256 % 256, address.toNat % 256] := by
    simp [bytes, Nat.shiftRight_eq_div_pow]
  have of (a b c d : Nat) (small : a < 256 ∧ b < 256 ∧ c < 256 ∧ d < 256)
      : ipv4Of? [a, b, c, d] = some (.ofNat (((a * 256 + b) * 256 + c) * 256 + d)) := by
    simp [ipv4Of?, Nat.shiftLeft_eq, small]
  have size := address.toNat_lt
  have same : ((address.toNat / 16777216 % 256 * 256 + address.toNat / 65536 % 256) * 256
      + address.toNat / 256 % 256) * 256 + address.toNat % 256 = address.toNat := by
    omega
  rw [whole, of _ _ _ _ (by omega), same, UInt32.ofNat_toNat]

end Host

end NodeTrial
