import NodeTrial.Decimal.Shortest
import NodeTrial.Table

/-! JSON values. A value as it was read keeps its members in the order and number in which they
stood; its canonical form has the members of every object in rising key order, of those with
one name the last. Values proper are the canonical ones.
-/

namespace NodeTrial

/-- A whole number that fits a signed or an unsigned word of 64 bits. -/
structure Whole where
  val : Int
  inRange : -0x8000000000000000 ≤ val ∧ val < 0x10000000000000000
  deriving DecidableEq, Repr

namespace Whole

/-- A whole number, if it is in range. -/
def ofInt? (n : Int) : Option Whole :=
  if h : -0x8000000000000000 ≤ n ∧ n < 0x10000000000000000 then some ⟨n, h⟩ else none

def ofWord (w : UInt64) : Whole :=
  ⟨w.toNat, by have := w.toNat_lt; omega⟩

def ofSigned (w : Int64) : Whole :=
  ⟨w.toInt, by have := w.le_toInt; have := w.toInt_lt; omega⟩

/-- The unsigned word of the same value. -/
def word? (n : Whole) : Option UInt64 :=
  if 0 ≤ n.val then some (.ofNat n.val.toNat) else none

end Whole

/-- A JSON number: whole and in range, or floating-point. -/
inductive Number where
  | whole (value : Whole)
  | real (value : Double)
  deriving DecidableEq, Repr

/-- A JSON value as it was read. -/
inductive Json where
  | null
  | bool (value : Bool)
  | number (value : Number)
  | text (value : String)
  | list (items : List Json)
  | object (members : List (String × Json))
  deriving Inhabited, Repr

namespace Json

mutual

/-- Equality of values is decided by comparing them part by part. -/
def decEq : (a b : Json) → Decidable (a = b)
  | .null, .null => .isTrue rfl
  | .bool a, .bool b =>
    if h : a = b then .isTrue (h ▸ rfl) else .isFalse fun e => h (Json.bool.inj e)
  | .number a, .number b =>
    if h : a = b then .isTrue (h ▸ rfl) else .isFalse fun e => h (Json.number.inj e)
  | .text a, .text b =>
    if h : a = b then .isTrue (h ▸ rfl) else .isFalse fun e => h (Json.text.inj e)
  | .list a, .list b =>
    match decEqItems a b with
    | .isTrue h => .isTrue (h ▸ rfl)
    | .isFalse h => .isFalse fun e => h (Json.list.inj e)
  | .object a, .object b =>
    match decEqMembers a b with
    | .isTrue h => .isTrue (h ▸ rfl)
    | .isFalse h => .isFalse fun e => h (Json.object.inj e)
  | .null, .bool _ | .null, .number _ | .null, .text _ | .null, .list _ | .null, .object _
  | .bool _, .null | .bool _, .number _ | .bool _, .text _ | .bool _, .list _
  | .bool _, .object _ | .number _, .null | .number _, .bool _ | .number _, .text _
  | .number _, .list _ | .number _, .object _ | .text _, .null | .text _, .bool _
  | .text _, .number _ | .text _, .list _ | .text _, .object _ | .list _, .null
  | .list _, .bool _ | .list _, .number _ | .list _, .text _ | .list _, .object _
  | .object _, .null | .object _, .bool _ | .object _, .number _ | .object _, .text _
  | .object _, .list _ => .isFalse (by intro h; cases h)

/-- Equality of lists of values. -/
def decEqItems : (a b : List Json) → Decidable (a = b)
  | [], [] => .isTrue rfl
  | [], _ :: _ | _ :: _, [] => .isFalse (by intro h; cases h)
  | a :: as, b :: bs =>
    match decEq a b, decEqItems as bs with
    | .isTrue h, .isTrue hs => .isTrue (by rw [h, hs])
    | .isFalse h, _ => .isFalse fun e => h (List.cons.inj e).1
    | _, .isFalse hs => .isFalse fun e => hs (List.cons.inj e).2

def decEqMembers : (a b : List (String × Json)) → Decidable (a = b)
  | [], [] => .isTrue rfl
  | [], _ :: _ | _ :: _, [] => .isFalse (by intro h; cases h)
  | (k, a) :: as, (l, b) :: bs =>
    match decEq a b, decEqMembers as bs with
    | .isTrue h, .isTrue hs =>
      if hk : k = l then .isTrue (by rw [h, hs, hk])
      else .isFalse fun e => hk (congrArg Prod.fst (List.cons.inj e).1)
    | .isFalse h, _ => .isFalse fun e => h (congrArg Prod.snd (List.cons.inj e).1)
    | _, .isFalse hs => .isFalse fun e => hs (List.cons.inj e).2

end

instance : DecidableEq Json := decEq

mutual

/-- The canonical form: every object's members in rising key order, the last of each name. -/
def canonical : Json → Json
  | .list items => .list (canonicalItems items)
  | .object members => .object (Table.ofList (canonicalMembers members)).entries
  | .null => .null
  | .bool b => .bool b
  | .number n => .number n
  | .text s => .text s

def canonicalItems : List Json → List Json
  | [] => []
  | item :: rest => item.canonical :: canonicalItems rest

/-- Members in the order given, each value in canonical form. -/
def canonicalMembers : List (String × Json) → List (String × Json)
  | [] => []
  | (key, value) :: rest => (key, value.canonical) :: canonicalMembers rest

end

mutual

/-- A value is canonical when the keys of all its objects rise. -/
def Canonical : Json → Prop
  | .list items => CanonicalItems items
  | .object members => RisingKeys members ∧ CanonicalMembers members
  | .null | .bool _ | .number _ | .text _ => True

def CanonicalItems : List Json → Prop
  | [] => True
  | item :: rest => item.Canonical ∧ CanonicalItems rest

def CanonicalMembers : List (String × Json) → Prop
  | [] => True
  | (_, value) :: rest => value.Canonical ∧ CanonicalMembers rest

end

/-- An insertion of a canonical value keeps the values of an entry list canonical. -/
theorem CanonicalMembers.insertEntry {key : String} {value : Json}
    {members : List (String × Json)} (hv : value.Canonical) (hm : CanonicalMembers members)
    : CanonicalMembers (NodeTrial.insertEntry key value members) := by
  induction members with
  | nil => simp [NodeTrial.insertEntry, CanonicalMembers, hv]
  | cons head rest ih =>
    obtain ⟨name, first⟩ := head
    simp only [CanonicalMembers] at hm
    unfold NodeTrial.insertEntry
    split
    · simp [CanonicalMembers, hv, hm]
    · split
      · simp [CanonicalMembers, hv, hm]
      · simp [CanonicalMembers, hm.1, ih hm.2]

/-- A table built from canonical values has canonical values, by induction on the pairs. -/
theorem CanonicalMembers.ofList {pairs : List (String × Json)} (h : CanonicalMembers pairs)
    : CanonicalMembers (Table.ofList pairs).entries := by
  suffices ∀ (t : Table Json), CanonicalMembers t.entries →
      CanonicalMembers
        (pairs.foldl (fun t (p : String × Json) => t.insert p.1 p.2) t).entries from
    this _ (by simp [Table.empty, CanonicalMembers])
  induction pairs with
  | nil => exact fun _ ht => ht
  | cons pair rest ih =>
    simp only [CanonicalMembers] at h
    exact fun t ht => ih h.2 _ (CanonicalMembers.insertEntry h.1 ht)

mutual

/-- The canonical form is canonical, by induction on the value. -/
theorem canonical_canonical : (j : Json) → j.canonical.Canonical
  | .list items => by
    simpa [canonical, Canonical] using canonicalItems_canonical items
  | .object members => by
    simpa [canonical, Canonical] using
      ⟨(Table.ofList (canonicalMembers members)).rising,
        CanonicalMembers.ofList (canonicalMembers_canonical members)⟩
  | .null | .bool _ | .number _ | .text _ => by simp [canonical, Canonical]

theorem canonicalItems_canonical : (items : List Json) → CanonicalItems (canonicalItems items)
  | [] => by simp [canonicalItems, CanonicalItems]
  | item :: rest => by
    simpa [canonicalItems, CanonicalItems] using
      ⟨canonical_canonical item, canonicalItems_canonical rest⟩

/-- The canonical members of an object have canonical values. -/
theorem canonicalMembers_canonical
    : (members : List (String × Json)) → CanonicalMembers (canonicalMembers members)
  | [] => by simp [canonicalMembers, CanonicalMembers]
  | (_, value) :: rest => by
    simpa [canonicalMembers, CanonicalMembers] using
      ⟨canonical_canonical value, canonicalMembers_canonical rest⟩

end

mutual

/-- A value holds no floating-point number. -/
def NoReals : Json → Prop
  | .number (.real _) => False
  | .list items => NoRealItems items
  | .object members => NoRealMembers members
  | .null | .bool _ | .number (.whole _) | .text _ => True

/-- No item of a list holds a floating-point number. -/
def NoRealItems : List Json → Prop
  | [] => True
  | item :: rest => item.NoReals ∧ NoRealItems rest

/-- No member's value holds a floating-point number. -/
def NoRealMembers : List (String × Json) → Prop
  | [] => True
  | (_, value) :: rest => value.NoReals ∧ NoRealMembers rest

end

mutual

/-- The number of brackets open at the deepest point of a value's text. -/
def nesting : Json → Nat
  | .list items => nestingItems items + 1
  | .object members => nestingMembers members + 1
  | .null | .bool _ | .number _ | .text _ => 0

/-- The deepest nesting among the items of a list. -/
def nestingItems : List Json → Nat
  | [] => 0
  | item :: rest => max item.nesting (nestingItems rest)

/-- The deepest nesting among the values of an object's members. -/
def nestingMembers : List (String × Json) → Nat
  | [] => 0
  | (_, value) :: rest => max value.nesting (nestingMembers rest)

end

mutual

/-- Two values are alike when they are equal, floating-point numbers compared as numbers. -/
def alike : Json → Json → Bool
  | .number (.real a), .number (.real b) => a.toFloat == b.toFloat
  | .number (.whole a), .number (.whole b) => a = b
  | .list as, .list bs => alikeItems as bs
  | .object as, .object bs => alikeMembers as bs
  | .null, .null => true
  | .bool a, .bool b => a = b
  | .text a, .text b => a = b
  | _, _ => false

def alikeItems : List Json → List Json → Bool
  | [], [] => true
  | a :: as, b :: bs => a.alike b && alikeItems as bs
  | _, _ => false

/-- Members alike one by one, with equal keys. -/
def alikeMembers : List (String × Json) → List (String × Json) → Bool
  | [], [] => true
  | (k, a) :: as, (l, b) :: bs => k = l && a.alike b && alikeMembers as bs
  | _, _ => false

end

/-- The member of an object with a given name, `null` if there is none. -/
def member (j : Json) (name : String) : Json :=
  match j with
  | .object members => (lookupEntry name members).getD .null
  | _ => .null

end Json

/-- A JSON value proper: a canonical one. -/
structure Value where
  json : Json
  canonical : json.Canonical

namespace Value

/-- The value that a JSON value as read stands for. -/
def ofJson (j : Json) : Value :=
  ⟨j.canonical, j.canonical_canonical⟩

@[ext] theorem ext {a b : Value} (h : a.json = b.json) : a = b := by
  cases a; cases b; cases h; rfl

instance : DecidableEq Value := fun a b =>
  if h : a.json = b.json then .isTrue (Value.ext h) else .isFalse fun e => h (e ▸ rfl)

instance : Inhabited Value := ⟨ofJson .null⟩

def text (s : String) : Value :=
  ⟨.text s, by simp [Json.Canonical]⟩

def word (w : UInt64) : Value :=
  ⟨.number (.whole (.ofWord w)), by simp [Json.Canonical]⟩

def null : Value :=
  ⟨.null, by simp [Json.Canonical]⟩

end Value

end NodeTrial
