import NodeTrial.Proofs.Envelope
import NodeTrial.Proofs.Node.Journal
import NodeTrial.Proofs.Tester.Seeding
import NodeTrial.Proofs.Text.Utf8

/-! Honest surroundings of a run: files can be written, the executor can be run, and every read is
answered from the balances that the journal of executed transactions leads to. The environment of
a node is one of them.
-/

namespace NodeTrial.Node

open Tester (Answers Lists Reports)

/-- A JSON value reports a balance: as a whole number, or as a text that spells it. -/
inductive Spells (w : UInt64) : Json → Prop where
  | number : Spells w (.number (.whole (.ofWord w)))
  | text {s : String} (spelled : Text.natural? (Text.trim s).toList = some w.toNat)
      : Spells w (.text s)

/-- Surroundings with an honest node. What the executor reports, what is listed beside the
addresses and in which form balances are answered is left open; a balance that is no unsigned word
may be answered in any way.
-/
structure Honest (node : Node) (env : Environment) : Prop where
  writes : ∀ past text, env.write past text = .ok ()
  executes : ∀ past key, ∃ output, env.execute past key = .ok output
  accounts
    : ∀ past, ∃ result members,
        Answers env past accountsRef result
        ∧ result.json = .object members
        ∧ ∀ address, address ∈ members.map (·.1) ↔ address ∈ (node.balancesAfter past).keys
  balances
    : ∀ past address w,
        NoSlash address
        → (node.balancesAfter past).get? address = some (w.toNat : Int)
        → ∃ result, Answers env past (balanceRef address) result ∧ Spells w result.json

/-- The addresses of some keys are told apart, and a ref shows where they start and end. -/
structure WellAddressed (node : Node) (keys : List String) : Prop where
  distinct : ∀ a ∈ keys, ∀ b ∈ keys, node.address a = node.address b → a = b
  noSlash : ∀ key ∈ keys, NoSlash (node.address key)
  noPlaceholder : ∀ key ∈ keys, NoPlaceholder (node.address key)

/-- A spelled balance is read as the word that it is. -/
theorem Spells.balanceOf? {w : UInt64} {j : Json} (h : Spells w j) : balanceOf? j = some w := by
  cases h with
  | number => simp [NodeTrial.balanceOf?, Whole.word?, Whole.ofWord]
  | text spelled => exact Text.word?_of_natural? spelled

theorem Spells.scalar {w : UInt64} {j : Json} (h : Spells w j)
    : j.NoReals ∧ j.nesting = 0 ∧ j.canonical = j := by
  cases h with
  | number => simp [Json.NoReals, Json.nesting, Json.canonical]
  | text _ => simp [Json.NoReals, Json.nesting, Json.canonical]

namespace Honest

variable {node : Node} {env : Environment} {past : List Action}

theorem executesAny (h : node.Honest env) (past : List Action) (key text : String)
    : Tester.Executes env past key text :=
  ⟨h.writes past text, h.executes _ key⟩

/-- An honest node lists the addresses that have a balance, and no others. -/
theorem lists (h : node.Honest env) (past : List Action)
    : ∃ addresses, Lists env past addresses
        ∧ ∀ address, address ∈ addresses ↔ address ∈ (node.balancesAfter past).keys := by
  obtain ⟨result, members, answered, shape, same⟩ := h.accounts past
  refine ⟨members.map (·.1), ⟨result, answered, ?_⟩, same⟩
  rw [addressesOf, shape]

/-- An honest node reports the balance that it has. -/
theorem reports (h : node.Honest env) {address : String} {w : UInt64} (noSlash : NoSlash address)
    (found : (node.balancesAfter past).get? address = some (w.toNat : Int))
    : Reports env past address w := by
  obtain ⟨result, answered, spells⟩ := h.balances past address w noSlash found
  refine ⟨result, answered, ?_⟩
  rw [reportedBalance, spells.balanceOf?]

end Honest

-----------------------------------------------------------------------------------------
-- The environment of a node
-----------------------------------------------------------------------------------------

/-- An answer in its envelope is read as the value that was answered. -/
theorem result_enveloped {j : Json} (whole : j.NoReals) (fits : j.nesting < Json.maxDepth)
    : (enveloped j).result = .ok (.ofJson j) := by
  have code : Whole.ofWord 0 = Whole.ofSigned 0 := rfl
  have none : ∀ s ∈ ([] : List Text.Symbol), Json.isSpace s = true := by simp
  have read := Envelope.parse_written 0 whole fits none
  rw [List.append_nil, ← code] at read
  have success : ¬ (enveloped j).status.isRefusal = true :=
    show ¬ Status.isRefusal .ok = true by decide
  rw [Response.result, if_neg success, enveloped, Text.symbolsOfBytes_bytesOf, Text.symbols,
    Json.render, String.toList_ofList, read]

/-- The accounts that a node lists: each address with its balance as a text. -/
def listing (entries : List (String × Int)) : List (String × Json) :=
  entries.map fun (address, balance) =>
    (address, .object [("balance", .text (Text.intText balance))])

theorem listing_addresses (entries : List (String × Int))
    : (listing entries).map (·.1) = entries.map (·.1) := by
  rw [listing, List.map_map]
  rfl

/-- A listing is canonical in its values, holds no floating-point numbers and nests one brace deep;
by induction on the accounts.
-/
theorem listing_values (entries : List (String × Int))
    : Json.CanonicalMembers (listing entries)
      ∧ Json.NoRealMembers (listing entries)
      ∧ Json.nestingMembers (listing entries) ≤ 1 := by
  induction entries with
  | nil => simp [listing, Json.CanonicalMembers, Json.NoRealMembers, Json.nestingMembers]
  | cons entry entries ih =>
      obtain ⟨canonical, whole, shallow⟩ := ih
      simp only [listing] at canonical whole shallow
      simp [listing, Json.CanonicalMembers, Json.NoRealMembers, Json.nestingMembers,
        Json.Canonical, Json.NoReals, Json.nesting, RisingKeys, canonical, whole, shallow]

/-- The listing that the environment of a node answers with is read back as it is. -/
theorem environment_accounts (node : Node) (past : List Action)
    : ∃ result,
        Answers node.environment past accountsRef result
        ∧ result.json = .object (listing (node.balancesAfter past).entries) := by
  obtain ⟨canonical, whole, shallow⟩ := listing_values (node.balancesAfter past).entries
  have rising : RisingKeys (listing (node.balancesAfter past).entries) :=
    List.pairwise_map.mpr (node.balancesAfter past).rising
  have proper : (Json.object (listing (node.balancesAfter past).entries)).Canonical := by
    simp only [Json.Canonical, rising, canonical, and_self]
  have answered : node.environment.fetch past accountsRef
      = .ok (enveloped (.object (listing (node.balancesAfter past).entries))) := by
    simp only [environment, answer, if_true]
    rfl
  refine ⟨.ofJson (.object (listing (node.balancesAfter past).entries)),
    ⟨_, answered, result_enveloped ?_ ?_⟩, Json.canonical_eq_self _ proper⟩
  · simp only [Json.NoReals, whole]
  · simp only [Json.nesting, Json.maxDepth]
    omega

theorem spells_balanceJson (asText : Bool) (w : UInt64)
    : Spells w (balanceJson asText w.toNat) := by
  rw [balanceJson]
  split
  · refine .text ?_
    rw [Text.intText_natCast, Text.trim_natText, Text.natural?_natText]
  · have whole : Whole.ofInt? (w.toNat : Int) = some (Whole.ofWord w) :=
      Whole.ofInt?_val (Whole.ofWord w)
    rw [whole]
    exact .number

/-- A balance that the environment of a node answers with is read back as it is. -/
theorem environment_balances (node : Node) (past : List Action) {address : String} {w : UInt64}
    (noSlash : NoSlash address)
    (found : (node.balancesAfter past).get? address = some (w.toNat : Int))
    : ∃ result,
        Answers node.environment past (balanceRef address) result ∧ Spells w result.json := by
  have there : (node.replay (entriesOf past)).get? address = some (w.toNat : Int) := found
  have answered : node.environment.fetch past (balanceRef address)
      = .ok (enveloped (balanceJson (node.asText past) w.toNat)) := by
    simp only [environment, answer, if_neg (balanceRef_ne_accountsRef address),
      balanceAddress?_balanceRef noSlash, Option.bind_some, there]
  have spells := spells_balanceJson (node.asText past) w
  obtain ⟨whole, shallow, canonical⟩ := spells.scalar
  refine ⟨.ofJson (balanceJson (node.asText past) w.toNat),
    ⟨_, answered, result_enveloped whole ?_⟩, ?_⟩
  · rw [shallow]
    decide
  · change Spells w (balanceJson (node.asText past) w.toNat).canonical
    rw [canonical]
    exact spells

/-- The environment of a node is honest. -/
theorem environment_honest (node : Node) : node.Honest node.environment := by
  refine {
    writes := fun _ _ => rfl
    executes := fun _ _ => ⟨_, rfl⟩
    accounts := ?_
    balances := fun past address w noSlash found => node.environment_balances past noSlash found
  }
  intro past
  obtain ⟨result, answers, shape⟩ := node.environment_accounts past
  refine ⟨result, _, answers, shape, fun address => ?_⟩
  rw [listing_addresses, Table.keys]

end NodeTrial.Node
