import NodeTrial.Json.Basic
import NodeTrial.Proofs.Table.Lookup

/-! The canonical form leaves canonical values as they are, so a value proper stands for itself.
-/

namespace NodeTrial

namespace Json

mutual

/-- A canonical value is its own canonical form, by induction on the value. -/
theorem canonical_eq_self : (j : Json) → j.Canonical → j.canonical = j
  | .null, _ | .bool _, _ | .number _, _ | .text _, _ => by rw [canonical]
  | .list items, h => by
    rw [Canonical] at h
    rw [canonical, canonicalItems_eq_self items h]
  | .object members, h => by
    rw [Canonical] at h
    rw [canonical, canonicalMembers_eq_self members h.2, Table.ofList_entries h.1]

theorem canonicalItems_eq_self
    : (items : List Json) → CanonicalItems items → canonicalItems items = items
  | [], _ => rfl
  | item :: rest, h => by
    rw [CanonicalItems] at h
    rw [canonicalItems, canonical_eq_self item h.1, canonicalItems_eq_self rest h.2]

theorem canonicalMembers_eq_self
    : (members : List (String × Json)) → CanonicalMembers members →
        canonicalMembers members = members
  | [], _ => rfl
  | (key, value) :: rest, h => by
    rw [CanonicalMembers] at h
    rw [canonicalMembers, canonical_eq_self value h.1, canonicalMembers_eq_self rest h.2]

end

end Json

/-- A value proper is the value that it stands for. -/
theorem Value.ofJson_json (v : Value) : Value.ofJson v.json = v :=
  Value.ext (v.json.canonical_eq_self v.canonical)

/-- The value of a canonical form is the value itself. -/
theorem Value.ofJson_canonical (j : Json) : Value.ofJson j.canonical = Value.ofJson j :=
  Value.ext (j.canonical.canonical_eq_self j.canonical_canonical)

end NodeTrial
