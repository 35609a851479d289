import Mathlib.Data.Int.CardIntervalMod
import Mathlib.Data.Nat.Periodic
import NodeTrial.Proofs.Load.Plan

/-! Which server gets which operation. The requests of a plan are told apart by where their server
and their operation stand in the two lists. All servers are posted to equally often and so are, but
for one request, all operations posted; which of them meet is a matter of the greatest common
divisor of the two numbers.
-/

namespace NodeTrial.Load

-----------------------------------------------------------------------------------------
-- Places
-----------------------------------------------------------------------------------------

/-- The places that requests take their server and their operation from, for lists of two lengths:
the lists are gone through in cycles as for a plan, with places instead of what stands there.
-/
def places (servers operations count : Nat) : List (Nat × Nat) :=
  pairsFrom (List.range servers) (List.range operations) count 0

/-- Requests take their servers and their operations from places in the two lists. -/
structure TakenFrom (servers : List Url) (operations : List Operation)
    (requests : List PlannedRequest) (taken : List (Nat × Nat))
    : Prop where
  count : taken.length = requests.length
  each : ∀ (i : Nat) (r : PlannedRequest), requests[i]? = some r → ∃ a b, taken[i]? = some (a, b)
    ∧ operations[b]? = some r.operation
    ∧ ∃ base, servers[a]? = some base ∧ base.join r.operation.path = .ok r.url

section Places

variable {n m : Nat} (someServer : 0 < n) (someOperation : 0 < m)

include someServer someOperation

theorem places_eq (count : Nat)
    : places n m count = (List.range count).map fun i => (i % n, i % m) := by
  have next (i : Nat) : pairAt (List.range n) (List.range m) i = some (i % n, i % m) := by
    rw [pairAt_eq_some_iff, List.length_range, List.length_range]
    exact ⟨List.getElem?_range (Nat.mod_lt i someServer),
      List.getElem?_range (Nat.mod_lt i someOperation)⟩
  refine List.ext_getElem? fun i => ?_
  rw [places, getElem?_pairsFrom, Nat.zero_add, next, List.getElem?_map]
  split
  · next small => rw [List.getElem?_range small, Option.map_some]
  · next large =>
    rw [List.getElem?_eq_none (by simpa using large), Option.map_none]

/-- The places of a plan that was made are those of its requests. -/
theorem takenFrom_places {servers : List Url} {operations : List Operation}
    {requests : List PlannedRequest} (ns : servers.length = n) (ms : operations.length = m)
    (each : ∀ i r, requests[i]? = some r → IsRequestAt servers operations i r)
    : TakenFrom servers operations requests (places n m requests.length) := by
  rw [places_eq someServer someOperation]
  refine ⟨by simp, fun i r held => ⟨i % n, i % m, ?_, ?_⟩⟩
  · have small : i < requests.length := (List.getElem?_eq_some_iff.mp held).1
    rw [List.getElem?_map, List.getElem?_range small, Option.map_some]
  · obtain ⟨operation, base, server, url⟩ := each i r held
    rw [ms] at operation
    rw [ns] at server
    exact ⟨operation, base, server, url⟩

theorem mem_places_iff {count a b : Nat}
    : (a, b) ∈ places n m count ↔ ∃ i < count, i % n = a ∧ i % m = b := by
  rw [places_eq someServer someOperation]
  simp

-----------------------------------------------------------------------------------------
-- How often a place is used
-----------------------------------------------------------------------------------------

omit someOperation in
/-- Below a number there are as many numbers with a remainder as there are whole rounds of remainders,
and one more if the last round gets that far.
-/
theorem countP_remainder {a : Nat} (small : a < n) (count : Nat)
    : (List.range count).countP (fun i => decide (i % n = a))
      = count / n + if a < count % n then 1 else 0 := by
  have same : (List.range count).countP (fun i => decide (i % n = a))
      = count.count (· ≡ a [MOD n]) := by
    refine List.countP_congr fun i _ => ?_
    rw [decide_eq_true_iff, decide_eq_true_iff]
    unfold Nat.ModEq
    rw [Nat.mod_eq_of_lt small]
  rw [same, Nat.count_modEq_card count someServer, Nat.mod_eq_of_lt small]

theorem countP_fst_places {a : Nat} (small : a < n) (count : Nat)
    : (places n m count).countP (fun place => decide (place.1 = a))
      = count / n + if a < count % n then 1 else 0 := by
  rw [places_eq someServer someOperation, List.countP_map]
  exact countP_remainder someServer small count

theorem countP_snd_places {b : Nat} (small : b < m) (count : Nat)
    : (places n m count).countP (fun place => decide (place.2 = b))
      = count / m + if b < count % m then 1 else 0 := by
  rw [places_eq someServer someOperation, List.countP_map]
  exact countP_remainder someOperation small count

-----------------------------------------------------------------------------------------
-- Which places meet
-----------------------------------------------------------------------------------------

omit someServer someOperation in
/-- Places that meet at an index are congruent modulo the greatest common divisor. -/
theorem modEq_gcd_of_meet {i a b : Nat} (first : i % n = a) (second : i % m = b)
    : a ≡ b [MOD n.gcd m] := by
  have left : i ≡ a [MOD n] := first ▸ (Nat.mod_modEq i n).symm
  have right : i ≡ b [MOD m] := second ▸ (Nat.mod_modEq i m).symm
  exact (left.of_dvd (Nat.gcd_dvd_left n m)).symm.trans (right.of_dvd (Nat.gcd_dvd_right n m))

/-- Below the least common multiple, congruent places meet at one index, which the Chinese remainder
theorem gives, and others at none.
-/
theorem countP_meet {a b : Nat} (smallA : a < n) (smallB : b < m)
    : (List.range (n.lcm m)).countP (fun i => decide (i % n = a ∧ i % m = b))
      = if a ≡ b [MOD n.gcd m] then 1 else 0 := by
  split
  · next congruent =>
    let k := Nat.chineseRemainder' congruent
    have below : k < n.lcm m :=
      Nat.chineseRemainder'_lt_lcm congruent someServer.ne' someOperation.ne'
    have only (i : Nat) (small : i < n.lcm m) : i % n = a ∧ i % m = b ↔ i = k := by
      constructor
      · rintro ⟨rfl, rfl⟩
        have onFirst : i ≡ k [MOD n] := (Nat.mod_modEq i n).symm.trans k.2.1.symm
        have onSecond : i ≡ k [MOD m] := (Nat.mod_modEq i m).symm.trans k.2.2.symm
        exact (Nat.mod_lcm onFirst onSecond).eq_of_lt_of_lt small below
      · rintro rfl
        exact ⟨Nat.mod_eq_of_modEq k.2.1 smallA, Nat.mod_eq_of_modEq k.2.2 smallB⟩
    calc (List.range (n.lcm m)).countP (fun i => decide (i % n = a ∧ i % m = b))
        = (List.range (n.lcm m)).countP (· == k.1) := by
          refine List.countP_congr fun i member => ?_
          rw [decide_eq_true_iff, beq_iff_eq, only i (List.mem_range.mp member)]
      _ = 1 := List.count_eq_one_of_mem List.nodup_range (List.mem_range.mpr below)
  · next apart =>
    refine List.countP_eq_zero.mpr fun i _ meet => ?_
    obtain ⟨first, second⟩ := of_decide_eq_true meet
    exact apart (modEq_gcd_of_meet first second)

omit someServer someOperation in
theorem take_drop_range {start length count : Nat} (inside : start + length ≤ count)
    : ((List.range count).drop start).take length = List.range' start length := by
  obtain ⟨rest, rfl⟩ := Nat.exists_eq_add_of_le inside
  rw [List.range_eq_range', List.drop_range', Nat.mul_one, Nat.zero_add, Nat.add_assoc,
    Nat.add_sub_cancel_left, ← List.range'_append_1, List.take_left' List.length_range']

omit someServer someOperation in
/-- What holds periodically holds as often in every window of the length of the period. -/
theorem countP_range'_of_periodic {holds : Nat → Prop} [DecidablePred holds] {period : Nat}
    (periodic : Function.Periodic holds period) (start : Nat)
    : (List.range' start period).countP (fun i => decide (holds i))
      = (List.range period).countP fun i => decide (holds i) := by
  have window : (Multiset.Ico start (start + period) : Multiset Nat)
      = List.range' start period := by
    change ((List.range' start (start + period - start) : List Nat) : Multiset Nat) = _
    rw [Nat.add_sub_cancel_left]
  have same := Nat.filter_multiset_Ico_card_eq_of_periodic start period holds periodic
  rwa [window, ← Multiset.countP_eq_card_filter, Multiset.coe_countP] at same

/-- In every window of the length of the least common multiple, congruent places meet once and others
never.
-/
theorem count_window {a b : Nat} (smallA : a < n) (smallB : b < m) {start count : Nat}
    (inside : start + n.lcm m ≤ count)
    : (((places n m count).drop start).take (n.lcm m)).count (a, b)
      = if a ≡ b [MOD n.gcd m] then 1 else 0 := by
  have window : ((places n m count).drop start).take (n.lcm m)
      = (List.range' start (n.lcm m)).map fun i => (i % n, i % m) := by
    rw [places_eq someServer someOperation, ← List.map_drop, ← List.map_take,
      take_drop_range inside]
  have stays {d : Nat} (divides : d ∣ n.lcm m) (i : Nat) : (i + n.lcm m) % d = i % d := by
    obtain ⟨q, multiple⟩ := divides
    rw [multiple, Nat.add_mul_mod_self_left]
  have periodic : Function.Periodic (fun i => i % n = a ∧ i % m = b) (n.lcm m) := by
    intro i
    simp only [stays (Nat.dvd_lcm_left n m), stays (Nat.dvd_lcm_right n m)]
  rw [window, List.count, List.countP_map, ← countP_meet someServer someOperation smallA smallB,
    ← countP_range'_of_periodic periodic start]
  refine List.countP_congr fun i _ => ?_
  simp

/-- Once a plan has a request for each place in a window, all places meet if and only if none are told
apart by the greatest common divisor.
-/
theorem all_meet_iff {count : Nat} (long : n.lcm m ≤ count)
    : (∀ a < n, ∀ b < m, (a, b) ∈ places n m count) ↔ n.gcd m = 1 := by
  constructor
  · intro all
    by_contra common
    have divides : n.gcd m ∣ m := Nat.gcd_dvd_right n m
    have positive : 0 < n.gcd m := Nat.gcd_pos_of_pos_left m someServer
    have several : 1 < m := by
      have := Nat.le_of_dvd someOperation divides
      omega
    obtain ⟨i, -, first, second⟩ :=
      (mem_places_iff someServer someOperation).mp (all 0 someServer 1 several)
    have congruent : 0 ≡ 1 [MOD n.gcd m] := modEq_gcd_of_meet first second
    exact common (Nat.dvd_one.mp ((Nat.modEq_zero_iff_dvd).mp congruent.symm))
  · intro coprime a smallA b smallB
    have inside : 0 + n.lcm m ≤ count := by simpa using long
    have once := count_window someServer someOperation smallA smallB inside
    rw [coprime, if_pos (Nat.modEq_one), List.drop_zero] at once
    exact List.mem_of_mem_take (List.count_pos_iff.mp (once ▸ Nat.one_pos))

end Places

/-- The places that the requests of so many rounds are taken from are balanced. Every server is used
once in each round and every operation as often as any other, up to one time. In every window as long
as the least common multiple of the two numbers, a server and an operation meet once if their places
are congruent modulo the greatest common divisor, and never otherwise; so all meet all in the end if
and only if the two numbers have no common divisor.
-/
structure Balanced (servers operations rounds : Nat) (taken : List (Nat × Nat)) : Prop where
  eachServer : ∀ a < servers, taken.countP (fun place => decide (place.1 = a)) = rounds
  eachOperation
    : ∀ b < operations,
        taken.countP (fun place => decide (place.2 = b)) = servers * rounds / operations
        ∨ taken.countP (fun place => decide (place.2 = b))
          = (servers * rounds + operations - 1) / operations
  eachWindow
    : ∀ start, start + servers.lcm operations ≤ servers * rounds →
        ∀ a < servers, ∀ b < operations,
          ((taken.drop start).take (servers.lcm operations)).count (a, b)
            = if a ≡ b [MOD servers.gcd operations] then 1 else 0
  allMeet
    : servers.lcm operations ≤ servers * rounds →
        ((∀ a < servers, ∀ b < operations, (a, b) ∈ taken) ↔ servers.gcd operations = 1)

theorem balanced_places {n m : Nat} (someServer : 0 < n) (someOperation : 0 < m) (rounds : Nat)
    : Balanced n m rounds (places n m (n * rounds)) where
  eachServer a small := by
    rw [countP_fst_places someServer someOperation small, Nat.mul_div_cancel_left _ someServer,
      Nat.mul_mod_right, if_neg (Nat.not_lt_zero a), Nat.add_zero]
  eachOperation b small := by
    rw [countP_snd_places someServer someOperation small]
    split
    · next further =>
      have rest : n * rounds + m - 1 = m * (n * rounds / m) + (n * rounds % m - 1 + m) := by
        have whole := Nat.div_add_mod (n * rounds) m
        omega
      have short : n * rounds % m - 1 < m :=
        Nat.lt_of_le_of_lt (Nat.sub_le _ 1) (Nat.mod_lt _ someOperation)
      refine .inr ?_
      rw [rest, Nat.mul_add_div someOperation, Nat.add_div_right _ someOperation,
        Nat.div_eq_of_lt short]
    · exact .inl rfl
  eachWindow _ inside _ smallA _ smallB :=
    count_window someServer someOperation smallA smallB inside
  allMeet := all_meet_iff someServer someOperation

/-- The requests of a plan that was made come from balanced places in the list of servers and in that
of operations.
-/
theorem plan_balanced {servers : List Url} {operations : List Operation} {rounds : Nat}
    {requests : List PlannedRequest} (someServer : servers ≠ []) (someOperation : operations ≠ [])
    (planned : plan servers rounds operations = .ok requests)
    : TakenFrom servers operations requests
        (places servers.length operations.length (servers.length * rounds))
      ∧ Balanced servers.length operations.length rounds
          (places servers.length operations.length (servers.length * rounds)) := by
  obtain ⟨-, count, each⟩ := (plan_ok_iff someServer someOperation).mp planned
  have positive : 0 < servers.length := List.length_pos_iff.mpr someServer
  have also : 0 < operations.length := List.length_pos_iff.mpr someOperation
  rw [← count]
  exact ⟨takenFrom_places positive also rfl rfl each, count ▸ balanced_places positive also rounds⟩

/-- Servers that share a divisor with the operations below. -/
def twoServers : List Url :=
  ["a", "b"].map fun name => .plain "http" (some (.domain name)) (.rooted [""])

def fourOperations : List Operation :=
  [.ofSet "a" (.text "b"), .ofIncrease [], .ofUpdate [], .ofBatch []]

/-- Two servers and four operations in six rounds: the second server never gets the first operation. -/
theorem plan_balanced_halves
    : twoServers ≠ [] ∧ fourOperations ≠ []
      ∧ ∃ requests, plan twoServers 6 fourOperations = .ok requests
        ∧ TakenFrom twoServers fourOperations requests (places 2 4 12)
        ∧ Balanced 2 4 6 (places 2 4 12)
        ∧ (1, 0) ∉ places 2 4 12 := by
  have someServer : twoServers ≠ [] := List.cons_ne_nil _ _
  have someOperation : fourOperations ≠ [] := List.cons_ne_nil _ _
  have planned : ∃ requests, plan twoServers 6 fourOperations = .ok requests := ⟨_, rfl⟩
  obtain ⟨requests, planned⟩ := planned
  obtain ⟨taken, balanced⟩ := plan_balanced someServer someOperation planned
  exact ⟨someServer, someOperation, requests, planned, taken, balanced, by decide⟩

end NodeTrial.Load
