/-! Results: an answer or an error. Results that follow one another are taken apart here, so that
no proof about readers or steps opens them again.
-/

namespace NodeTrial

variable {α β ε κ : Type}

section Wrapping

variable {wrap : ε → κ}

@[simp]
theorem mapError_ok {value : α} : (Except.ok value).mapError wrap = .ok value :=
  rfl

@[simp]
theorem mapError_error {e : ε} : (Except.error e : Except ε α).mapError wrap = .error (wrap e) :=
  rfl

/-- Wrapping an error changes no answer. -/
theorem mapError_eq_ok {result : Except ε α} {value : α}
    : result.mapError wrap = .ok value ↔ result = .ok value := by
  cases result with
  | error e => simp
  | ok found => simp

theorem mapError_eq_error {result : Except ε α} {e : κ}
    : result.mapError wrap = .error e ↔ ∃ cause, result = .error cause ∧ wrap cause = e := by
  cases result with
  | error cause => simp
  | ok found => simp

end Wrapping

/-- A result followed by another one has an answer when both have. -/
theorem bind_ok_iff {first : Except ε α} {next : α → Except ε β} {value : β}
    : first >>= next = .ok value ↔ ∃ found, first = .ok found ∧ next found = .ok value := by
  cases first with
  | error e => simp [bind, Except.bind]
  | ok found => simp [bind, Except.bind]

theorem map_ok_iff {result : Except ε α} {f : α → β} {value : β}
    : result.map f = .ok value ↔ ∃ found, result = .ok found ∧ f found = value := by
  cases result with
  | error e => simp [Except.map]
  | ok found => simp [Except.map]

theorem map_error_iff {result : Except ε α} {f : α → β} {e : ε}
    : result.map f = .error e ↔ result = .error e := by
  cases result with
  | error e => simp [Except.map]
  | ok found => simp [Except.map]

/-- What comes after a check is reached when the check finds nothing wrong. -/
theorem check_ok_iff {wrong : Prop} [Decidable wrong] {e : ε} {rest : Except ε α} {value : α}
    : (if wrong then .error e else rest) = .ok value ↔ ¬ wrong ∧ rest = .ok value := by
  split
  · next found => exact iff_of_false nofun fun h => h.1 found
  · next passed => exact (and_iff_right passed).symm

/-- A check in front of further steps, as it stands among them. -/
theorem checked_ok_iff {wrong : Prop} [Decidable wrong] {e : ε} {next : PUnit → Except ε α}
    {value : α}
    : (if wrong then throw e >>= next else next ⟨⟩) = .ok value ↔ ¬ wrong ∧ next ⟨⟩ = .ok value :=
  check_ok_iff

theorem toOption_eq_some {result : Except ε α} {value : α}
    : result.toOption = some value ↔ result = .ok value := by
  cases result with
  | error e => simp [Except.toOption]
  | ok found => simp [Except.toOption]

theorem toOption_eq_none {result : Except ε α}
    : result.toOption = none ↔ ∃ e, result = .error e := by
  cases result with
  | error e => simp [Except.toOption]
  | ok found => simp [Except.toOption]

/-- The answers of a list are those of its elements, by induction on the list. -/
theorem mapM_ok_iff {f : α → Except ε β} {values : List α}
    : ∀ {answers : List β}, values.mapM f = .ok answers ↔ values.map f = answers.map .ok := by
  induction values with
  | nil =>
      intro answers
      cases answers <;> simp [pure, Except.pure]
  | cons value values ih =>
      intro answers
      rw [List.mapM_cons, bind_ok_iff]
      cases answers with
      | nil =>
          refine iff_of_false ?_ nofun
          rintro ⟨head, -, h⟩
          obtain ⟨tail, -, h⟩ := bind_ok_iff.mp h
          cases h
      | cons answer answers =>
          simp only [bind_ok_iff, List.map_cons, List.cons.injEq, ← ih]
          constructor
          · rintro ⟨head, first, tail, others, h⟩
            cases h
            exact ⟨first, others⟩
          · rintro ⟨first, others⟩
            exact ⟨answer, first, answers, others, rfl⟩

/-- Each answer of a list comes from one of its elements. -/
theorem mapM_ok_mem {f : α → Except ε β} {values : List α} {answers : List β}
    (h : values.mapM f = .ok answers)
    : ∀ answer ∈ answers, ∃ value ∈ values, f value = .ok answer := by
  intro answer member
  have found : .ok answer ∈ values.map f := by
    rw [mapM_ok_iff.mp h]
    exact List.mem_map_of_mem member
  exact List.mem_map.mp found

/-- Elements that all have answers have them together. -/
theorem mapM_ok_of_forall {f : α → Except ε β} {g : α → β} {values : List α}
    (each : ∀ value ∈ values, f value = .ok (g value))
    : values.mapM f = .ok (values.map g) := by
  rw [mapM_ok_iff, List.map_map]
  exact List.map_congr_left each

/-- The error of a list is that of its first element that has one, by induction on the list. -/
theorem mapM_error_iff {f : α → Except ε β} {values : List α} {e : ε}
    : values.mapM f = .error e
      ↔ ∃ before value after, values = before ++ value :: after
          ∧ (∀ earlier ∈ before, ∃ answer, f earlier = .ok answer)
          ∧ f value = .error e := by
  induction values with
  | nil =>
      refine iff_of_false nofun ?_
      rintro ⟨before, value, after, whole, -⟩
      simp at whole
  | cons value values ih =>
      rw [List.mapM_cons]
      cases first : f value with
      | error wrong =>
          constructor
          · intro h
            cases h
            exact ⟨[], value, values, rfl, nofun, first⟩
          · rintro ⟨before, offending, after, whole, fine, wrong⟩
            cases before with
            | nil =>
                obtain ⟨rfl, -⟩ := List.cons.inj whole
                obtain rfl := Except.error.inj (first.symm.trans wrong)
                rfl
            | cons earlier before =>
                obtain ⟨rfl, -⟩ := List.cons.inj whole
                obtain ⟨answer, found⟩ := fine value List.mem_cons_self
                rw [first] at found
                cases found
      | ok answer =>
          have rest : (Except.ok answer >>= fun head => values.mapM f >>= fun tail =>
                pure (head :: tail)) = .error e ↔ values.mapM f = .error e := by
            cases values.mapM f <;> simp [bind, Except.bind, pure, Except.pure]
          rw [rest, ih]
          constructor
          · rintro ⟨before, offending, after, rfl, fine, wrong⟩
            exact ⟨value :: before, offending, after, rfl,
              List.forall_mem_cons.mpr ⟨⟨answer, first⟩, fine⟩, wrong⟩
          · rintro ⟨before, offending, after, whole, fine, wrong⟩
            cases before with
            | nil =>
                obtain ⟨rfl, -⟩ := List.cons.inj whole
                rw [first] at wrong
                cases wrong
            | cons earlier before =>
                obtain ⟨-, rfl⟩ := List.cons.inj whole
                exact ⟨before, offending, after, rfl, (List.forall_mem_cons.mp fine).2, wrong⟩

/-- Elements that are left out have no part in the error of a list. -/
theorem mapM_filter_error_iff {f : α → Except ε β} {kept : α → Bool} {values : List α} {e : ε}
    : (values.filter kept).mapM f = .error e
      ↔ ∃ before value after, values = before ++ value :: after
          ∧ (∀ earlier ∈ before, kept earlier = true → ∃ answer, f earlier = .ok answer)
          ∧ kept value = true ∧ f value = .error e := by
  rw [mapM_error_iff]
  constructor
  · rintro ⟨before, value, after, place, fine, wrong⟩
    obtain ⟨first, rest, rfl, rfl, later⟩ := List.filter_eq_append_iff.mp place
    obtain ⟨dropped, after, rfl, out, inside, -⟩ := List.filter_eq_cons_iff.mp later
    refine ⟨first ++ dropped, value, after, by rw [List.append_assoc], ?_, inside, wrong⟩
    intro earlier member held
    rcases List.mem_append.mp member with early | late
    · exact fine earlier (List.mem_filter.mpr ⟨early, held⟩)
    · exact absurd held (out earlier late)
  · rintro ⟨before, value, after, rfl, fine, inside, wrong⟩
    refine ⟨before.filter kept, value, after.filter kept, ?_, fun earlier member => ?_, wrong⟩
    · rw [List.filter_append, List.filter_cons_of_pos inside]
    · obtain ⟨member, held⟩ := List.mem_filter.mp member
      exact fine earlier member held

/-- The answers of a list stand at the places of its elements. -/
theorem mapM_ok_iff_getElem? {f : α → Except ε β} {values : List α} {answers : List β}
    : values.mapM f = .ok answers
      ↔ answers.length = values.length
        ∧ ∀ (i : Nat) (answer : β), answers[i]? = some answer →
            ∃ value, values[i]? = some value ∧ f value = .ok answer := by
  rw [mapM_ok_iff]
  constructor
  · intro same
    refine ⟨by simpa using (congrArg List.length same).symm, fun i answer held => ?_⟩
    have found : (values.map f)[i]? = some (.ok answer) := by
      rw [same, List.getElem?_map, held]
      rfl
    rw [List.getElem?_map] at found
    exact Option.map_eq_some_iff.mp found
  · rintro ⟨count, each⟩
    refine List.ext_getElem (by simpa using count.symm) fun i _ small => ?_
    rw [List.length_map] at small
    obtain ⟨value, held, found⟩ := each i answers[i] (List.getElem?_eq_getElem small)
    obtain ⟨_, rfl⟩ := List.getElem?_eq_some_iff.mp held
    rw [List.getElem_map, List.getElem_map, found]

/-- The error of a list is that at the first place where there is one. -/
theorem mapM_error_iff_getElem? {f : α → Except ε β} {values : List α} {e : ε}
    : values.mapM f = .error e
      ↔ ∃ (i : Nat) (value : α), values[i]? = some value ∧ f value = .error e
          ∧ ∀ j < i, ∀ earlier, values[j]? = some earlier →
              ∃ answer, f earlier = .ok answer := by
  rw [mapM_error_iff]
  constructor
  · rintro ⟨before, value, after, rfl, fine, wrong⟩
    refine ⟨before.length, value, by simp, wrong, fun j early earlier held => ?_⟩
    rw [List.getElem?_append_left early] at held
    exact fine earlier (List.mem_of_getElem? held)
  · rintro ⟨i, value, held, wrong, fine⟩
    obtain ⟨small, rfl⟩ := List.getElem?_eq_some_iff.mp held
    refine ⟨values.take i, values[i], values.drop (i + 1), ?_, fun earlier member => ?_, wrong⟩
    · rw [← List.drop_eq_getElem_cons small, List.take_append_drop]
    · obtain ⟨j, found⟩ := List.mem_iff_getElem?.mp member
      rw [List.getElem?_take] at found
      split at found
      · next early => exact fine j early earlier found
      · cases found

/-- A list has its answers when every element has one. -/
theorem exists_mapM_iff {f : α → Except ε β} {values : List α}
    : (∃ answers, values.mapM f = .ok answers)
      ↔ ∀ value ∈ values, ∃ answer, f value = .ok answer := by
  constructor
  · rintro ⟨answers, h⟩ value member
    have found : f value ∈ answers.map .ok := by
      rw [← mapM_ok_iff.mp h]
      exact List.mem_map_of_mem member
    obtain ⟨answer, -, same⟩ := List.mem_map.mp found
    exact ⟨answer, same.symm⟩
  · intro each
    cases result : values.mapM f with
    | ok answers => exact ⟨answers, rfl⟩
    | error e =>
        obtain ⟨before, value, after, rfl, -, wrong⟩ := mapM_error_iff.mp result
        obtain ⟨answer, found⟩ := each value (by simp)
        rw [wrong] at found
        cases found

/-- The answers of a list are those that its elements have, in the same order. -/
theorem filterMap_of_mapM {f : α → Except ε β} {values : List α} {answers : List β}
    (h : values.mapM f = .ok answers)
    : values.filterMap (fun value => (f value).toOption) = answers := by
  have same := congrArg (List.filterMap Except.toOption) (mapM_ok_iff.mp h)
  simpa [List.filterMap_map, Function.comp_def, Except.toOption] using same

/-- Lists of the same elements have the same answers, each list in its own order. -/
theorem mapM_ok_perm {f : α → Except ε β} {values others : List α} {answers : List β}
    (same : others.Perm values) (h : values.mapM f = .ok answers)
    : ∃ more, others.mapM f = .ok more ∧ more.Perm answers := by
  have each := exists_mapM_iff.mp ⟨answers, h⟩
  obtain ⟨more, found⟩ := exists_mapM_iff.mpr fun value member =>
    each value (same.mem_iff.mp member)
  refine ⟨more, found, ?_⟩
  rw [← filterMap_of_mapM found, ← filterMap_of_mapM h]
  exact same.filterMap _

/-- A list of optional answers is there when every one of them is, by induction on the list. -/
theorem mapM_some_iff {f : α → Option β} {values : List α}
    : ∀ {answers : List β}, values.mapM f = some answers ↔ values.map f = answers.map some := by
  induction values with
  | nil =>
      intro answers
      cases answers <;> simp
  | cons value values ih =>
      intro answers
      rw [List.mapM_cons]
      cases answers with
      | nil => cases f value <;> cases values.mapM f <;> simp
      | cons answer answers =>
          simp only [List.map_cons, List.cons.injEq, ← ih]
          cases f value <;> cases values.mapM f <;> simp

/-- Each of the answers comes from an element of the list. -/
theorem mapM_some_mem {f : α → Option β} {values : List α} {answers : List β}
    (h : values.mapM f = some answers)
    : ∀ answer ∈ answers, ∃ value ∈ values, f value = some answer := by
  intro answer member
  have found : some answer ∈ values.map f := by
    rw [mapM_some_iff.mp h]
    exact List.mem_map_of_mem member
  exact List.mem_map.mp found

/-- What every step keeps, a run over a list keeps. -/
theorem foldlM_ok_invariant {σ : Type} {step : σ → α → Except ε σ} {Invariant : σ → Prop}
    {values : List α}
    : (∀ state, ∀ value ∈ values, ∀ next, step state value = .ok next → Invariant state →
        Invariant next) →
      ∀ {state final : σ}, values.foldlM step state = .ok final → Invariant state →
        Invariant final := by
  induction values with
  | nil =>
      intro _ state final h holds
      rw [List.foldlM_nil] at h
      exact Except.ok.inj h ▸ holds
  | cons value values ih =>
      intro keeps state final h holds
      rw [List.foldlM_cons] at h
      obtain ⟨next, taken, h⟩ := bind_ok_iff.mp h
      exact ih (fun state later member => keeps state later (List.mem_cons_of_mem value member)) h
        (keeps state value List.mem_cons_self next taken holds)

end NodeTrial
