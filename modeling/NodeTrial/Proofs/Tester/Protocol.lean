import NodeTrial.Proofs.Tester.Steps

/-! Protocols. A protocol is a row of stages, each an action or a check of the books. A history
follows it when the actions come in their order and every one of them was answered as the next stage
needs: the first one that was not ends the history, and so does a check that does not hold.
-/

namespace NodeTrial

/-- A stage of a protocol: an action, with what its answer after a history must be for the next
stage to come, or a check.
-/
inductive Stage where
  | act (action : Action) (passes : List Action → Prop)
  | check (holds : Prop)

/-- The actions of stages, all of them. -/
def actionsOf : List Stage → List Action
  | [] => []
  | .act action _ :: stages => action :: actionsOf stages
  | .check _ :: stages => actionsOf stages

theorem actionsOf_append (stages more : List Stage)
    : actionsOf (stages ++ more) = actionsOf stages ++ actionsOf more := by
  induction stages with
  | nil => rfl
  | cons stage stages ih =>
      cases stage with
      | act action passes => exact congrArg (action :: ·) ih
      | check holds => exact ih

/-- After a history some actions follow stages, to their end if they are complete. -/
inductive Follows : (complete : Bool) → List Stage → (past actions : List Action) → Prop where
  | done {past} : Follows true [] past []
  | stopped {stages past} : Follows false stages past []
  | failed {action passes stages past}
      : ¬ passes past → Follows false (.act action passes :: stages) past [action]
  | passed {complete action passes stages past actions}
      : passes past → Follows complete stages (past ++ [action]) actions →
        Follows complete (.act action passes :: stages) past (action :: actions)
  | held {complete holds stages past actions}
      : holds → Follows complete stages past actions →
        Follows complete (.check holds :: stages) past actions

namespace Follows

variable {complete : Bool} {stages more : List Stage} {past actions later : List Action}

/-- Actions that follow some stages to their end, and further ones after them; by induction on the
first.
-/
theorem append (first : Follows true stages past actions)
    (second : Follows complete more (past ++ actions) later)
    : Follows complete (stages ++ more) past (actions ++ later) := by
  generalize ended : true = before at first
  induction first with
  | done => rwa [List.append_nil] at second
  | stopped => cases ended
  | failed => cases ended
  | passed passes _ ih => exact .passed passes (ih (by rwa [List.append_assoc]) ended)
  | held holds _ ih => exact .held holds (ih second ended)

/-- Actions that stop somewhere among some stages, with any stages after these. -/
theorem extend (h : Follows false stages past actions) (more : List Stage)
    : Follows false (stages ++ more) past actions := by
  generalize cut : false = before at h
  induction h with
  | done => cases cut
  | stopped => exact .stopped
  | failed fails => exact .failed fails
  | passed passes _ ih => exact .passed passes (ih cut)
  | held holds _ ih => exact .held holds (ih cut)

/-- No action is skipped, repeated or moved: those that follow stages are the first ones of these.
-/
theorem isPrefix (h : Follows complete stages past actions) : actions <+: actionsOf stages := by
  induction h with
  | done => exact List.prefix_rfl
  | stopped => exact List.nil_prefix
  | failed => exact List.cons_prefix_cons.mpr ⟨rfl, List.nil_prefix⟩
  | passed _ _ ih => exact List.cons_prefix_cons.mpr ⟨rfl, ih⟩
  | held _ _ ih => exact ih

theorem eq_of_complete (h : Follows true stages past actions) : actions = actionsOf stages := by
  generalize ended : true = before at h
  induction h with
  | done => rfl
  | stopped => cases ended
  | failed => cases ended
  | passed _ _ ih => exact congrArg _ (ih ended)
  | held _ _ ih => exact ih ended

end Follows

-----------------------------------------------------------------------------------------
-- Steps that follow a protocol
-----------------------------------------------------------------------------------------

/-- From a state a step follows stages: to their end if it answers, and not beyond the first failure
if it fails.
-/
def Step.Tracks {α : Type} (step : Step α) (stages : List Stage) (t : Tester) : Prop :=
  ∃ actions,
    (step t).2.history = t.history ++ actions
    ∧ Follows (step t).1.isOk stages t.history actions

namespace Step.Tracks

variable {α β ε : Type} {first : Step α} {next : α → Step β} {stages more : List Stage}
variable {t s : Tester}

/-- Steps that do the same after one history follow the same stages. -/
theorem congr {step other : Step α} (same : step t = other s) (history : s.history = t.history)
    (h : other.Tracks stages s)
    : step.Tracks stages t := by
  unfold Tracks
  rw [same, ← history]
  exact h

/-- A step that does not act, whether it answers or fails. -/
theorem silent {step : Step α} (same : (step t).2.history = t.history) : step.Tracks [] t := by
  refine ⟨[], by rw [same, List.append_nil], ?_⟩
  cases (step t).1 with
  | error e => exact .stopped
  | ok value => exact .done

/-- A step that fails without any action, with any stages. -/
theorem refused {step : Step α} {e : TesterError} (failed : step t = (.error e, s))
    (same : s.history = t.history) (stages : List Stage)
    : step.Tracks stages t := by
  refine ⟨[], ?_, ?_⟩
  · rw [failed, same, List.append_nil]
  · rw [failed]
    exact .stopped

theorem perform (action : Action) (wrap : ε → TesterError) (answer : List Action → Except ε α)
    : (Tester.perform action wrap answer).Tracks
        [.act action fun past => ∃ value, answer past = .ok value] t := by
  refine ⟨[action], rfl, ?_⟩
  cases answered : answer t.history with
  | error e =>
      rw [Tester.perform_of_error answered]
      exact .failed fun ⟨_, ok⟩ => nomatch answered.symm.trans ok
  | ok value =>
      rw [Tester.perform_of_ok answered]
      exact .passed ⟨value, answered⟩ .done

/-- A failed step is not followed by any other. -/
theorem bind_error {e : TesterError} (head : first.Tracks stages t)
    (failed : first t = (.error e, s)) (more : List Stage)
    : (first >>= next).Tracks (stages ++ more) t := by
  obtain ⟨actions, history, follows⟩ := head
  rw [failed] at history follows
  refine ⟨actions, ?_, ?_⟩
  · rw [Step.bind_of_error failed]
    exact history
  · rw [Step.bind_of_error failed]
    exact follows.extend more

theorem bind_ok {value : α} (head : first.Tracks stages t) (done : first t = (.ok value, s))
    (tail : (next value).Tracks more s)
    : (first >>= next).Tracks (stages ++ more) t := by
  obtain ⟨actions, history, follows⟩ := head
  obtain ⟨later, ended, followsLater⟩ := tail
  rw [done] at history follows
  dsimp only at history
  rw [history] at ended followsLater
  refine ⟨actions ++ later, ?_, ?_⟩
  · rw [Step.bind_of_ok done, ended, List.append_assoc]
  · rw [Step.bind_of_ok done]
    exact follows.append followsLater

/-- Steps in a row follow the stages of both. -/
theorem bind (head : first.Tracks stages t)
    (tail : ∀ value s, first t = (.ok value, s) → (next value).Tracks more s)
    : (first >>= next).Tracks (stages ++ more) t := by
  rcases first.fails_or_answers t with ⟨e, s, failed⟩ | ⟨value, s, done⟩
  · exact head.bind_error failed more
  · exact head.bind_ok done (tail value s done)

/-- What a step makes sure of when it answers can be checked after it. -/
theorem checked {step : Step α} {holds : Prop} (tracks : step.Tracks stages t)
    (sure : ∀ value u, step t = (.ok value, u) → holds)
    : step.Tracks (stages ++ [.check holds]) t := by
  obtain ⟨actions, history, follows⟩ := tracks
  refine ⟨actions, history, ?_⟩
  rcases step.fails_or_answers t with ⟨e, u, failed⟩ | ⟨value, u, ended⟩
  · rw [failed] at follows ⊢
    exact follows.extend _
  · rw [ended] at follows ⊢
    have whole := follows.append (.held (sure value u ended) .done)
    rwa [List.append_nil] at whole

end Step.Tracks

end NodeTrial
