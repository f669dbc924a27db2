import Meshctl.Foundation.Execution

namespace Meshctl.Execution.Model

/-! Runs that never end: a schedule gives the program an input at every time. -/

variable {State Input Observation : Type*} (model : Model State Input Observation)

/-- The state before the input at `time`. -/
def stateAt (start : State) (schedule : Nat → Input) : Nat → State
  | 0 => start
  | time + 1 =>
      (model.step (stateAt start schedule time) (schedule time)).nextState

variable {start : State} {schedule : Nat → Input}

@[simp] theorem stateAt_zero : model.stateAt start schedule 0 = start := rfl

theorem stateAt_succ (time : Nat) :
    model.stateAt start schedule (time + 1) =
      (model.step (model.stateAt start schedule time)
        (schedule time)).nextState := rfl

/-- What holds at the start and is kept by the inputs of the schedule holds at
all times. -/
theorem stateAt_invariant {Invariant : State → Prop} (initial : Invariant start)
    (preserved : ∀ state time, Invariant state →
      Invariant (model.step state (schedule time)).nextState) (time : Nat) :
    Invariant (model.stateAt start schedule time) := by
  induction time with
  | zero => exact initial
  | succ time induction => exact preserved _ time induction

/-- What no input of the schedule undoes stays. -/
theorem stateAt_stable {Stable : State → Prop}
    (preserved : ∀ state time, Stable state →
      Stable (model.step state (schedule time)).nextState)
    {time later : Nat} (order : time ≤ later)
    (now : Stable (model.stateAt start schedule time)) :
    Stable (model.stateAt start schedule later) := by
  induction later, order using Nat.le_induction with
  | base => exact now
  | succ later _ induction => exact preserved _ later induction

/-! ## Fair schedules -/

/-- Short of the goal, no input makes what remains to be done more, and one that
helps makes it less. An input that does neither leaves those that help. -/
structure Progress (Remains : Nat → State → Prop) (Goal : State → Prop)
    (Helps : State → Input → Prop) (state : State) (input : Input) : Prop where
  helped : ∀ amount, Remains amount state → Helps state input →
    Goal (model.step state input).nextState ∨
      ∃ less < amount, Remains less (model.step state input).nextState
  others : ∀ amount, Remains amount state → ¬Helps state input →
    Goal (model.step state input).nextState ∨
      (∃ less < amount, Remains less (model.step state input).nextState) ∨
      Remains amount (model.step state input).nextState ∧
        ∀ other, Helps state other → Helps (model.step state input).nextState other

/-- A schedule that always helps at some later time reaches the goal. -/
theorem reaches_of_progress {Remains : Nat → State → Prop} {Goal : State → Prop}
    {Helps : State → Input → Prop}
    (progress : ∀ time, model.Progress Remains Goal Helps
      (model.stateAt start schedule time) (schedule time))
    (fair : ∀ time amount, Remains amount (model.stateAt start schedule time) →
      ∃ later ≥ time,
        Helps (model.stateAt start schedule time) (schedule later))
    {time amount : Nat} (remains : Remains amount (model.stateAt start schedule time)) :
    ∃ later ≥ time, Goal (model.stateAt start schedule later) := by
  induction amount using Nat.strong_induction_on generalizing time with
  | _ amount less =>
      have lessLater {time smaller : Nat} (isLess : smaller < amount)
          (next : Remains smaller (model.stateAt start schedule (time + 1))) :
          ∃ later ≥ time, Goal (model.stateAt start schedule later) := by
        rcases less smaller isLess next with ⟨later, after, goal⟩
        exact ⟨later, Nat.le_of_succ_le after, goal⟩
      have now {time : Nat}
          (remains : Remains amount (model.stateAt start schedule time))
          (helps : Helps (model.stateAt start schedule time) (schedule time)) :
          ∃ later ≥ time, Goal (model.stateAt start schedule later) := by
        rcases (progress time).helped amount remains helps with
          goal | ⟨smaller, isLess, next⟩
        · exact ⟨time + 1, Nat.le_succ time, goal⟩
        · exact lessLater isLess next
      -- By induction on the time until the next input that helps.
      have waits (wait : Nat) {time : Nat}
          (remains : Remains amount (model.stateAt start schedule time))
          (helps : Helps (model.stateAt start schedule time)
            (schedule (time + wait))) :
          ∃ later ≥ time, Goal (model.stateAt start schedule later) := by
        induction wait generalizing time with
        | zero => exact now remains helps
        | succ wait induction =>
            by_cases already :
                Helps (model.stateAt start schedule time) (schedule time)
            · exact now remains already
            · rcases (progress time).others amount remains already with
                goal | ⟨smaller, isLess, next⟩ | ⟨same, kept⟩
              · exact ⟨time + 1, Nat.le_succ time, goal⟩
              · exact lessLater isLess next
              · have isLater : time + 1 + wait = time + (wait + 1) := by omega
                rcases @induction (time + 1) same
                  (isLater.symm ▸ kept _ helps) with ⟨later, after, goal⟩
                exact ⟨later, Nat.le_of_succ_le after, goal⟩
      rcases fair time amount remains with ⟨later, order, helps⟩
      rcases Nat.exists_eq_add_of_le order with ⟨wait, isLater⟩
      exact waits wait remains (isLater ▸ helps)

end Meshctl.Execution.Model
