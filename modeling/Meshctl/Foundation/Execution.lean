import Mathlib

namespace Meshctl.Execution

/-! Runs of a deterministic program that is driven by a list of inputs and
reports one observation for each of them. -/

structure StepResult (State Observation : Type*) where
  nextState : State
  observation : Observation

/-- One executed step: the state it started in, its input and its result. -/
structure Entry (State Input Observation : Type*) where
  before : State
  input : Input
  observation : Observation
  after : State

structure Model (State Input Observation : Type*) where
  step : State → Input → StepResult State Observation

namespace Model

variable {State Input Observation : Type*}

/-- The step that `model` takes on `input` from `state`. -/
@[simps]
def entry (model : Model State Input Observation) (state : State)
    (input : Input) : Entry State Input Observation where
  before := state
  input := input
  observation := (model.step state input).observation
  after := (model.step state input).nextState

/-- The steps of a run, oldest first. -/
def trace (model : Model State Input Observation) :
    State → List Input → List (Entry State Input Observation)
  | _, [] => []
  | state, input :: inputs =>
      model.entry state input ::
        model.trace (model.step state input).nextState inputs

/-- The state a run ends in. -/
def finalState (model : Model State Input Observation) :
    State → List Input → State
  | state, [] => state
  | state, input :: inputs =>
      model.finalState (model.step state input).nextState inputs

/-- The states of a run, the one it starts in included. -/
def reached (model : Model State Input Observation) (state : State)
    (inputs : List Input) : List State :=
  state :: (model.trace state inputs).map Entry.after

/-- A run reaches the state it ends in. -/
theorem finalState_mem_reached (model : Model State Input Observation)
    (state : State) (inputs : List Input) :
    model.finalState state inputs ∈ model.reached state inputs := by
  induction inputs generalizing state with
  | nil => exact List.mem_cons_self
  | cons input inputs induction => exact List.mem_cons_of_mem _ (induction _)

theorem forall_reached_iff (model : Model State Input Observation)
    (state : State) (inputs : List Input) (Property : State → Prop) :
    (∀ reached ∈ model.reached state inputs, Property reached) ↔
      Property state ∧
        ∀ entry ∈ model.trace state inputs, Property entry.after := by
  simp [reached]

@[simp] theorem trace_nil (model : Model State Input Observation)
    (state : State) : model.trace state [] = [] := rfl

@[simp] theorem trace_cons (model : Model State Input Observation)
    (state : State) (input : Input) (inputs : List Input) :
    model.trace state (input :: inputs) = model.entry state input ::
      model.trace (model.step state input).nextState inputs := rfl

@[simp] theorem finalState_nil (model : Model State Input Observation)
    (state : State) : model.finalState state [] = state := rfl

@[simp] theorem finalState_cons (model : Model State Input Observation)
    (state : State) (input : Input) (inputs : List Input) :
    model.finalState state (input :: inputs) =
      model.finalState (model.step state input).nextState inputs := rfl

@[simp] theorem trace_length (model : Model State Input Observation)
    (state : State) (inputs : List Input) :
    (model.trace state inputs).length = inputs.length := by
  induction inputs generalizing state with
  | nil => rfl
  | cons input inputs induction => simp [induction]

theorem trace_append (model : Model State Input Observation) (state : State)
    (first second : List Input) :
    model.trace state (first ++ second) = model.trace state first ++
      model.trace (model.finalState state first) second := by
  induction first generalizing state with
  | nil => rfl
  | cons input first induction => simp [induction]

/-- The step on the last input is part of the run. -/
theorem entry_mem_trace_concat (model : Model State Input Observation)
    (state : State) (inputs : List Input) (input : Input) :
    model.entry (model.finalState state inputs) input ∈
      model.trace state (inputs ++ [input]) := by
  rw [trace_append, trace_cons]
  exact List.mem_append_right _ List.mem_cons_self

theorem finalState_append (model : Model State Input Observation)
    (state : State) (first second : List Input) :
    model.finalState state (first ++ second) =
      model.finalState (model.finalState state first) second := by
  induction first generalizing state with
  | nil => rfl
  | cons input first induction => simp [induction]

/-- Every recorded step is a step of the model. -/
theorem entry_of_mem_trace (model : Model State Input Observation)
    {state : State} {inputs : List Input}
    {entry : Entry State Input Observation}
    (member : entry ∈ model.trace state inputs) :
    entry = model.entry entry.before entry.input := by
  induction inputs generalizing state with
  | nil => cases member
  | cons input inputs induction =>
      rcases List.mem_cons.mp member with equal | later
      · subst equal
        rfl
      · exact induction later

/-- A run takes the inputs that it is given. -/
theorem input_of_mem_trace (model : Model State Input Observation)
    {state : State} {inputs : List Input}
    {entry : Entry State Input Observation}
    (member : entry ∈ model.trace state inputs) : entry.input ∈ inputs := by
  induction inputs generalizing state with
  | nil => cases member
  | cons input inputs induction =>
      rcases List.mem_cons.mp member with equal | later
      · subst equal
        exact List.mem_cons_self
      · exact List.mem_cons_of_mem _ (induction later)

/-! ## Invariants -/

/-- An invariant that every step allowed by `Allowed` preserves holds before
and after every step of a run whose steps are all allowed. -/
theorem invariant_of_mem_trace (model : Model State Input Observation)
    (Invariant : State → Prop)
    (Allowed : Entry State Input Observation → Prop)
    (preserved : ∀ state input, Invariant state →
      Allowed (model.entry state input) →
      Invariant (model.step state input).nextState)
    {state : State} {inputs : List Input} (initial : Invariant state)
    (allowed : ∀ entry ∈ model.trace state inputs, Allowed entry)
    {entry : Entry State Input Observation}
    (member : entry ∈ model.trace state inputs) :
    Invariant entry.before ∧ Invariant entry.after := by
  induction inputs generalizing state with
  | nil => cases member
  | cons input inputs induction =>
      have next : Invariant (model.step state input).nextState :=
        preserved state input initial
          (allowed _ (List.mem_cons_self))
      rcases List.mem_cons.mp member with equal | later
      · subst equal
        exact ⟨initial, next⟩
      · exact induction next
          (fun entry inRest => allowed entry (List.mem_cons_of_mem _ inRest))
          later

/-- The same invariant holds in the state the run ends in. -/
theorem invariant_finalState (model : Model State Input Observation)
    (Invariant : State → Prop)
    (Allowed : Entry State Input Observation → Prop)
    (preserved : ∀ state input, Invariant state →
      Allowed (model.entry state input) →
      Invariant (model.step state input).nextState)
    {state : State} {inputs : List Input} (initial : Invariant state)
    (allowed : ∀ entry ∈ model.trace state inputs, Allowed entry) :
    Invariant (model.finalState state inputs) := by
  induction inputs generalizing state with
  | nil => exact initial
  | cons input inputs induction =>
      exact induction
        (preserved state input initial (allowed _ List.mem_cons_self))
        (fun entry inRest => allowed entry (List.mem_cons_of_mem _ inRest))

/-- What follows a step of a run is the run from where the step ended. -/
theorem exists_trace_of_split (model : Model State Input Observation)
    {state : State} {inputs : List Input}
    {before after : List (Entry State Input Observation)}
    {entry : Entry State Input Observation}
    (split : model.trace state inputs = before ++ entry :: after) :
    ∃ rest, after = model.trace entry.after rest := by
  induction before generalizing state inputs with
  | nil =>
      cases inputs with
      | nil => cases split
      | cons input rest =>
          rcases List.cons.inj split with ⟨isEntry, isAfter⟩
          rw [← isEntry]
          exact ⟨rest, isAfter.symm⟩
  | cons first before induction =>
      cases inputs with
      | nil => cases split
      | cons input rest => exact induction (List.cons.inj split).2

/-- An invariant that holds in the beginning holds in front of the first step that is not
allowed, if every allowed one preserves it. -/
theorem invariant_until (model : Model State Input Observation)
    (Invariant : State → Prop)
    (Allowed : Entry State Input Observation → Prop)
    (preserved : ∀ state input, Invariant state →
      Allowed (model.entry state input) →
      Invariant (model.step state input).nextState)
    {state : State} {inputs : List Input}
    {between after : List (Entry State Input Observation)}
    {later : Entry State Input Observation} (initial : Invariant state)
    (split : model.trace state inputs = between ++ later :: after)
    (allowed : ∀ entry ∈ between, Allowed entry) : Invariant later.before := by
  induction between generalizing state inputs with
  | nil =>
      cases inputs with
      | nil => cases split
      | cons input rest =>
          rw [← (List.cons.inj split).1]
          exact initial
  | cons first between induction =>
      rw [List.forall_mem_cons] at allowed
      cases inputs with
      | nil => cases split
      | cons input rest =>
          rcases List.cons.inj split with ⟨isFirst, isRest⟩
          exact induction (preserved state input initial (isFirst ▸ allowed.1)) isRest
            allowed.2

/-- Exact conditions for a property of every step. If, wherever the invariant
holds, a step has the property exactly when it meets the condition, then a run
has the property throughout exactly when it meets the condition throughout. -/
theorem forall_trace_iff (model : Model State Input Observation)
    (Invariant : State → Prop)
    (Condition Property : Entry State Input Observation → Prop)
    (preserved : ∀ state input, Invariant state →
      Condition (model.entry state input) →
      Invariant (model.step state input).nextState)
    (exact : ∀ state input, Invariant state →
      (Property (model.entry state input) ↔
        Condition (model.entry state input)))
    {state : State} (inputs : List Input) (initial : Invariant state) :
    (∀ entry ∈ model.trace state inputs, Property entry) ↔
      ∀ entry ∈ model.trace state inputs, Condition entry := by
  induction inputs generalizing state with
  | nil => simp
  | cons input inputs induction =>
      simp only [trace_cons, List.forall_mem_cons, exact state input initial]
      apply and_congr_right
      intro here
      exact induction (preserved state input initial here)

end Model

/-- A counted loop: what holds before the first round and is kept by every round
holds in the end. -/
theorem foldl_range_invariant {State : Type*} (step : State → Nat → State)
    (start : State) (count : Nat) (Invariant : Nat → State → Prop)
    (initial : Invariant 0 start)
    (preserved : ∀ round < count, ∀ state, Invariant round state →
      Invariant (round + 1) (step state round)) :
    Invariant count ((List.range count).foldl step start) := by
  induction count with
  | zero => exact initial
  | succ count induction =>
      rw [List.range_succ, List.foldl_append]
      apply preserved count (Nat.lt_succ_self _)
      exact induction fun round before =>
        preserved round (Nat.lt_succ_of_lt before)

end Meshctl.Execution
