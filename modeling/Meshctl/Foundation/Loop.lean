import Mathlib

namespace Meshctl.Loop

/-! Loops as a function from the state of one round to the state of the next, or
to nothing after the last round. A loop that ends has a finite list of rounds. -/

/-- The rounds of a loop from a state on; nothing follows the last one. -/
inductive Rounds {State : Type*} (next : State → Option State) :
    State → List State → Prop
  | last {state : State} (ends : next state = none) : Rounds next state [state]
  | more {state following : State} {rest : List State}
      (goesOn : next state = some following)
      (rounds : Rounds next following rest) :
      Rounds next state (state :: rest)

variable {State : Type*} {next : State → Option State}

/-- The rounds of a loop are determined by the state it starts in. -/
theorem Rounds.unique {state : State} {first second : List State}
    (left : Rounds next state first) (right : Rounds next state second) :
    first = second := by
  induction left generalizing second with
  | last ends =>
      cases right with
      | last _ => rfl
      | more goesOn _ => exact absurd (ends.symm.trans goesOn) (by simp)
  | more goesOn rounds induction =>
      cases right with
      | last ends => exact absurd (ends.symm.trans goesOn) (by simp)
      | more goes rest =>
          have same := Option.some.inj (goesOn.symm.trans goes)
          subst same
          rw [induction rest]

/-- The rule for loops that end: an invariant, a measure that each round but the
last makes smaller, and a postcondition that is built up from the last round
backwards. -/
theorem exists_rounds (Invariant : State → Prop) (measure : State → Nat)
    (Post : State → List State → Prop)
    (last : ∀ state, Invariant state → next state = none → Post state [state])
    (more : ∀ state following, Invariant state → next state = some following →
      Invariant following ∧ measure following < measure state ∧
        ∀ rest, Post following rest → Post state (state :: rest))
    {state : State} (holds : Invariant state) :
    ∃ rounds, Rounds next state rounds ∧ Post state rounds := by
  induction size : measure state using Nat.strong_induction_on
    generalizing state with
  | _ size induction =>
      subst size
      cases result : next state with
      | none => exact ⟨[state], .last result, last state holds result⟩
      | some following =>
          rcases more state following holds result with ⟨kept, less, post⟩
          rcases induction _ less kept rfl with ⟨rest, rounds, after⟩
          exact ⟨state :: rest, .more result rounds, post rest after⟩

/-- A loop goes on forever if an invariant makes every round go on. -/
theorem not_rounds (Invariant : State → Prop)
    (goesOn : ∀ state, Invariant state →
      ∃ following, next state = some following ∧ Invariant following)
    {state : State} (holds : Invariant state) (rounds : List State) :
    ¬Rounds next state rounds := by
  intro ended
  induction ended with
  | last ends =>
      rcases goesOn _ holds with ⟨following, result, _⟩
      exact absurd (ends.symm.trans result) (by simp)
  | more step _ induction =>
      rcases goesOn _ holds with ⟨following, result, kept⟩
      have same := Option.some.inj (step.symm.trans result)
      exact induction (same ▸ kept)

/-! ## The last round -/

/-- The state of the last round of a loop. -/
def Ends (next : State → Option State) (state final : State) : Prop :=
  ∃ rounds, Rounds next state rounds ∧ rounds.getLast? = some final

/-- The rule of `exists_rounds` for what the last round leaves. -/
theorem exists_ends (Invariant : State → Prop) (measure : State → Nat)
    (Post : State → State → Prop)
    (last : ∀ state, Invariant state → next state = none → Post state state)
    (more : ∀ state following, Invariant state → next state = some following →
      Invariant following ∧ measure following < measure state ∧
        ∀ final, Post following final → Post state final)
    {state : State} (holds : Invariant state) :
    ∃ final, Ends next state final ∧ Post state final := by
  have ended := exists_rounds Invariant measure
    (fun state rounds => ∃ final, rounds.getLast? = some final ∧
      Post state final)
    (fun state holds ends => ⟨state, rfl, last state holds ends⟩)
    (fun state following holds goesOn => by
      rcases more state following holds goesOn with ⟨kept, less, post⟩
      refine ⟨kept, less, ?_⟩
      rintro rest ⟨final, isLast, after⟩
      exact ⟨final, by simp [List.getLast?_cons, isLast], post final after⟩)
    holds
  rcases ended with ⟨rounds, ended, final, isLast, post⟩
  exact ⟨final, ⟨rounds, ended, isLast⟩, post⟩

theorem Ends.unique {state first second : State}
    (left : Ends next state first) (right : Ends next state second) :
    first = second := by
  rcases left with ⟨rounds, left, isFirst⟩
  rcases right with ⟨others, right, isSecond⟩
  rw [left.unique right] at isFirst
  exact Option.some.inj (isFirst.symm.trans isSecond)

/-! ## Running a loop -/

/-- The state of the last round, if there are no more than `fuel` rounds. -/
def run (next : State → Option State) : Nat → State → Option State
  | 0, _ => none
  | fuel + 1, state =>
      match next state with
      | none => some state
      | some following => run next fuel following

/-- The rule for loops that are run: with a measure below the fuel they end, and the
invariant still holds then. -/
theorem exists_run (Invariant : State → Prop) (measure : State → Nat)
    (more : ∀ state following, Invariant state → next state = some following →
      Invariant following ∧ measure following < measure state)
    {fuel : Nat} {state : State} (holds : Invariant state)
    (enough : measure state < fuel) :
    ∃ final, run next fuel state = some final ∧ Invariant final ∧ next final = none := by
  induction fuel generalizing state with
  | zero => exact absurd enough (Nat.not_lt_zero _)
  | succ fuel induction =>
      rw [run]
      cases result : next state with
      | none => exact ⟨state, rfl, holds, result⟩
      | some following =>
          rcases more state following holds result with ⟨kept, less⟩
          exact induction kept (by omega)

end Meshctl.Loop
