import Mathlib

/-! Histories that grow at their end, and what has to come before an event. -/

namespace Meshctl.History

variable {Event : Type*}

/-- Every event came when it was ready, which the events before it tell. -/
def Justified (Ready : List Event → Event → Prop) (history : List Event) :
    Prop :=
  ∀ before event after, history = before ++ event :: after → Ready before event

variable {Ready : List Event → Event → Prop}

theorem justified_nil : Justified Ready [] := by
  intro before event after split
  exact absurd split (by simp)

theorem Justified.concat {history : List Event} {event : Event}
    (justified : Justified Ready history) (ready : Ready history event) :
    Justified Ready (history ++ [event]) := by
  intro before other after split
  rcases List.eq_nil_or_concat after with isLast | ⟨earlier, last, isAfter⟩
  · rw [isLast] at split
    rcases List.append_inj' split rfl with ⟨sameHistory, sameEvent⟩
    rw [← sameHistory, ← List.singleton_inj.mp sameEvent]
    exact ready
  · rw [isAfter, List.concat_eq_append, ← List.cons_append,
      ← List.append_assoc] at split
    exact justified before other earlier (List.append_inj' split rfl).1

theorem justified_concat_iff {history : List Event} {event : Event} :
    Justified Ready (history ++ [event]) ↔
      Justified Ready history ∧ Ready history event := by
  constructor
  · intro justified
    refine ⟨fun before other after split => ?_, justified history event [] rfl⟩
    apply justified before other (after ++ [event])
    rw [split, List.append_assoc, List.cons_append]
  · rintro ⟨justified, ready⟩
    exact justified.concat ready

/-- Events that are always ready can be added. -/
theorem Justified.append {history events : List Event}
    (justified : Justified Ready history)
    (ready : ∀ event ∈ events, ∀ before, Ready before event) :
    Justified Ready (history ++ events) := by
  induction events generalizing history with
  | nil => simpa using justified
  | cons event events induction =>
      rw [← List.singleton_append, ← List.append_assoc]
      apply induction
      · exact justified.concat (ready event List.mem_cons_self history)
      · intro other member
        exact ready other (List.mem_cons_of_mem event member)

/-- The event at a place is ready by the events in front of it. -/
theorem Justified.getElem {history : List Event} {event : Event} {index : Nat}
    (justified : Justified Ready history)
    (isEvent : history[index]? = some event) :
    Ready (history.take index) event := by
  apply justified (history.take index) event (history.drop (index + 1))
  rcases List.getElem?_eq_some_iff.mp isEvent with ⟨inside, atIndex⟩
  rw [← atIndex, List.cons_getElem_drop_succ, List.take_append_drop]

end Meshctl.History
