import Meshctl.Prov.LoggedSteps

/-! # A finished session is left alone

In the log of a run nothing uses the session behind the free of its record.
-/

namespace Meshctl.Prov

open Bytes Net Crypto Execution SessionAction

section Runs

variable {env : ProvEnv} {st : ProvState}

theorem openedSession_held (netIdx : U16) (st : ProvState) :
    Held (openedSession env netIdx st) := by
  have fresh : Held { st with
      prov := some (newSession netIdx), acquiring := [], history := []
      agent := { st.agent with pending := { st.agent.pending with cb := none } } } := by
    refine ⟨?_, fun asked => (by cases asked), fun _ => rfl⟩
    intro prov live
    rw [← Option.some_inj.mp live]
    exact (by decide : (0 : Byte) ≤ 8)
  exact (gattWriteOnly_logged (Option.some_ne_none _) fresh (Option.some_ne_none _) rfl rfl
    _).held

theorem openedSession_live (netIdx : U16) (st : ProvState) :
    (openedSession env netIdx st).prov ≠ none := by
  simp only [openedSession, provOpen, gattWriteOnly, gattWrite]
  cases env.gatt (ProvState.setProv _ _).writes with
  | sent => exact Option.some_ne_none _
  | queued => exact Option.some_ne_none _
  | refused => exact Option.some_ne_none _

/-- The end of a session is told, and the invariant is kept, whatever the step
disturbs. -/
theorem step_ends (held : Held st) (input : ProvInput) :
    Held (provStep env st input).nextState ∧
      ((provStep env st input).nextState.prov = none ↔
        .free ∈ stepLog env st input ∨ st.prov = none) := by
  by_cases disturbs : Disturbs st input
  · rcases @step_disturbs env st held input disturbs with ⟨known, ends, _⟩
    exact ⟨known, ends⟩
  · have settles := @step_settles env st held input disturbs
    exact ⟨settles.held, settles.ends⟩

theorem runLog_cons (env : ProvEnv) (st : ProvState) (input : ProvInput)
    (inputs : List ProvInput) :
    runLog env st (input :: inputs) = stepLog env st input ++
      runLog env (provStep env st input).nextState inputs := rfl

/-- Behind the free, or in a session that is over, the rest of a run does
nothing. -/
theorem leavesAlone_append {first rest : List SessionAction}
    {before middle : Option ProvData}
    (ends : middle = none ↔ .free ∈ first ∨ before = none) :
    ((first ++ rest).Pairwise LeavesAlone ∧
        (before = none → ∀ action ∈ first ++ rest, ¬action.Uses)) ↔
      (first.Pairwise LeavesAlone ∧
        (before = none → ∀ action ∈ first, ¬action.Uses)) ∧
      rest.Pairwise LeavesAlone ∧
        (middle = none → ∀ action ∈ rest, ¬action.Uses) := by
  rw [List.pairwise_append]
  constructor
  · rintro ⟨⟨firstClean, restClean, apart⟩, idle⟩
    have restIdle : middle = none → ∀ action ∈ rest, ¬action.Uses := by
      intro ended action inRest
      rcases ends.mp ended with freed | before
      · exact apart _ freed action inRest rfl
      · exact idle before action (List.mem_append_right first inRest)
    exact ⟨⟨firstClean, fun ended action inFirst =>
      idle ended action (List.mem_append_left rest inFirst)⟩, restClean, restIdle⟩
  · rintro ⟨⟨firstClean, firstIdle⟩, restClean, restIdle⟩
    refine ⟨⟨firstClean, restClean, ?_⟩, ?_⟩
    · intro action inFirst later inRest isFree
      rw [isFree] at inFirst
      exact restIdle (ends.mpr (Or.inl inFirst)) later inRest
    · intro ended action member
      rcases List.mem_append.mp member with inFirst | inRest
      · exact firstIdle ended action inFirst
      · exact restIdle (ends.mpr (Or.inr ended)) action inRest

/-- The log of a run is that of its first step and that of the rest. -/
theorem runLog_leavesAlone_iff (held : Held st) (inputs : List ProvInput) :
    ((runLog env st inputs).Pairwise LeavesAlone ∧
        (st.prov = none → ∀ action ∈ runLog env st inputs, ¬action.Uses)) ↔
      ∀ entry ∈ (provModel env).trace st inputs,
        ¬Disturbs entry.before entry.input := by
  induction inputs generalizing st with
  | nil => simp [runLog]
  | cons input inputs induction =>
      rcases @step_ends env st held input with ⟨known, ends⟩
      rw [runLog_cons, leavesAlone_append ends, step_rests_iff held, induction known,
        Model.trace_cons, List.forall_mem_cons]
      rfl

end Runs

/-- The device shows a text, which the user is asked for. -/
def textPdu : ProvInput :=
  .pdu [proxyProvisioningPdu, provCaps, 1, 0, 1, 0, 0, 8, 0, 0x10, 0, 0, 0] 13

end Meshctl.Prov
