import Meshctl.Prov.Session

/-! # What callbacks can do

Only PDUs of the device take a session past the confirmation. Everything that
the agent and the completions of writes set off may end it, or make it wait for
a key or a confirmation, but nothing else.
-/

namespace Meshctl.Prov

open Bytes Net Crypto

/-- An event that callbacks report. -/
@[simp] def ProvEvent.Ordinary : ProvEvent → Prop
  | .received _ => False
  | .sendProvData _ _ => False
  | .completed status => status ≠ 0
  | _ => True

/-- The session after a callback, if it is still there. -/
structure SessionKept (before after : ProvData) : Prop where
  meshConf : after.meshConf = before.meshConf
  state : after.state = before.state ∨ after.state = provPubKey ∨
    after.state = provConfirm

/-- The events that callbacks added to the history. A session does not end
without a word. -/
structure Added (before after : ProvState) (events : List ProvEvent) :
    Prop where
  history : after.history = before.history ++ events
  ordinary : ∀ event ∈ events, event.Ordinary
  reported : before.prov ≠ none → after.prov = none →
    ∃ status, .completed status ∈ events

structure Keeps (before after : ProvState) : Prop where
  node : after.node = before.node
  history : ∃ events, Added before after events
  session : ∀ prov', after.prov = some prov' →
    ∃ prov, before.prov = some prov ∧ SessionKept prov prov'

/-- Nothing that matters is changed. -/
theorem Keeps.of_same {before after : ProvState}
    (node : after.node = before.node) (history : after.history = before.history)
    (prov : after.prov = before.prov) : Keeps before after := by
  constructor
  · exact node
  · refine ⟨[], by simp [history], by simp, ?_⟩
    intro live ended
    exact absurd (prov.symm.trans ended) live
  · intro prov' same
    exact ⟨prov', prov ▸ same, rfl, Or.inl rfl⟩

theorem Keeps.refl (st : ProvState) : Keeps st st := .of_same rfl rfl rfl

theorem SessionKept.trans {first second third : ProvData}
    (left : SessionKept first second) (right : SessionKept second third) :
    SessionKept first third := by
  refine ⟨right.meshConf.trans left.meshConf, ?_⟩
  rcases right.state with same | moved
  · rw [same]
    exact left.state
  · exact Or.inr moved

theorem Added.append {first second third : ProvState}
    {events later : List ProvEvent} (left : Added first second events)
    (right : Added second third later) : Added first third (events ++ later) := by
  constructor
  · rw [right.history, left.history, List.append_assoc]
  · intro event member
    rcases List.mem_append.mp member with inEvents | inLater
    · exact left.ordinary event inEvents
    · exact right.ordinary event inLater
  · intro live ended
    by_cases middle : second.prov = none
    · rcases left.reported live middle with ⟨status, inEvents⟩
      exact ⟨status, List.mem_append_left later inEvents⟩
    · rcases right.reported middle ended with ⟨status, inLater⟩
      exact ⟨status, List.mem_append_right events inLater⟩

/-- A state behind `PROV_CONFIRM` is not the work of a callback. -/
theorem SessionKept.same_state {before after : ProvData}
    (kept : SessionKept before after) (later : provConfirm < after.state) :
    before.state = after.state := by
  rcases kept.state with same | waiting | confirming
  · exact same.symm
  · rw [waiting] at later
    exact absurd later (by decide)
  · rw [confirming] at later
    exact absurd later (by decide)

theorem Keeps.trans {first second third : ProvState}
    (left : Keeps first second) (right : Keeps second third) :
    Keeps first third := by
  constructor
  · exact right.node.trans left.node
  · rcases left.history with ⟨events, added⟩
    rcases right.history with ⟨later, addedLater⟩
    exact ⟨events ++ later, added.append addedLater⟩
  · intro prov'' isProv
    rcases right.session prov'' isProv with ⟨prov', isProv', kept'⟩
    rcases left.session prov' isProv' with ⟨prov, isProv, kept⟩
    exact ⟨prov, isProv, kept.trans kept'⟩

theorem keeps_note (event : ProvEvent) (ordinary : event.Ordinary)
    (st : ProvState) : Keeps st (st.note event) := by
  constructor
  · rfl
  · refine ⟨[event], rfl, ?_, fun live ended => absurd ended live⟩
    intro other member
    rw [List.mem_singleton.mp member]
    exact ordinary
  · exact fun prov same => ⟨prov, same, rfl, Or.inl rfl⟩

theorem keeps_agent (agent : Agent) (st : ProvState) :
    Keeps st { st with agent } := .of_same rfl rfl rfl

theorem keeps_setProv {st : ProvState} {prov prov' : ProvData}
    (live : st.prov = some prov) (kept : SessionKept prov prov') :
    Keeps st (st.setProv prov') := by
  constructor
  · rfl
  · refine ⟨[], by simp [ProvState.setProv], by simp, ?_⟩
    intro _ ended
    cases ended
  · intro other isOther
    rw [← Option.some_inj.mp isOther]
    exact ⟨prov, live, kept⟩

section Callbacks

variable (env : ProvEnv)

theorem gattWrite_keeps (pdu : List Byte) (cb : Option WriteCallback)
    {written : ProvState → ProvState} (keeps : ∀ st, Keeps st (written st))
    (st : ProvState) : Keeps st (gattWrite env pdu cb written st).2 := by
  have counted : Keeps st { st with writes := st.writes + 1 } :=
    .of_same rfl rfl rfl
  have wrote := counted.trans (keeps_note (.wrote pdu) trivial _)
  rw [gattWrite]
  cases env.gatt st.writes with
  | sent => exact wrote.trans (keeps _)
  | queued => exact wrote.trans (.of_same rfl rfl rfl)
  | refused => exact wrote

theorem gattWriteOnly_keeps (pdu : List Byte) (st : ProvState) :
    Keeps st (gattWriteOnly env pdu st).2 :=
  gattWrite_keeps env pdu none Keeps.refl st

theorem provComplete_keeps {status : Byte} (failed : status ≠ 0)
    (st : ProvState) : Keeps st (provComplete status st).2 := by
  rw [provComplete]
  cases st.prov with
  | none => exact Keeps.refl st
  | some prov =>
      dsimp only
      constructor
      · exact if_neg failed
      · refine ⟨[.completed status], rfl, ?_, ?_⟩
        · intro event member
          rw [List.mem_singleton.mp member]
          exact failed
        · exact fun _ _ => ⟨status, List.mem_singleton_self _⟩
      · intro prov' absurd
        cases absurd

theorem provAbort_keeps (st : ProvState) : Keeps st (provAbort st).2 :=
  provComplete_keeps (by decide) st

theorem provSendConfirm_keeps (st : ProvState) :
    Keeps st (provSendConfirm env st).2 := by
  rw [provSendConfirm]
  cases live : st.prov with
  | none => exact Keeps.refl st
  | some prov =>
      dsimp only
      have called := keeps_note (.sendConfirm prov.authMethod) trivial st
      have drawn : Keeps (st.note (.sendConfirm prov.authMethod))
          (randomBytes env 16 (st.note (.sendConfirm prov.authMethod))).2 :=
        .of_same rfl rfl rfl
      refine ((called.trans drawn).trans ?_).trans (gattWriteOnly_keeps env _ _)
      exact keeps_setProv live ⟨rfl, Or.inr (Or.inr rfl)⟩

theorem provOutOobDone_keeps (type : OobType) (buf : List Byte)
    (st : ProvState) : Keeps st (provOutOobDone env type buf st) := by
  rw [provOutOobDone]
  cases live : st.prov with
  | none => exact Keeps.refl st
  | some prov =>
      dsimp only
      cases oobOffset type buf.length with
      | none => exact provAbort_keeps st
      | some offset =>
          refine Keeps.trans ?_ (provSendConfirm_keeps env _)
          refine Keeps.trans ?_ (keeps_note (.oobValue buf) trivial _)
          exact keeps_setProv live ⟨rfl, Or.inl rfl⟩

theorem generateOob_same (action size : Byte) (st : ProvState) :
    ∃ randoms, (generateOob env action size st).2 = { st with randoms } := by
  rw [generateOob]
  split
  · exact ⟨_, rfl⟩
  · exact ⟨_, rfl⟩

theorem provAuthenticate_keeps {prov : ProvData} {st : ProvState}
    (live : st.prov = some prov) :
    Keeps st (provAuthenticate env prov st) := by
  rw [provAuthenticate]
  dsimp only
  split
  next => exact provSendConfirm_keeps env st
  next =>
    split
    next => exact .of_same rfl rfl rfl
    next =>
      split
      next => exact .of_same rfl rfl rfl
      next =>
        split
        next =>
          rcases @generateOob_same env prov.confIn.start.authAction
            prov.confIn.start.authSize st with ⟨randoms, same⟩
          rw [same]
          have drawn : Keeps st { st with randoms } := .of_same rfl rfl rfl
          apply drawn.trans
          refine Keeps.trans ?_ (keeps_agent _ _)
          refine Keeps.trans ?_ (keeps_note (.generated _) trivial _)
          exact keeps_setProv live ⟨rfl, Or.inl rfl⟩
        next => exact provAbort_keeps st

theorem provCalcEcdh_keeps (st : ProvState) : Keeps st (provCalcEcdh env st) := by
  rw [provCalcEcdh]
  cases live : st.prov with
  | none => exact Keeps.refl st
  | some prov =>
      dsimp only
      refine Keeps.trans ?_ (provAuthenticate_keeps env rfl)
      refine Keeps.trans ?_ (keeps_note (.ecdh _ _) trivial _)
      have exchanged : Keeps st { st with exchanges := st.exchanges + 1 } :=
        .of_same rfl rfl rfl
      exact exchanged.trans (keeps_setProv live ⟨rfl, Or.inl rfl⟩)

theorem provSendPubKey_keeps (st : ProvState) :
    Keeps st (provSendPubKey env st) := by
  rw [provSendPubKey]
  cases live : st.prov with
  | none => exact Keeps.refl st
  | some prov =>
      have waits : Keeps st (st.setProv { prov with state := provPubKey }) :=
        keeps_setProv live ⟨rfl, Or.inr (Or.inl rfl)⟩
      dsimp only
      split
      next =>
        exact waits.trans (gattWrite_keeps env _ _ (provCalcEcdh_keeps env) _)
      next => exact waits.trans (gattWriteOnly_keeps env _ _)

theorem provOobPubKey_keeps (buf : List Byte) (st : ProvState) :
    Keeps st (provOobPubKey env buf st) := by
  rw [provOobPubKey]
  cases live : st.prov with
  | none => exact Keeps.refl st
  | some prov =>
      dsimp only
      refine Keeps.trans ?_ (provSendPubKey_keeps env _)
      refine Keeps.trans ?_ (keeps_note (.oobPubKey _) trivial _)
      exact keeps_setProv live ⟨rfl, Or.inl rfl⟩

theorem provStartCmplt_keeps (st : ProvState) :
    Keeps st (provStartCmplt env st) := by
  rw [provStartCmplt]
  cases live : st.prov with
  | none => exact Keeps.refl st
  | some prov =>
      dsimp only
      split
      next => exact .of_same rfl rfl live.symm
      next => exact provSendPubKey_keeps env st

/-! ## Inputs that are no PDUs -/

theorem answerRequest_keeps (type : OobType) (buf : List Byte)
    (st : ProvState) : Keeps st (answerRequest env type buf st) := by
  cases asked : st.agent.pending.cb with
  | none =>
      simp only [answerRequest, asked]
      exact keeps_agent _ st
  | some cb =>
      cases cb with
      | provOobPubKey =>
          simp only [answerRequest, asked]
          exact (provOobPubKey_keeps env buf st).trans (keeps_agent _ _)
      | provOutOobDone =>
          simp only [answerRequest, asked]
          exact (provOutOobDone_keeps env type buf st).trans (keeps_agent _ _)

theorem releasePrompt_keeps (input : List Byte) (st : ProvState) :
    Keeps st (releasePrompt env input st) := by
  rw [releasePrompt]
  cases st.agent.prompt with
  | none => exact Keeps.refl st
  | some func =>
      have released : Keeps st
          { st with agent := { st.agent with prompt := none } } :=
        .of_same rfl rfl rfl
      apply released.trans
      cases func with
      | responseHexadecimal =>
          simp only [PromptFunc.respond]
          split
          · exact Keeps.refl _
          · exact answerRequest_keeps env _ _ _
      | responseDecimal =>
          simp only [PromptFunc.respond]
          split
          · exact Keeps.refl _
          · exact answerRequest_keeps env _ _ _
      | responseAscii => exact answerRequest_keeps env _ _ _
      | responseOutput => exact .of_same rfl rfl rfl

theorem agentOutputRequestCancel_keeps (st : ProvState) :
    Keeps st (agentOutputRequestCancel env st) := by
  rw [agentOutputRequestCancel]
  split
  · exact Keeps.refl st
  · exact (keeps_agent _ st).trans (releasePrompt_keeps env [] _)

theorem userInput_keeps (input : List Byte) (st : ProvState) :
    Keeps st (userInput env input st) := by
  rw [userInput]
  split
  · exact Keeps.refl st
  · exact releasePrompt_keeps env input st

theorem runCallback_keeps (cb : WriteCallback) (st : ProvState) :
    Keeps st (runCallback env cb st) := by
  cases cb with
  | provStartCmplt => exact provStartCmplt_keeps env st
  | provCalcEcdh => exact provCalcEcdh_keeps env st

theorem acquireWriteReply_keeps (index : Nat) (success : Bool)
    (st : ProvState) : Keeps st (acquireWriteReply env index success st) := by
  rw [acquireWriteReply]
  split
  next => exact Keeps.refl st
  next cb _ =>
    have replied : Keeps st
        { st with acquiring := st.acquiring.eraseIdx index } :=
      .of_same rfl rfl rfl
    dsimp only
    split
    next => exact replied.trans (runCallback_keeps env _ _)
    next => exact replied

/-- Only PDUs do more than callbacks. -/
theorem provStep_keeps (st : ProvState) (input : ProvInput)
    (notPdu : ∀ buf len, input ≠ .pdu buf len) :
    Keeps st (provStep env st input).nextState := by
  cases input with
  | pdu buf len => exact absurd rfl (notPdu buf len)
  | answer input => exact userInput_keeps env input st
  | writeReply index success => exact acquireWriteReply_keeps env index success st
  | network net => exact .of_same rfl rfl rfl
  | secLevel level =>
      rw [provStep]
      split
      · exact Keeps.refl st
      · exact .of_same rfl rfl rfl

end Callbacks

end Meshctl.Prov
