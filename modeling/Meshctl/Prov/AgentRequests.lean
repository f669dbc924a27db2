import Meshctl.Prov.FinishedSession

/-! # Requests to the agent

The agent keeps one request. A request of the session is lost while another one
waits, and always when the callback of an answer makes it.
-/

namespace Meshctl.Prov

open Bytes Net Crypto Execution SessionAction

/-- The requests that a step makes wait for their answers behind it, with their
prompts. -/
def KeepsRequests (env : ProvEnv) (entry : ProvEntry) : Prop :=
  ∀ request shown, .ask request shown ∈ stepLog env entry.before entry.input →
    shown = true ∧ request.Waits entry.after.agent

/-- The user enters the public key of the device, its PDU is written at once, and
the method asks for something else. -/
structure AsksInAnswer (env : ProvEnv) (st : ProvState) (input : List Byte) :
    Prop where
  entered : input ≠ []
  answers : ∃ func buf, st.agent.prompt = some func ∧
    func.answer input st.agent.pending.len = some buf
  asked : st.agent.pending.cb = some .provOobPubKey
  session : ∃ prov, st.prov = some prov ∧ prov.keyOutOfBand = true ∧
    authRequest prov ≠ none
  sent : env.gatt st.writes = .sent

/-- No answer makes a request, and every other request finds the agent free. -/
structure Unhindered (env : ProvEnv) (entry : ProvEntry) : Prop where
  answers : ∀ input, entry.input = .answer input →
    ¬AsksInAnswer env entry.before input
  others : (∀ input, entry.input ≠ .answer input) →
    (∃ request shown, .ask request shown ∈
      stepLog env entry.before entry.input) →
    entry.before.agent.pending.type = .none ∧ entry.before.agent.prompt = none

theorem ask_mem_iff {log : List SessionAction} {request : AgentRequest}
    {shown : Bool} : .ask request shown ∈ log ↔ (request, shown) ∈ requests log := by
  rw [requests, List.mem_filterMap]
  constructor
  · exact fun member => ⟨_, member, rfl⟩
  · rintro ⟨action, member, isAsked⟩
    cases action with
    | ask request' shown' =>
        cases Option.some_inj.mp isAsked
        exact member
    | touch => cases isAsked
    | free => cases isAsked
    | send => cases isAsked

section Steps

variable {env : ProvEnv} {st : ProvState}

/-! ## Answers -/

theorem requests_provCompleteLog (st : ProvState) :
    requests (provCompleteLog st) = [] := by
  rw [provCompleteLog]
  cases st.prov with
  | none => rfl
  | some prov => rfl

theorem requests_provOutOobDoneLog (type : OobType) (buf : List Byte)
    (st : ProvState) : requests (provOutOobDoneLog env type buf st) = [] := by
  rw [provOutOobDoneLog.eq_def]
  cases st.prov with
  | none => rfl
  | some prov =>
      dsimp only
      cases oobOffset type buf.length with
      | some offset => simp [requests_provSendConfirmLog]
      | none =>
          cases type with
          | none => exact requests_provCompleteLog st
          | output => exact requests_provCompleteLog st
          | _ => simp [requests_provCompleteLog, requests_provSendConfirmLog]

/-- What is asked for, once the keys are exchanged. -/
theorem requests_provCalcEcdhLog {prov : ProvData} (live : st.prov = some prov) :
    requests (provCalcEcdhLog env st) ≠ [] ↔ authRequest prov ≠ none := by
  rw [provCalcEcdhLog_live live, provAuthenticateLog]
  have same : authRequest (exchanged env prov st).1 = authRequest prov := rfl
  rw [same]
  cases authRequest prov with
  | none =>
      dsimp only
      split
      · simp [requests_provSendConfirmLog]
      · simp [requests_provCompleteLog]
  | some request => simp [askLog, requests, asked]

theorem requests_provOobPubKeyLog (buf : List Byte) (st : ProvState) :
    requests (provOobPubKeyLog env buf st) ≠ [] ↔
      env.gatt st.writes = .sent ∧ ∃ prov, st.prov = some prov ∧
        prov.keyOutOfBand = true ∧ authRequest prov ≠ none := by
  rw [provOobPubKeyLog]
  cases live : st.prov with
  | none => simp
  | some prov =>
      dsimp only
      rw [requests_touch, provSendPubKeyLog]
      dsimp only [ProvState.note, ProvState.setProv]
      split
      next outOfBand =>
        rw [requests_touch, requests_gattWriteLog]
        dsimp only
        split
        next sent =>
          rw [requests_provCalcEcdhLog rfl]
          constructor
          · exact fun asks => ⟨sent, prov, rfl, outOfBand, asks⟩
          · rintro ⟨_, prov', isProv, _, asks⟩
            cases isProv
            exact asks
        next unsent => simp [unsent]
      next overAir =>
        rw [requests_touch, requests_gattWriteLog]
        simp only [requests_nil, ite_self, ne_eq, not_true_eq_false, false_iff]
        rintro ⟨_, prov', isProv, outOfBand, _⟩
        cases isProv
        exact overAir outOfBand

theorem requests_respondLog (func : PromptFunc) (input : List Byte)
    (st : ProvState) :
    requests (respondLog env func input st) ≠ [] ↔
      st.agent.pending.cb = some .provOobPubKey ∧
        ∃ buf, func.answer input st.agent.pending.len = some buf ∧
          requests (provOobPubKeyLog env buf st) ≠ [] := by
  have answered (type : OobType) (buf : List Byte) :
      requests (answerRequestLog env type buf st) ≠ [] ↔
        st.agent.pending.cb = some .provOobPubKey ∧
          requests (provOobPubKeyLog env buf st) ≠ [] := by
    rw [answerRequestLog]
    cases st.agent.pending.cb with
    | none => simp
    | some cb =>
        cases cb with
        | provOobPubKey => simp
        | provOutOobDone => simp [requests_provOutOobDoneLog]
  cases func with
  | responseHexadecimal =>
      simp only [respondLog, PromptFunc.answer]
      cases str2hex input st.agent.pending.len.toNat with
      | none => simp
      | some buf => simp [answered]
  | responseDecimal =>
      simp only [respondLog, PromptFunc.answer]
      split
      · simp
      · simp [answered]
  | responseAscii => simp [respondLog, PromptFunc.answer, answered]
  | responseOutput => simp [respondLog, PromptFunc.answer]

theorem userInput_asks_iff (input : List Byte) :
    requests (userInputLog env input st) ≠ [] ↔ AsksInAnswer env st input := by
  rw [userInputLog]
  split
  next isEmpty =>
    have nothing := List.isEmpty_iff.mp isEmpty
    exact iff_of_false (by simp) fun asks => asks.entered nothing
  next entered =>
  have nonempty : input ≠ [] := fun nothing => entered (List.isEmpty_iff.mpr nothing)
  rw [releasePromptLog]
  cases prompt : st.agent.prompt with
  | none =>
      refine iff_of_false (by simp) fun asks => ?_
      rcases asks.answers with ⟨func, buf, isPrompt, _⟩
      rw [prompt] at isPrompt
      cases isPrompt
  | some func =>
      dsimp only
      rw [requests_respondLog]
      constructor
      · rintro ⟨asked, buf, answers, asks⟩
        rcases (requests_provOobPubKeyLog _ _).mp asks with ⟨sent, session⟩
        exact ⟨nonempty, ⟨func, buf, prompt, answers⟩, asked, session, sent⟩
      · intro asks
        rcases asks.answers with ⟨func', buf, isPrompt, answers⟩
        cases Option.some_inj.mp (prompt.symm.trans isPrompt)
        exact ⟨asks.asked, buf, answers,
          (requests_provOobPubKeyLog _ _).mpr ⟨asks.sent, asks.session⟩⟩

/-! ## Exact conditions -/

/-- A request that the agent has forgotten does not wait. -/
theorem not_waits_empty (request : AgentRequest) {agent : Agent}
    (empty : agent.pending = emptyRequest) : ¬request.Waits agent := by
  rintro ⟨_, waits⟩
  cases request with
  | input type maxLen cb =>
      have isRequest : emptyRequest = ⟨type, maxLen, some cb⟩ := empty.symm.trans waits
      cases isRequest
  | output =>
      dsimp only at waits
      rw [empty] at waits
      cases waits

theorem asks_kept_iff {log : List SessionAction} {before after : Agent}
    (asks : Asks (requests log) before after) :
    (∀ request shown, .ask request shown ∈ log →
        shown = true ∧ request.Waits after) ↔
      ((∃ request shown, .ask request shown ∈ log) →
        before.pending.type = .none ∧ before.prompt = none) := by
  simp only [ask_mem_iff]
  generalize requests log = made at asks
  cases asks with
  | quiet before after => simp
  | asked request fits agent =>
      constructor
      · intro kept _
        exact (AgentRequest.shows_iff fits).mp (kept _ _ List.mem_cons_self).1
      · intro free request' shown member
        have shows := (AgentRequest.shows_iff fits).mpr
          (free ⟨_, _, List.mem_cons_self⟩)
        rcases List.mem_singleton.mp member with ⟨rfl, rfl⟩
        exact ⟨shows, AgentRequest.issue_shown shows⟩

/-- No request that an answer makes is kept. -/
theorem answer_keeps_iff (input : List Byte) :
    (∀ request shown, .ask request shown ∈ userInputLog env input st →
        shown = true ∧ request.Waits (userInput env input st).agent) ↔
      ¬AsksInAnswer env st input := by
  rw [← userInput_asks_iff, not_not]
  simp only [ask_mem_iff]
  constructor
  · intro kept
    rcases @userInput_requests env st input with silent | forgotten
    · exact silent
    · rw [List.eq_nil_iff_forall_not_mem]
      rintro ⟨request, shown⟩ member
      exact not_waits_empty request forgotten (kept request shown member).2
  · intro silent request shown member
    rw [silent] at member
    cases member

theorem keepsRequests_iff (held : Held st) (input : ProvInput) :
    KeepsRequests env ((provModel env).entry st input) ↔
      Unhindered env ((provModel env).entry st input) := by
  have step_iff (noAnswer : ∀ text, input ≠ .answer text)
      (asks : Asks (requests (stepLog env st input)) st.agent
        (provStep env st input).nextState.agent) :
      KeepsRequests env ((provModel env).entry st input) ↔
        Unhindered env ((provModel env).entry st input) := by
    refine (asks_kept_iff asks).trans ⟨fun others => ⟨?_, fun _ => others⟩, fun free => ?_⟩
    · exact fun text isAnswer => absurd isAnswer (noAnswer text)
    · exact free.others noAnswer
  cases input with
  | pdu buf len =>
      exact step_iff (fun _ => ProvInput.noConfusion) (provDataReady_logged held buf len).asks
  | answer text =>
      refine (answer_keeps_iff text).trans ⟨fun quiet => ⟨?_, ?_⟩, fun free => ?_⟩
      · rintro _ ⟨⟩
        exact quiet
      · exact fun noAnswer => absurd rfl (noAnswer text)
      · exact free.answers text rfl
  | writeReply index success =>
      apply step_iff (fun _ => ProvInput.noConfusion)
      by_cases late : Late st index success
      · have silent := (@acquireWriteReply_late env st held index success late).2.2.1
        rw [stepLog, silent]
        exact .quiet _ _
      · exact (acquireWriteReply_logged held late).asks
  | network net => exact step_iff (fun _ => ProvInput.noConfusion) (.quiet _ _)
  | secLevel level => exact step_iff (fun _ => ProvInput.noConfusion) (.quiet _ _)

end Steps

/-- The public key is given out of band, and so is the value to authenticate
with. -/
def outOfBandPdu : ProvInput :=
  .pdu [proxyProvisioningPdu, provCaps, 1, 0, 1, 1, 1, 0, 0, 0, 0, 0, 0] 13

end Meshctl.Prov
