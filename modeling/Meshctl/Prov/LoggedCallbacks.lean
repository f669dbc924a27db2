import Meshctl.Prov.SessionLog

/-! # What the logs say

A log tells whether the session is over, and which request the agent was given.
Callbacks leave a session that is over alone.
-/

namespace Meshctl.Prov

open Bytes Net Crypto Execution SessionAction

/-! ## Requests -/

namespace AgentRequest

/-- A request that `prov.c` may make: the agent knows how to ask for it, and a
value for the record fits into it. -/
def Fits : AgentRequest → Prop
  | input type maxLen cb => (Agent.request type maxLen).isSome = true ∧
      (cb = .provOutOobDone → maxLen ≤ 16)
  | output => True

section Requests

variable {request : AgentRequest} {agent : Agent}

theorem Fits.func_isSome (fits : request.Fits) : request.func.isSome = true := by
  cases request with
  | input type maxLen cb => exact fits.1
  | output => rfl

theorem shows_iff (fits : request.Fits) : request.shows agent = true ↔
    agent.pending.type = .none ∧ agent.prompt = none := by
  simp [shows, fits.func_isSome]

/-- While the agent waits for something else, a request is lost. -/
theorem issue_refused (busy : agent.pending.type ≠ .none) :
    request.issue agent = agent := by
  cases request with
  | input type maxLen cb => exact if_pos busy
  | output => exact if_pos busy

theorem issue_shown (shown : request.shows agent = true) :
    request.Waits (request.issue agent) := by
  simp only [shows, Bool.and_eq_true, decide_eq_true_eq, Option.isNone_iff_eq_none]
    at shown
  rcases shown with ⟨⟨idle, known⟩, unprompted⟩
  cases request with
  | output => simp [Waits, issue, func, Agent.outputRequest, Agent.promptInput, idle,
      unprompted]
  | input type maxLen cb =>
      rcases Option.isSome_iff_exists.mp known with ⟨prompt, isPrompt⟩
      rw [func] at isPrompt
      simp [Waits, issue, func, Agent.inputRequest, Agent.promptInput, idle,
        unprompted, isPrompt]

/-- What becomes of the pending request. -/
theorem issue_pending (request : AgentRequest) (agent : Agent) :
    (request.issue agent).pending = agent.pending ∨
      agent.pending.type = .none ∧
        ((∃ type maxLen cb, request = input type maxLen cb ∧ type.HasCallback ∧
          (request.issue agent).pending = ⟨type, maxLen, some cb⟩) ∨
        (request.issue agent).pending = { agent.pending with type := .output }) := by
  by_cases idle : agent.pending.type = .none
  · cases request with
    | input type maxLen cb =>
        rcases inputRequest_pending agent type maxLen cb with same | ⟨callback, taken⟩
        · exact Or.inl same
        · exact Or.inr ⟨idle, Or.inl ⟨type, maxLen, cb, rfl, callback, taken⟩⟩
    | output =>
        refine Or.inr ⟨idle, Or.inr ?_⟩
        simp only [issue, Agent.outputRequest, Agent.promptInput, idle, ne_eq,
          not_true_eq_false, if_false]
        split <;> rfl
  · rw [issue_refused idle]
    exact Or.inl rfl

end Requests

end AgentRequest

/-- At most one request is made, and then the agent is what it makes of it. -/
inductive Asks : List (AgentRequest × Bool) → Agent → Agent → Prop where
  | quiet (before after : Agent) : Asks [] before after
  | asked (request : AgentRequest) (fits : request.Fits) (agent : Agent) :
      Asks [(request, request.shows agent)] agent (request.issue agent)

/-! ## The invariant -/

/-- Values that are asked for fit into the record, and nothing is called for a
request that asks for none. -/
structure Held (st : ProvState) : Prop where
  session : ∀ prov, st.prov = some prov → prov.confIn.start.authSize ≤ 8
  asked : st.agent.pending.cb = some .provOutOobDone → st.agent.pending.len ≤ 16
  unasked : ¬st.agent.pending.type.HasCallback → st.agent.pending.cb = none

section Changes

variable {st : ProvState}

theorem Held.of_same {before after : ProvState} (held : Held before)
    (prov : after.prov = before.prov) (agent : after.agent = before.agent) :
    Held after := by
  constructor
  · rw [prov]
    exact held.session
  · rw [agent]
    exact held.asked
  · rw [agent]
    exact held.unasked

theorem Held.of_live (held : Held st) {after : ProvState} {prov : ProvData}
    (live : after.prov = some prov) (agent : after.agent = st.agent)
    (small : prov.confIn.start.authSize ≤ 8) : Held after := by
  refine ⟨?_, agent ▸ held.asked, agent ▸ held.unasked⟩
  intro prov' isProv
  rw [← Option.some_inj.mp (live.symm.trans isProv)]
  exact small

theorem Held.setProv (held : Held st) {prov : ProvData}
    (small : prov.confIn.start.authSize ≤ 8) : Held (st.setProv prov) :=
  held.of_live rfl rfl small

theorem Held.note (held : Held st) (event : ProvEvent) : Held (st.note event) :=
  held.of_same rfl rfl

theorem Held.ended (held : Held st) {after : ProvState} (ended : after.prov = none)
    (agent : after.agent = st.agent) : Held after := by
  refine ⟨?_, agent ▸ held.asked, agent ▸ held.unasked⟩
  intro prov live
  rw [ended] at live
  cases live

/-- An agent that will call nothing of the session. -/
theorem Held.setAgent (held : Held st) {agent : Agent}
    (unasked : agent.pending.cb = none) : Held { st with agent } := by
  refine ⟨held.session, ?_, fun _ => unasked⟩
  intro asked
  rw [unasked] at asked
  cases asked

theorem Held.setPrompt (held : Held st) (prompt : Option PromptFunc) :
    Held { st with agent := { st.agent with prompt } } :=
  ⟨held.session, held.asked, held.unasked⟩

theorem Held.issue (held : Held st) {request : AgentRequest}
    (fits : request.Fits) :
    Held { st with agent := request.issue st.agent } := by
  rcases AgentRequest.issue_pending request st.agent with
    same | ⟨idle, ⟨type, maxLen, cb, isInput, callback, taken⟩ | taken⟩
  · refine ⟨held.session, ?_, ?_⟩
    · rw [same]
      exact held.asked
    · rw [same]
      exact held.unasked
  · subst isInput
    refine ⟨held.session, ?_, ?_⟩
    · rw [taken]
      exact fun isDone => fits.2 (Option.some_inj.mp isDone)
    · rw [taken]
      exact fun unasked => absurd callback unasked
  · have unasked : st.agent.pending.cb = none :=
      held.unasked (by simp [OobType.HasCallback, idle])
    exact held.setAgent (by rw [taken]; exact unasked)

end Changes

theorem setProv_live (st : ProvState) (prov : ProvData) :
    (st.setProv prov).prov ≠ none := Option.some_ne_none prov

/-! ## Logs -/

/-- The session ends with the free of the record, and is then left alone. -/
structure Settles (log : List SessionAction) (before after : ProvState) :
    Prop where
  held : Held after
  ends : after.prov = none ↔ .free ∈ log ∨ before.prov = none
  clean : log.Pairwise LeavesAlone
  idle : before.prov = none → ∀ action ∈ log, ¬action.Uses

structure Logged (log : List SessionAction) (before after : ProvState) :
    Prop extends Settles log before after where
  asks : Asks (requests log) before.agent after.agent

theorem Logged.refl {st : ProvState} (held : Held st) : Logged [] st st where
  held := held
  ends := by simp
  clean := List.Pairwise.nil
  idle := by simp
  asks := .quiet _ _

/-- What is neither a free nor a request may come first, while there is a
session. -/
theorem Logged.cons {log : List SessionAction} {before middle after : ProvState}
    (rest : Logged log middle after) {action : SessionAction} (uses : action.Uses)
    (live : before.prov ≠ none) (kept : middle.prov ≠ none)
    (agent : middle.agent = before.agent) :
    Logged (action :: log) before after := by
  have notFree : action ≠ .free := by
    rintro rfl
    exact uses
  have silent : action.asked = none := by
    cases action with
    | ask request shown => exact uses.elim
    | touch => rfl
    | send => rfl
    | free => rfl
  refine { held := rest.held, ends := ?_, clean := ?_, idle := ?_, asks := ?_ }
  · rw [rest.ends, List.mem_cons]
    simp [live, kept, notFree.symm]
  · exact List.pairwise_cons.mpr
      ⟨fun _ _ isFree => absurd isFree notFree, rest.clean⟩
  · exact fun ended => absurd ended live
  · rw [requests, List.filterMap_cons_none silent, ← agent]
    exact rest.asks

theorem Logged.touch {log : List SessionAction} {before middle after : ProvState}
    (rest : Logged log middle after) (live : before.prov ≠ none)
    (kept : middle.prov ≠ none) (agent : middle.agent = before.agent) :
    Logged (.touch :: log) before after :=
  rest.cons trivial live kept agent

/-- Changes that the log does not tell of. -/
theorem Settles.start {log : List SessionAction} {before middle after : ProvState}
    (rest : Settles log middle after)
    (prov : middle.prov = none ↔ before.prov = none) :
    Settles log before after where
  held := rest.held
  ends := by rw [rest.ends, prov]
  clean := rest.clean
  idle := fun ended => rest.idle (prov.mpr ended)

theorem Logged.start {log : List SessionAction} {before middle after : ProvState}
    (rest : Logged log middle after)
    (prov : middle.prov = none ↔ before.prov = none)
    (agent : middle.agent = before.agent) : Logged log before after where
  toSettles := rest.toSettles.start prov
  asks := agent ▸ rest.asks

section Functions

variable {env : ProvEnv} {st : ProvState}

/-- A request that is made behind other statements. -/
theorem askLog_logged {middle : ProvState} (live : st.prov ≠ none)
    (held : Held middle) (kept : middle.prov ≠ none)
    (agent : middle.agent = st.agent) {request : AgentRequest}
    (fits : request.Fits) :
    Logged (.touch :: askLog request st) st
      { middle with agent := request.issue middle.agent } := by
  have asks : Logged (askLog request middle) middle
      { middle with agent := request.issue middle.agent } :=
    { held := held.issue fits
      ends := by simp [askLog]
      clean := List.pairwise_singleton _ _
      idle := by simp [askLog, Uses]
      asks := .asked request fits middle.agent }
  rw [askLog, agent] at asks
  rw [agent]
  exact asks.touch live kept agent

/-- The outcome of a write does not depend on how the state came about. -/
theorem gattWriteLog_logged {middle : ProvState} (held : Held middle)
    (live : middle.prov ≠ none) (writes : middle.writes = st.writes)
    {pdu : List Byte} {cb : Option WriteCallback}
    {written : ProvState → ProvState} {writtenLog : List SessionAction}
    (sent : Logged writtenLog (started pdu middle) (written (started pdu middle))) :
    Logged (gattWriteLog env writtenLog st) middle
      (gattWrite env pdu cb written middle).2 := by
  have begun : Held (started pdu middle) := held.of_same rfl rfl
  rw [gattWriteLog, gattWrite, writes]
  cases env.gatt st.writes with
  | sent =>
      rw [started, writes] at sent
      exact sent.cons trivial live live rfl
  | queued =>
      have waits : Held { middle with
          writes := st.writes + 1, acquiring := middle.acquiring ++ [cb]
          history := middle.history ++ [.wrote pdu] } := begun.of_same rfl rfl
      exact (Logged.refl waits).start Iff.rfl rfl
  | refused =>
      have refused : Held { middle with
          writes := st.writes + 1, history := middle.history ++ [.wrote pdu] } :=
        begun.of_same rfl rfl
      exact (Logged.refl refused).start Iff.rfl rfl

/-- A PDU that is written behind other statements. -/
theorem gattWriteOnly_logged {middle : ProvState} (live : st.prov ≠ none)
    (held : Held middle) (kept : middle.prov ≠ none)
    (writes : middle.writes = st.writes) (agent : middle.agent = st.agent)
    (pdu : List Byte) :
    Logged (.touch :: gattWriteLog env [] st) st
      (gattWriteOnly env pdu middle).2 := by
  have begun : Held (started pdu middle) := held.of_same rfl rfl
  exact (gattWriteLog_logged held kept writes (Logged.refl begun)).touch live kept
    agent

theorem provComplete_logged (held : Held st) (status : Byte) :
    Logged (provCompleteLog st) st (provComplete status st).2 := by
  rw [provCompleteLog, provComplete]
  cases live : st.prov with
  | none => exact Logged.refl held
  | some prov =>
      have clean : [touch, free].Pairwise LeavesAlone := by decide
      exact
        { held := held.ended rfl rfl
          ends := by simp [ProvState.note]
          clean
          idle := by simp [live]
          asks := .quiet _ _ }

theorem provSendConfirm_logged (held : Held st) :
    Logged (provSendConfirmLog env st) st (provSendConfirm env st).2 := by
  rw [provSendConfirmLog, provSendConfirm]
  cases live : st.prov with
  | none => exact Logged.refl held
  | some prov =>
      dsimp only
      have alive : st.prov ≠ none := by simp [live]
      have drawn : Held (randomBytes env 16
          (st.note (.sendConfirm prov.authMethod))).2 := held.of_same rfl rfl
      apply gattWriteOnly_logged alive
      · exact drawn.setProv (held.session prov live)
      · exact setProv_live _ _
      · rfl
      · rfl

/-! ### Callbacks -/

theorem authRequest_fits {prov : ProvData}
    (small : prov.confIn.start.authSize ≤ 8) {request : AgentRequest}
    (isRequest : authRequest prov = some request) : request.Fits := by
  have fits : prov.confIn.start.authSize.setWidth 16 ≤ (16 : U16) := by
    bv_omega
  have asciiFits : ¬maxAsciiOobLen < prov.confIn.start.authSize.setWidth 16 :=
    BitVec.not_lt.mpr fits
  simp only [authRequest] at isRequest
  split at isRequest
  next =>
    rw [← Option.some_inj.mp isRequest]
    exact ⟨rfl, fun _ => BitVec.le_refl _⟩
  next =>
  split at isRequest
  next =>
    rw [← Option.some_inj.mp isRequest]
    refine ⟨?_, fun _ => fits⟩
    split
    next => rfl
    next =>
      simp only [Agent.request, if_neg asciiFits]
      rfl
  next =>
  split at isRequest
  next =>
    rw [← Option.some_inj.mp isRequest]
    exact trivial
  next => cases isRequest

/-- The method decides what is asked for. A value to be entered on the device is
generated first. -/
theorem provAuthenticate_logged {prov : ProvData} (held : Held st)
    (live : st.prov = some prov) :
    Logged (provAuthenticateLog env prov st) st (provAuthenticate env prov st) := by
  have alive : st.prov ≠ none := by simp [live]
  have fits := @authRequest_fits prov (held.session prov live)
  rw [provAuthenticate]
  dsimp only
  split
  next method =>
    have silent : authRequest prov = none := by
      rw [authRequest, method]
      rfl
    simp only [provAuthenticateLog, silent, if_pos method]
    exact (provSendConfirm_logged held).touch alive alive rfl
  next noneAsked =>
  split
  next method =>
    have asks : authRequest prov =
        some (.input .hexadecimal 16 .provOutOobDone) := if_pos method
    rw [provAuthenticateLog, asks]
    exact askLog_logged alive held alive rfl (fits asks)
  next notStatic =>
  split
  next method =>
    have asks : authRequest prov = some (.input
        (if prov.confIn.start.authAction ≤ 3 then .decimal else .ascii)
        (prov.confIn.start.authSize.setWidth 16) .provOutOobDone) := by
      rw [authRequest, if_neg notStatic, if_pos method]
    rw [provAuthenticateLog, asks]
    exact askLog_logged alive held alive rfl (fits asks)
  next notOutput =>
  split
  next method =>
    have asks : authRequest prov = some .output := by
      rw [authRequest, if_neg notStatic, if_neg notOutput, if_pos method]
    rw [provAuthenticateLog, asks]
    rcases @generateOob_same env prov.confIn.start.authAction
      prov.confIn.start.authSize st with ⟨randoms, same⟩
    rw [same]
    have drawn : Held { st with randoms } := held.of_same rfl rfl
    apply askLog_logged alive
    · refine Held.note (drawn.setProv ?_) _
      exact held.session prov live
    · exact Option.some_ne_none _
    · rfl
    · exact fits asks
  next notInput =>
    have silent : authRequest prov = none := by
      rw [authRequest, if_neg notStatic, if_neg notOutput, if_neg notInput]
    simp only [provAuthenticateLog, silent, if_neg noneAsked]
    exact (provComplete_logged held _).touch alive alive rfl

theorem provCalcEcdhLog_live {prov : ProvData} (live : st.prov = some prov) :
    provCalcEcdhLog env st = .touch ::
      provAuthenticateLog env (exchanged env prov st).1 (exchanged env prov st).2 := by
  simp only [provCalcEcdhLog, live]

theorem provCalcEcdh_live {prov : ProvData} (live : st.prov = some prov) :
    provCalcEcdh env st =
      provAuthenticate env (exchanged env prov st).1 (exchanged env prov st).2 := by
  simp only [provCalcEcdh, live]
  rfl

theorem provCalcEcdh_logged (held : Held st) (live : st.prov ≠ none) :
    Logged (provCalcEcdhLog env st) st (provCalcEcdh env st) := by
  rcases Option.ne_none_iff_exists'.mp live with ⟨prov, isProv⟩
  rw [provCalcEcdhLog_live isProv, provCalcEcdh_live isProv]
  have isKept : (exchanged env prov st).2.prov = some (exchanged env prov st).1 := rfl
  have kept : (exchanged env prov st).2.prov ≠ none := by simp [isKept]
  have known : Held (exchanged env prov st).2 := by
    refine ⟨?_, held.asked, held.unasked⟩
    intro prov' isProv'
    rw [← Option.some_inj.mp (isKept.symm.trans isProv')]
    exact held.session prov isProv
  exact (provAuthenticate_logged known isKept).touch live kept rfl

/-! ### Public keys -/

theorem provSendPubKey_logged (held : Held st) :
    Logged (provSendPubKeyLog env st) st (provSendPubKey env st) := by
  rw [provSendPubKeyLog, provSendPubKey]
  cases isProv : st.prov with
  | none => exact Logged.refl held
  | some prov =>
      dsimp only
      have live : st.prov ≠ none := by simp [isProv]
      have waiting : Held (st.setProv { prov with state := provPubKey }) :=
        held.setProv (held.session prov isProv)
      split
      next =>
        refine Logged.touch (gattWriteLog_logged waiting (setProv_live _ _) rfl ?_) live
          (setProv_live _ _) rfl
        apply provCalcEcdh_logged
        · exact waiting.of_same rfl rfl
        · exact Option.some_ne_none _
      next =>
        apply gattWriteOnly_logged live waiting
        · exact setProv_live _ _
        · rfl
        · rfl

theorem provOobPubKey_logged (held : Held st) (buf : List Byte) :
    Logged (provOobPubKeyLog env buf st) st (provOobPubKey env buf st) := by
  rw [provOobPubKeyLog, provOobPubKey]
  cases isProv : st.prov with
  | none => exact Logged.refl held
  | some prov =>
      dsimp only
      have live : st.prov ≠ none := by simp [isProv]
      refine Logged.touch (provSendPubKey_logged (Held.note (held.setProv ?_) _))
        live ?_ ?_
      · exact held.session prov isProv
      · exact Option.some_ne_none _
      · rfl

theorem provStartCmplt_logged (held : Held st) :
    Logged (provStartCmpltLog env st) st (provStartCmplt env st) := by
  rw [provStartCmpltLog, provStartCmplt]
  cases isProv : st.prov with
  | none => exact Logged.refl held
  | some prov =>
      dsimp only
      have live : st.prov ≠ none := by simp [isProv]
      split
      next =>
        have fits : (AgentRequest.input .hexadecimal 64 .provOobPubKey).Fits :=
          ⟨rfl, by simp⟩
        have known : Held { st with prov := some prov } :=
          held.of_same isProv.symm rfl
        exact askLog_logged live known (Option.some_ne_none prov) rfl fits
      next => exact (provSendPubKey_logged held).touch live live rfl

theorem runCallback_logged (held : Held st) (live : st.prov ≠ none)
    (cb : WriteCallback) :
    Logged (runCallbackLog env cb st) st (runCallback env cb st) := by
  cases cb with
  | provStartCmplt => exact provStartCmplt_logged held
  | provCalcEcdh => exact provCalcEcdh_logged held live

end Functions

end Meshctl.Prov
