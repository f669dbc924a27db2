import Meshctl.Prov.SessionProgress

/-! # Steps of a session with a device

What an answer of the user and each message of the device do to a session.
-/

namespace Meshctl.Prov

open Bytes Net Crypto

/-! ## Answers -/

/-- Where an answer takes a session, if it is one that the session waits for. -/
inductive Answered (s : Setting) : SessionStage → SessionStage → Prop where
  | key {stage : SessionStage} (authenticating : Authenticating s stage) :
      Answered s .keyAsked stage
  | value (given : s.start.authMethod ≠ provInputOob) :
      Answered s .keyed .confirming
  | wrong : Answered s .keyed (.failed 3)

section Answers

variable {s : Setting} {terms : Terms} {stage : SessionStage} {st : ProvState}
  {prov : ProvData}

/-- A session stays where it is, or an answer takes it further. The request is
forgotten. -/
def TakesAnswer (s : Setting) (terms : Terms) (stage : SessionStage)
    (st : ProvState) : Prop :=
  st.agent.pending.cb = none ∧
    (SessionIn s terms stage st ∨
      ∃ terms' stage', terms'.deviceSide = terms.deviceSide ∧ Answered s stage stage' ∧
        SessionIn s terms' stage' st)

theorem provOutOobDone_answered (sound : Sound s) (live : Live s terms 3 st)
    (isProv : st.prov = some prov) (keyed : Keyed s terms prov)
    (method : s.start.authMethod ≠ provNoOob)
    (given : s.start.authMethod ≠ provInputOob) (type : OobType) (buf : List Byte) :
    ∃ terms' stage', terms'.deviceSide = terms.deviceSide ∧ Answered s .keyed stage' ∧
      SessionIn s terms' stage' (provOutOobDone s.env type buf st) := by
  rw [provOutOobDone, isProv]
  dsimp only
  split
  next =>
    exact ⟨terms, .failed 3, rfl, .wrong,
      live.aborted (by rw [isProv]; exact Option.some_ne_none _) (.method method)⟩
  next offset _ =>
    have kept := keyed.setRandAuth (prov.randAuth.copy offset buf)
      (fun plain => absurd plain method) prov.state
    rcases provSendConfirm_confirming sound
      ((live.setProv { prov with randAuth := prov.randAuth.copy offset buf }).note
        (.oobValue buf) rfl rfl) rfl kept with ⟨random, auth, confirming, _⟩
    exact ⟨{ terms with random, auth }, .confirming, rfl, .value given, confirming⟩

/-- The key that the user gave is that of the device. -/
theorem provOobPubKey_answered (sound : Sound s) (live : Live s terms 2 st)
    (isProv : st.prov = some prov) (started : Started s terms Buffer.zero prov)
    (outOfBand : s.start.pubKey ≠ 0) {buf : List Byte}
    (given : ∀ key, .oobPubKey key ∈ (provOobPubKey s.env buf st).history →
      key = s.device.pubKey) :
    ∃ terms' stage', terms'.deviceSide = terms.deviceSide ∧ Answered s .keyAsked stage' ∧
      SessionIn s terms' stage' (provOobPubKey s.env buf st) := by
  have eq : provOobPubKey s.env buf st = provSendPubKey s.env ((st.setProv
      { prov with confIn := { prov.confIn with devPubKey := Buffer.read buf 0 } }).note
        (.oobPubKey (Buffer.read buf 0))) := by
    rw [provOobPubKey, isProv]
  rw [eq] at given ⊢
  have isKey : Buffer.read buf 0 = s.device.pubKey := by
    apply given
    rcases (provSendPubKey_keeps s.env ((st.setProv { prov with
      confIn := { prov.confIn with devPubKey := Buffer.read buf 0 } }).note
        (.oobPubKey (Buffer.read buf 0)))).history with ⟨events, added⟩
    rw [added.history]
    exact List.mem_append_left _ (List.mem_append_right _ List.mem_cons_self)
  rw [isKey]
  have withKey : Started s terms s.device.pubKey
      { prov with confIn := { prov.confIn with devPubKey := s.device.pubKey } } := by
    refine ⟨started.netIdx, started.newAddr, started.ephPrivKey, ?_, started.randAuth⟩
    rw [started.confIn]
  rcases provSendPubKey_proceeds sound
    ((live.setProv { prov with
      confIn := { prov.confIn with devPubKey := s.device.pubKey } }).note
        (.oobPubKey s.device.pubKey) rfl rfl) rfl withKey outOfBand with
    ⟨terms', stage', same, authenticating, reached, _⟩
  exact ⟨terms', stage', same, .key authenticating, reached⟩

/-- The callbacks belong to the stages that ask for them, or find no session. -/
theorem SessionIn.asked (reached : SessionIn s terms stage st)
    {cb : InputCallback} (asks : PromptFits s stage (some cb)) :
    (stage = .keyAsked ∧ cb = .provOobPubKey) ∨
      (stage = .keyed ∧ cb = .provOutOobDone ∧
        s.start.authMethod ≠ provInputOob) ∨ st.prov = none := by
  cases reached with
  | keyAsked =>
      cases cb with
      | provOobPubKey => exact Or.inl ⟨rfl, rfl⟩
      | provOutOobDone => exact absurd rfl asks
  | keyed =>
      cases cb with
      | provOobPubKey => exact absurd rfl asks.1
      | provOutOobDone => exact Or.inr (Or.inl ⟨rfl, rfl, asks.2 (by simp)⟩)
  | done _ isProv => exact Or.inr (Or.inr isProv)
  | failed _ isProv => exact Or.inr (Or.inr isProv)
  | _ => cases asks

theorem answerRequest_takes (sound : Sound s) (reached : SessionIn s terms stage st)
    (asks : PromptFits s stage st.agent.pending.cb) (type : OobType) {buf : List Byte}
    (given : s.start.pubKey ≠ 0 →
      ∀ key, .oobPubKey key ∈ (answerRequest s.env type buf st).history →
        key = s.device.pubKey) :
    TakesAnswer s terms stage (answerRequest s.env type buf st) := by
  refine ⟨rfl, ?_⟩
  cases isCb : st.agent.pending.cb with
  | none =>
      have same : answerRequest s.env type buf st =
          { st with agent := st.agent.resetInputRequest } := by
        simp only [answerRequest, isCb]
      rw [same]
      exact Or.inl (reached.setAgent _)
  | some cb =>
      rw [isCb] at asks
      rcases reached.asked asks with ⟨isStage, isKey⟩ | ⟨isStage, isValue, method⟩ |
        ended
      · have calls : answerRequest s.env type buf st =
            { provOobPubKey s.env buf st with
              agent := (provOobPubKey s.env buf st).agent.resetInputRequest } := by
          simp only [answerRequest, isCb, isKey]
        rw [calls] at given ⊢
        subst isStage
        rcases reached with _ | ⟨live, isProv, started, _, outOfBand⟩
        rcases provOobPubKey_answered sound live isProv started outOfBand
          (given outOfBand) with
          ⟨terms', stage', same, answered, reached⟩
        exact Or.inr ⟨terms', stage', same, answered, reached.setAgent _⟩
      · have calls : answerRequest s.env type buf st =
            { provOutOobDone s.env type buf st with
              agent := (provOutOobDone s.env type buf st).agent.resetInputRequest } := by
          simp only [answerRequest, isCb, isValue]
        rw [calls]
        subst isStage
        rcases reached with _ | _ | _ | ⟨live, isProv, keyed, _, needed⟩
        rcases provOutOobDone_answered sound live isProv keyed needed method type buf with
          ⟨terms', stage', same, answered, reached⟩
        exact Or.inr ⟨terms', stage', same, answered, reached.setAgent _⟩
      · have same : answerRequest s.env type buf st =
            { st with agent := st.agent.resetInputRequest } := by
          cases cb with
          | provOobPubKey => simp only [answerRequest, isCb, provOobPubKey, ended]
          | provOutOobDone => simp only [answerRequest, isCb, provOutOobDone, ended]
        rw [same]
        exact Or.inl (reached.setAgent _)

/-- A line of the user. One that is refused leaves the request. -/
theorem userInput_takes (sound : Sound s) (reached : SessionIn s terms stage st)
    (asks : PromptFits s stage st.agent.pending.cb) (input : List Byte)
    (given : s.start.pubKey ≠ 0 →
      ∀ key, .oobPubKey key ∈ (userInput s.env input st).history →
        key = s.device.pubKey) :
    SessionIn s terms stage (userInput s.env input st) ∧
        PromptFits s stage (userInput s.env input st).agent.pending.cb ∨
      TakesAnswer s terms stage (userInput s.env input st) := by
  rw [userInput] at given ⊢
  split
  next => exact Or.inl ⟨reached, asks⟩
  next nonempty =>
    rw [if_neg nonempty, releasePrompt] at given
    rw [releasePrompt]
    cases isPrompt : st.agent.prompt with
    | none => exact Or.inl ⟨reached, asks⟩
    | some func =>
        simp only [isPrompt] at given ⊢
        have released := reached.setAgent { st.agent with prompt := none }
        rcases @respond_cases s.env
          { st with agent := { st.agent with prompt := none } } func input with
          same | reset | ⟨type, buf, _, answers⟩
        · rw [same]
          exact Or.inl ⟨released, asks⟩
        · rw [reset]
          exact Or.inl ⟨released.setAgent _, promptFits_none s stage⟩
        · rw [answers] at given ⊢
          exact Or.inr (answerRequest_takes sound released asks type given)

end Answers

end Meshctl.Prov
