import Meshctl.Prov.Waiting

/-! # Confirmations are authenticated -/

namespace Meshctl.Prov

open Bytes Net Crypto Execution History

/-! ## Writing, confirming and ending -/

section Functions

variable {env : ProvEnv} {st : ProvState}

/-- The state in which the outcome of a write is known. -/
def started (pdu : List Byte) (st : ProvState) : ProvState :=
  ({ st with writes := st.writes + 1 } : ProvState).note (.wrote pdu)

theorem Orderly.started (orderly : Orderly st) (pdu : List Byte) :
    Orderly (started pdu st) := by
  have counted : Orderly { st with writes := st.writes + 1 } :=
    orderly.of_same rfl rfl rfl rfl
  exact counted.note (.wrote pdu) trivial (by simp)

theorem gattWrite_orderly (orderly : Orderly st) {pdu : List Byte}
    {cb : Option WriteCallback} {written : ProvState → ProvState}
    (may : ∀ callback, cb = some callback → MayQueue (started pdu st) callback)
    (sent : env.gatt st.writes = .sent → Orderly (written (started pdu st))) :
    Orderly (gattWrite env pdu cb written st).2 := by
  rw [gattWrite]
  cases outcome : env.gatt st.writes with
  | sent => exact sent outcome
  | queued => exact (orderly.started pdu).enqueue may
  | refused => exact orderly.started pdu

theorem gattWriteOnly_orderly (orderly : Orderly st) (pdu : List Byte) :
    Orderly (gattWriteOnly env pdu st).2 :=
  gattWrite_orderly orderly (by simp) fun _ => orderly.started pdu

theorem provComplete_orderly (orderly : Orderly st) (status : Byte) :
    Orderly (provComplete status st).2 := by
  rw [provComplete]
  cases st.prov with
  | none => exact orderly
  | some prov =>
      exact .of_ended (orderly.justified.concat trivial) orderly.unasked rfl

theorem provSendConfirm_orderly (orderly : Orderly st)
    (ready : ∀ prov, st.prov = some prov →
      Authenticated st.history prov.authMethod) :
    Orderly (provSendConfirm env st).2 := by
  rw [provSendConfirm]
  cases live : st.prov with
  | none => exact orderly
  | some prov =>
      dsimp only
      apply gattWriteOnly_orderly
      have called := orderly.note (.sendConfirm prov.authMethod)
        (ready prov live) (by simp)
      have drawn : Orderly
          (randomBytes env 16 (st.note (.sendConfirm prov.authMethod))).2 :=
        called.of_same rfl rfl rfl rfl
      exact drawn.setProv live rfl (Or.inr (by decide : provConfirm ≠ provInvite))

theorem provOutOobDone_orderly (orderly : Orderly st) (type : OobType)
    (buf : List Byte) (asked : st.agent.pending.cb = some .provOutOobDone) :
    Orderly (provOutOobDone env type buf st) := by
  rw [provOutOobDone]
  cases live : st.prov with
  | none => exact orderly
  | some prov =>
      dsimp only
      cases oobOffset type buf.length with
      | none => exact provComplete_orderly orderly provErrInvalidPdu
      | some offset =>
          dsimp only
          rcases (orderly.session prov live).asked asked with ⟨computed, method⟩
          have stored : Orderly (st.setProv
              { prov with randAuth := prov.randAuth.copy offset buf }) :=
            orderly.setProv live rfl (Or.inl rfl)
          apply provSendConfirm_orderly
            (stored.note (.oobValue buf) trivial (by simp))
          intro prov' live'
          rw [← Option.some_inj.mp live']
          constructor
          · exact computed.append _
          · exact fun _ => ⟨buf, List.mem_append_right _ List.mem_cons_self⟩
          · exact fun isInput => absurd isInput method
          · exact fun isInput => absurd isInput method

/-! ## The agent -/

theorem inputRequest_pending (agent : Agent) (type : OobType) (len : U16)
    (cb : InputCallback) :
    (agent.inputRequest type len cb).pending = agent.pending ∨
      type.HasCallback ∧
        (agent.inputRequest type len cb).pending = ⟨type, len, some cb⟩ := by
  rw [Agent.inputRequest]
  split
  next => exact Or.inl rfl
  next =>
    cases type with
    | none => exact Or.inl rfl
    | output => exact Or.inl rfl
    | _ =>
        split
        next => exact Or.inl rfl
        next =>
          refine Or.inr ⟨by simp [OobType.HasCallback], ?_⟩
          rfl

/-- A request whose callback may be called. -/
theorem Orderly.inputRequest (orderly : Orderly st) (type : OobType) (len : U16)
    {cb : InputCallback}
    (begun : ∀ prov, st.prov = some prov → prov.state ≠ provInvite)
    (may : cb = .provOutOobDone → ∀ prov, st.prov = some prov →
      SecretComputed st.history ∧ prov.authMethod ≠ provInputOob) :
    Orderly { st with agent := st.agent.inputRequest type len cb } := by
  rcases inputRequest_pending st.agent type len cb with same | ⟨hasCallback, asks⟩
  · refine ⟨orderly.justified, ?_, ?_⟩
    · rw [same]
      exact orderly.unasked
    · intro prov live
      have waits := orderly.session prov live
      refine ⟨?_, waits.queued, waits.generated, fun invite =>
        absurd invite (begun prov live)⟩
      rw [same]
      exact waits.asked
  · refine ⟨orderly.justified, ?_, ?_⟩
    · rw [asks]
      exact fun absurd => (absurd hasCallback).elim
    · intro prov live
      have waits := orderly.session prov live
      refine ⟨?_, waits.queued, waits.generated, fun invite =>
        absurd invite (begun prov live)⟩
      rw [asks]
      exact fun isDone => may (Option.some_inj.mp isDone) prov live

theorem outputRequest_unasked {agent : Agent}
    (unasked : ¬agent.pending.type.HasCallback → agent.pending.cb = none) :
    agent.outputRequest.pending = agent.pending ∨
      agent.outputRequest.pending.cb = none := by
  rw [Agent.outputRequest]
  split
  next => exact Or.inl rfl
  next isNone =>
    rw [not_not] at isNone
    have noCallback : agent.pending.cb = none :=
      unasked (by simp [OobType.HasCallback, isNone])
    right
    simp only [Agent.promptInput]
    split
    · exact noCallback
    · exact noCallback

theorem Orderly.outputRequest (orderly : Orderly st) :
    Orderly { st with agent := st.agent.outputRequest } := by
  rcases outputRequest_unasked orderly.unasked with same | unasked
  · refine ⟨orderly.justified, ?_, ?_⟩
    · rw [same]
      exact orderly.unasked
    · intro prov live
      have waits := orderly.session prov live
      refine ⟨?_, waits.queued, waits.generated, ?_⟩
      · rw [same]
        exact waits.asked
      · rw [same]
        exact waits.invited
  · exact orderly.setAgent unasked

/-! ## The shared secret -/

/-- The key exchange succeeds with this key. -/
def Accepted (env : ProvEnv) (st : ProvState) (prov : ProvData)
    (key : Buffer 64) : Prop :=
  (env.ecdhSharedSecret st.exchanges (swapKey key) prov.ephPrivKey
    prov.ecdhSecret).1 = true

/-- With a method that generates no value, nothing has to happen before the
secret counts. -/
theorem Orderly.note_ecdh (orderly : Orderly st) {prov : ProvData}
    (live : st.prov = some prov) (begun : prov.state ≠ provInvite)
    (method : prov.authMethod ≠ provInputOob) (key : Buffer 64) :
    Orderly (st.note (.ecdh key true)) := by
  refine ⟨orderly.justified.concat trivial, orderly.unasked, ?_⟩
  intro other isOther
  have waits := orderly.session other isOther
  have same : other = prov := Option.some_inj.mp (isOther.symm.trans live)
  rw [same]
  rw [same] at waits
  constructor
  · intro asked
    exact ⟨(waits.asked asked).1.append _, method⟩
  · intro queued
    rcases waits.queued queued with ⟨outOfBand, member⟩
    exact ⟨outOfBand, List.mem_append_left _ member⟩
  · exact fun isInput => absurd isInput method
  · exact fun invite => absurd invite begun

theorem Orderly.note_generated (orderly : Orderly st) {prov : ProvData}
    (live : st.prov = some prov) (begun : prov.state ≠ provInvite)
    (key : Buffer 64) (value : List Byte) (randAuth : Buffer 32) :
    Orderly (((st.note (.ecdh key true)).setProv { prov with randAuth }).note
      (.generated value)) := by
  have exchanged : Justified ConfirmsAuthenticated
      (st.history ++ [.ecdh key true]) := orderly.justified.concat trivial
  refine ⟨exchanged.concat trivial, orderly.unasked, ?_⟩
  intro other isOther
  rw [← Option.some_inj.mp isOther]
  have waits := orderly.session prov live
  constructor
  · intro asked
    rcases waits.asked asked with ⟨computed, method⟩
    exact ⟨(computed.append _).append _, method⟩
  · intro queued
    rcases waits.queued queued with ⟨outOfBand, member⟩
    exact ⟨outOfBand, List.mem_append_left _ (List.mem_append_left _ member)⟩
  · exact fun _ _ => ⟨value, List.mem_append_right _ List.mem_cons_self⟩
  · exact fun invite => absurd invite begun

/-- The request for the value of the user, behind the exchange of keys. -/
theorem Orderly.askForValue (orderly : Orderly st) {prov : ProvData}
    (live : st.prov = some prov) (begun : prov.state ≠ provInvite)
    (method : prov.authMethod ≠ provInputOob) {key : Buffer 64}
    (obtained : Obtained st.history key) (type : OobType) (len : U16) :
    Orderly { st.note (.ecdh key true) with
      agent := st.agent.inputRequest type len .provOutOobDone } := by
  have same (prov' : ProvData) (live' : st.prov = some prov') : prov' = prov :=
    Option.some_inj.mp (live'.symm.trans live)
  apply (orderly.note_ecdh live begun method key).inputRequest
  · intro prov' live'
    rw [same prov' live']
    exact begun
  · intro _ prov' live'
    rw [same prov' live']
    exact ⟨secretComputed_concat obtained, method⟩

/-- What follows the exchange of keys, by the method. -/
theorem provAuthenticate_orderly (orderly : Orderly st) {prov : ProvData}
    (live : st.prov = some prov) (begun : prov.state ≠ provInvite)
    {key : Buffer 64} (obtained : Obtained st.history key) :
    Orderly (provAuthenticate env prov (st.note (.ecdh key true))) := by
  rw [provAuthenticate]
  dsimp only
  split
  next method =>
    have other : prov.authMethod ≠ provInputOob := by
      rw [method]
      decide
    apply provSendConfirm_orderly (orderly.note_ecdh live begun other key)
    intro prov' live'
    rw [← Option.some_inj.mp (live.symm.trans live'), method]
    refine ⟨secretComputed_concat obtained, ?_, fun isInput => (by cases isInput),
      fun isInput => (by cases isInput)⟩
    rintro (isStatic | isOutput)
    · cases isStatic
    · cases isOutput
  next =>
  split
  next method =>
    have other : prov.authMethod ≠ provInputOob := by
      rw [method]
      decide
    exact orderly.askForValue live begun other obtained _ _
  next =>
  split
  next method =>
    have other : prov.authMethod ≠ provInputOob := by
      rw [method]
      decide
    exact orderly.askForValue live begun other obtained _ _
  next =>
  split
  next =>
    rcases @generateOob_same env prov.confIn.start.authAction
      prov.confIn.start.authSize (st.note (.ecdh key true)) with ⟨randoms, same⟩
    rw [same]
    have drawn : Orderly { st with randoms } := orderly.of_same rfl rfl rfl rfl
    exact (drawn.note_generated live begun key _ _).outputRequest
  next other =>
    exact provComplete_orderly (orderly.note_ecdh live begun other key) _

theorem provCalcEcdh_orderly (orderly : Orderly st)
    (may : ∀ prov, st.prov = some prov → prov.state ≠ provInvite ∧
      Obtained st.history prov.confIn.devPubKey ∧
      Accepted env st prov prov.confIn.devPubKey) :
    Orderly (provCalcEcdh env st) := by
  rw [provCalcEcdh]
  cases live : st.prov with
  | none => exact orderly
  | some prov =>
      dsimp only
      rcases may prov live with ⟨begun, obtained, accepted⟩
      rw [Accepted] at accepted
      rw [accepted]
      have exchanged : Orderly
          { st with prov := some prov, exchanges := st.exchanges + 1 } :=
        orderly.of_same rfl rfl rfl live.symm
      apply provAuthenticate_orderly
      · exact exchanged.setProv rfl rfl (Or.inl rfl)
      · rfl
      · exact begun
      · exact obtained

/-! ## Public keys -/

/-- The exchange that follows when the public key is written at once. -/
theorem provSendPubKey_orderly (orderly : Orderly st)
    (may : ∀ prov, st.prov = some prov → prov.keyOutOfBand = true →
      .oobPubKey prov.confIn.devPubKey ∈ st.history ∧
      (env.gatt st.writes = .sent →
        Accepted env st prov prov.confIn.devPubKey)) :
    Orderly (provSendPubKey env st) := by
  rw [provSendPubKey]
  cases live : st.prov with
  | none => exact orderly
  | some prov =>
      dsimp only
      have waiting : Orderly (st.setProv { prov with state := provPubKey }) :=
        orderly.setProv live rfl (Or.inr (by decide : provPubKey ≠ provInvite))
      split
      next outOfBand =>
        rcases may prov live outOfBand with ⟨member, accepted⟩
        apply gattWrite_orderly waiting
        · intro callback _
          constructor
          · intro prov' live'
            rw [← Option.some_inj.mp live']
            exact (by decide : provPubKey ≠ provInvite)
          · intro _ prov' live'
            rw [← Option.some_inj.mp live']
            exact ⟨outOfBand, List.mem_append_left _ member⟩
        · intro sent
          apply provCalcEcdh_orderly (waiting.started _)
          intro prov' live'
          rw [← Option.some_inj.mp live']
          refine ⟨(by decide : provPubKey ≠ provInvite), ?_, accepted sent⟩
          exact Or.inr (List.mem_append_left _ member)
      next => exact gattWriteOnly_orderly waiting _

theorem Orderly.setKey (orderly : Orderly st) {prov : ProvData}
    (live : st.prov = some prov) (begun : prov.state ≠ provInvite)
    (key : Buffer 64)
    (known : prov.keyOutOfBand = true → .oobPubKey key ∈ st.history) :
    Orderly (st.setProv
      { prov with confIn := { prov.confIn with devPubKey := key } }) := by
  refine ⟨orderly.justified, orderly.unasked, ?_⟩
  intro other isOther
  rw [← Option.some_inj.mp isOther]
  have waits := orderly.session prov live
  constructor
  · exact waits.asked
  · intro queued
    have outOfBand := (waits.queued queued).1
    exact ⟨outOfBand, known outOfBand⟩
  · exact waits.generated
  · exact fun invite => absurd invite begun

theorem provOobPubKey_orderly (orderly : Orderly st) (buf : List Byte)
    (may : ∀ prov, st.prov = some prov → prov.state ≠ provInvite ∧
      (prov.keyOutOfBand = true → env.gatt st.writes = .sent →
        Accepted env st prov (Buffer.read buf 0))) :
    Orderly (provOobPubKey env buf st) := by
  rw [provOobPubKey]
  cases live : st.prov with
  | none => exact orderly
  | some prov =>
      dsimp only
      rcases may prov live with ⟨begun, accepted⟩
      have entered := orderly.note (.oobPubKey (Buffer.read buf 0)) trivial (by simp)
      apply provSendPubKey_orderly (entered.setKey live begun _ fun _ =>
        List.mem_append_right _ List.mem_cons_self)
      intro prov' live' outOfBand
      rw [← Option.some_inj.mp live'] at outOfBand ⊢
      exact ⟨List.mem_append_right _ List.mem_cons_self, accepted outOfBand⟩

theorem provStartCmplt_orderly (orderly : Orderly st)
    (begun : ∀ prov, st.prov = some prov → prov.state ≠ provInvite) :
    Orderly (provStartCmplt env st) := by
  rw [provStartCmplt]
  cases live : st.prov with
  | none => exact orderly
  | some prov =>
      dsimp only
      split
      next =>
        have asking := @Orderly.inputRequest st orderly .hexadecimal 64
          .provOobPubKey begun (by simp)
        exact asking.of_same rfl rfl rfl live.symm
      next overAir =>
        apply provSendPubKey_orderly orderly
        intro prov' live' outOfBand
        rw [← Option.some_inj.mp (live.symm.trans live')] at outOfBand
        exact absurd outOfBand overAir

/-! ## Answers -/

/-- What the callback of a request is given for a line. -/
def PromptFunc.answer (func : PromptFunc) (input : List Byte) (len : U16) :
    Option (List Byte) :=
  match func with
  | .responseHexadecimal => str2hex input len.toNat
  | .responseDecimal =>
      if len.toNat < input.length then none else some (be32 (atoi input))
  | .responseAscii => some input
  | .responseOutput => none

theorem respond_cases (func : PromptFunc) (input : List Byte) :
    func.respond env input st = st ∨
      func.respond env input st =
        { st with agent := st.agent.resetInputRequest } ∨
      ∃ type buf, func.answer input st.agent.pending.len = some buf ∧
        func.respond env input st = answerRequest env type buf st := by
  cases func with
  | responseHexadecimal =>
      simp only [PromptFunc.respond, PromptFunc.answer]
      split
      next => exact Or.inl rfl
      next buf isBuf => exact Or.inr (Or.inr ⟨_, buf, isBuf, rfl⟩)
  | responseDecimal =>
      simp only [PromptFunc.respond, PromptFunc.answer]
      split
      next => exact Or.inl rfl
      next => exact Or.inr (Or.inr ⟨_, _, rfl, rfl⟩)
  | responseAscii => exact Or.inr (Or.inr ⟨_, _, rfl, rfl⟩)
  | responseOutput => exact Or.inr (Or.inl rfl)

/-- Every key that the agent may be asked for is accepted. -/
def AcceptsAnswer (env : ProvEnv) (st : ProvState) (buf : List Byte) : Prop :=
  st.agent.pending.cb = some .provOobPubKey → ∀ prov, st.prov = some prov →
    prov.keyOutOfBand = true → env.gatt st.writes = .sent →
    Accepted env st prov (Buffer.read buf 0)

theorem answerRequest_orderly (orderly : Orderly st) (type : OobType)
    {buf : List Byte} (accepts : AcceptsAnswer env st buf) :
    Orderly (answerRequest env type buf st) := by
  cases asked : st.agent.pending.cb with
  | none =>
      simp only [answerRequest, asked]
      exact orderly.setAgent rfl
  | some cb =>
      cases cb with
      | provOobPubKey =>
          simp only [answerRequest, asked]
          refine Orderly.setAgent (provOobPubKey_orderly orderly buf ?_) rfl
          intro prov live
          refine ⟨?_, accepts asked prov live⟩
          intro invite
          have unasked := ((orderly.session prov live).invited invite).1
          exact absurd (asked.symm.trans unasked) (by simp)
      | provOutOobDone =>
          simp only [answerRequest, asked]
          exact (provOutOobDone_orderly orderly type buf asked).setAgent rfl

theorem releasePrompt_orderly (orderly : Orderly st) (input : List Byte)
    (accepts : ∀ func buf, st.agent.prompt = some func →
      func.answer input st.agent.pending.len = some buf →
      AcceptsAnswer env st buf) :
    Orderly (releasePrompt env input st) := by
  rw [releasePrompt]
  cases prompt : st.agent.prompt with
  | none => exact orderly
  | some func =>
      dsimp only
      have released := orderly.setPrompt none
      rcases @respond_cases env { st with agent := { st.agent with prompt := none } }
        func input with same | reset | ⟨type, buf, isAnswer, answers⟩
      · rw [same]
        exact released
      · rw [reset]
        exact released.setAgent rfl
      · rw [answers]
        exact answerRequest_orderly released type (accepts func buf prompt isAnswer)

theorem userInput_orderly (orderly : Orderly st) (input : List Byte)
    (accepts : ∀ func buf, st.agent.prompt = some func →
      func.answer input st.agent.pending.len = some buf →
      AcceptsAnswer env st buf) :
    Orderly (userInput env input st) := by
  rw [userInput]
  split
  · exact orderly
  · exact releasePrompt_orderly orderly input accepts

/-- A request without a callback is forgotten without a call. -/
theorem releasePrompt_unasked (unasked : st.agent.pending.cb = none)
    (input : List Byte) :
    ∃ agent, agent.pending.cb = none ∧
      releasePrompt env input st = { st with agent } := by
  rw [releasePrompt]
  cases prompt : st.agent.prompt with
  | none => exact ⟨st.agent, unasked, rfl⟩
  | some func =>
      dsimp only
      rcases @respond_cases env { st with agent := { st.agent with prompt := none } }
        func input with same | reset | ⟨type, buf, _, answers⟩
      · rw [same]
        exact ⟨{ st.agent with prompt := none }, unasked, rfl⟩
      · rw [reset]
        exact ⟨_, rfl, rfl⟩
      · rw [answers]
        simp only [answerRequest, unasked]
        exact ⟨_, rfl, rfl⟩

theorem agentOutputRequestCancel_agent (orderly : Orderly st) :
    ∃ agent, agentOutputRequestCancel env st = { st with agent } ∧
      Orderly { st with agent } := by
  rw [agentOutputRequestCancel]
  split
  next => exact ⟨st.agent, rfl, orderly⟩
  next isOutput =>
    rw [not_not] at isOutput
    have unasked : st.agent.pending.cb = none :=
      orderly.unasked (by simp [OobType.HasCallback, isOutput])
    rcases @releasePrompt_unasked env { st with agent := { st.agent with
      pending := { st.agent.pending with type := .none } } } unasked []
      with ⟨agent, noCallback, released⟩
    exact ⟨agent, released, orderly.setAgent noCallback⟩

theorem acquireWriteReply_orderly (orderly : Orderly st) (index : Nat)
    (success : Bool)
    (accepts : st.acquiring[index]? = some (some .provCalcEcdh) →
      success = true → ∀ prov, st.prov = some prov →
      Accepted env st prov prov.confIn.devPubKey) :
    Orderly (acquireWriteReply env index success st) := by
  rw [acquireWriteReply]
  split
  next => exact orderly
  next cb isCb =>
    have answered : Orderly { st with acquiring := st.acquiring.eraseIdx index } :=
      orderly.setAcquiring fun _ member => List.mem_of_mem_eraseIdx member
    dsimp only
    split
    next callback =>
      have queued : some callback ∈ st.acquiring := List.mem_of_getElem? isCb
      have begun : ∀ prov, st.prov = some prov → prov.state ≠ provInvite := by
        intro prov live invite
        exact ((orderly.session prov live).invited invite).2.1 callback queued
      cases callback with
      | provStartCmplt => exact provStartCmplt_orderly answered begun
      | provCalcEcdh =>
          apply provCalcEcdh_orderly answered
          intro prov live
          have isKey := ((orderly.session prov live).queued queued).2
          exact ⟨begun prov live, Or.inr isKey, accepts isCb rfl prov live⟩
    next => exact answered

/-! ## PDUs -/

/-- The first PDU of the device starts everything else. -/
theorem Orderly.start (orderly : Orderly st) {prov : ProvData}
    (live : st.prov = some prov) (invite : prov.state = provInvite)
    (prov' : ProvData) : Orderly (st.setProv prov') := by
  refine ⟨orderly.justified, orderly.unasked, ?_⟩
  intro other isOther
  rw [← Option.some_inj.mp isOther]
  rcases (orderly.session prov live).invited invite with ⟨unasked, idle, early⟩
  constructor
  · exact fun asked => absurd (unasked.symm.trans asked) (by simp)
  · exact fun queued => absurd queued (idle .provCalcEcdh)
  · exact fun _ computed => absurd computed early
  · exact fun _ => ⟨unasked, idle, early⟩

theorem inviteReady_orderly (orderly : Orderly st) {prov : ProvData}
    (live : st.prov = some prov) (invite : prov.state = provInvite)
    (pdu : List Byte) : Orderly (inviteReady env prov pdu st).2 := by
  rw [inviteReady]
  dsimp only
  split
  next => exact provComplete_orderly orderly _
  next =>
  have saved := orderly.start live invite
  split
  next => exact provComplete_orderly (saved _) _
  next =>
  have obtained (pool : List U32) (prov' : ProvData) :
      Orderly ({ st with pool }.setProv prov') := (saved prov').of_same rfl rfl rfl rfl
  split
  next => exact provComplete_orderly (obtained _ _) _
  next =>
  split
  next => exact provComplete_orderly (obtained _ _) _
  next =>
    have begun (pool : List U32) (prov' : ProvData) (pdu : List Byte)
        (isStart : prov'.state = provStart) : ∀ prov'',
        (started pdu ({ st with pool }.setProv prov')).prov = some prov'' →
        prov''.state ≠ provInvite := by
      intro prov'' live''
      rw [← Option.some_inj.mp live'', isStart]
      decide
    apply gattWrite_orderly (obtained _ _)
    · intro callback isStart
      refine ⟨begun _ _ _ rfl, ?_⟩
      intro isCalc
      rw [isCalc] at isStart
      cases isStart
    · exact fun _ => provStartCmplt_orderly ((obtained _ _).started _) (begun _ _ _ rfl)

theorem provSendProvData_orderly (orderly : Orderly st) :
    Orderly (provSendProvData env st).2 := by
  rw [provSendProvData]
  cases live : st.prov with
  | none => exact orderly
  | some prov =>
      dsimp only
      have keyed : Orderly (st.setProv
          { prov with devKey := deviceKey env prov.ecdhSecret prov.salt }) :=
        orderly.setProv live rfl (Or.inl rfl)
      have called := keyed.note (.sendProvData prov.confKey prov.randAuth) trivial
        (by simp)
      split
      next => exact called
      next =>
        apply gattWriteOnly_orderly
        exact called.setProv rfl rfl (Or.inr (by decide : provData ≠ provInvite))

/-- Every PDU keeps the order, if a public key is accepted and the input on the
device was waited for. -/
theorem Handled.orderly {prov : ProvData} {pdu : List Byte} {next : ProvState}
    (handled : Handled env prov (st.note (.received pdu)) pdu next)
    (orderly : Orderly st) (live : st.prov = some prov)
    (accepted : ∀ key : Buffer 64, prov.state = provPubKey →
      prov.keyOutOfBand = false → pdu = provPubKey :: key.bytes →
      Accepted env st prov key)
    (inputWaited : prov.state = provPubKey → pdu = [provInpCmplt] →
      prov.authMethod = provInputOob ∧ SecretComputed st.history) :
    Orderly next := by
  have received := orderly.note (.received pdu) trivial (by simp)
  have noted : (st.note (.received pdu)).prov = some prov := live
  cases handled with
  | failed status => exact provComplete_orderly received status
  | rejected => exact provComplete_orderly received provErrInvalidPdu
  | invited caps invite => exact inviteReady_orderly received noted invite _
  | keyed key waits overAir =>
      have begun : prov.state ≠ provInvite := by
        rw [waits]
        decide
      apply provCalcEcdh_orderly
      · apply received.setKey noted begun key
        intro outOfBand
        exact absurd (overAir.symm.trans outOfBand) (by simp)
      · intro prov' live'
        rw [← Option.some_inj.mp live']
        refine ⟨begun, Or.inl ?_, accepted key waits overAir rfl⟩
        exact List.mem_append_right _ List.mem_cons_self
  | entered waits =>
      rcases inputWaited waits rfl with ⟨method, computed⟩
      rcases @agentOutputRequestCancel_agent env _ received with
        ⟨agent, cancels, cancelled⟩
      rw [cancels]
      apply provSendConfirm_orderly cancelled
      intro prov' live'
      rw [← Option.some_inj.mp (noted.symm.trans live'), method]
      rcases (orderly.session prov live).generated method computed with
        ⟨value, member⟩
      refine ⟨computed.append _, ?_, ?_, ?_⟩
      · rintro (isStatic | isOutput)
        · cases isStatic
        · cases isOutput
      · exact fun _ => ⟨value, List.mem_append_left _ member⟩
      · exact fun _ => List.mem_append_right _ List.mem_cons_self
  | confirmed conf waits =>
      apply gattWriteOnly_orderly
      exact received.setProv noted rfl (Or.inr (by decide : provRandom ≠ provInvite))
  | revealed random salt waits =>
      exact provSendProvData_orderly (received.setProv noted rfl (Or.inl rfl))
  | completed waits => exact provComplete_orderly received 0

end Functions

/-! ## Runs -/

/-- The key that a step exchanges with `ecdh_shared_secret`: a key from the air,
one that is entered and whose PDU is written at once, or one whose PDU waited to
be written. -/
inductive Exchanges (env : ProvEnv) (st : ProvState) (prov : ProvData) :
    ProvInput → Buffer 64 → Prop where
  | overAir {buf : List Byte} {len : Byte} {key : Buffer 64}
      (waits : prov.state = provPubKey) (overAir : prov.keyOutOfBand = false)
      (isKey : payload buf len = provPubKey :: key.bytes) :
      Exchanges env st prov (.pdu buf len) key
  | answered {input buf : List Byte} {func : PromptFunc}
      (prompt : st.agent.prompt = some func)
      (answers : func.answer input st.agent.pending.len = some buf)
      (asked : st.agent.pending.cb = some .provOobPubKey)
      (outOfBand : prov.keyOutOfBand = true) (sent : env.gatt st.writes = .sent) :
      Exchanges env st prov (.answer input) (Buffer.read buf 0)
  | written {index : Nat}
      (waited : st.acquiring[index]? = some (some .provCalcEcdh)) :
      Exchanges env st prov (.writeReply index true) prov.confIn.devPubKey

/-- Public keys are accepted, and the device reports an input only where one was
asked for after the exchange of keys. -/
structure InOrder (env : ProvEnv) (entry : ProvEntry) : Prop where
  accepted : ∀ prov key, entry.before.prov = some prov →
    Exchanges env entry.before prov entry.input key →
    Accepted env entry.before prov key
  inputWaited : ∀ prov buf len, entry.before.prov = some prov →
    prov.state = provPubKey → entry.input = .pdu buf len →
    payload buf len = [provInpCmplt] →
    prov.authMethod = provInputOob ∧ SecretComputed entry.before.history

section Runs

variable {env : ProvEnv}

theorem provStep_orderly (st : ProvState) (input : ProvInput)
    (orderly : Orderly st) (inOrder : InOrder env ((provModel env).entry st input)) :
    Orderly (provStep env st input).nextState := by
  cases input with
  | pdu buf len =>
      rcases provDataReady_cases env buf len st with same | ⟨prov, live, handled⟩
      · change Orderly (provDataReady env buf len st).2
        rw [same]
        exact orderly
      · apply handled.orderly orderly live
        · intro key waits overAir isKey
          exact inOrder.accepted prov key live (.overAir waits overAir isKey)
        · intro waits isInput
          exact inOrder.inputWaited prov buf len live waits rfl isInput
  | answer input =>
      apply userInput_orderly orderly
      intro func buf prompt answers asked prov live outOfBand sent
      exact inOrder.accepted prov _ live
        (.answered prompt answers asked outOfBand sent)
  | writeReply index success =>
      apply acquireWriteReply_orderly orderly
      intro waited succeeded prov live
      subst succeeded
      exact inOrder.accepted prov _ live (.written waited)
  | network net => exact orderly.of_same rfl rfl rfl rfl
  | secLevel level =>
      rw [provStep]
      split
      · exact orderly
      · exact orderly.of_same rfl rfl rfl rfl

theorem openedSession_orderly (netIdx : U16) (st : ProvState) :
    Orderly (openedSession env netIdx st) := by
  rw [openedSession, provOpen]
  dsimp only
  apply gattWriteOnly_orderly
  refine ⟨justified_nil, fun _ => rfl, ?_⟩
  intro prov live
  rw [← Option.some_inj.mp live]
  have early : ¬SecretComputed [] := by
    rintro ⟨early, key, late, isHistory, _⟩
    exact absurd isHistory (by simp)
  constructor
  · exact fun asked => (by cases asked)
  · exact fun queued => (by cases queued)
  · exact fun _ computed => absurd computed early
  · exact fun _ => ⟨rfl, fun cb queued => (by cases queued), early⟩

end Runs

/-- In a run whose steps are all in order, confirmations are sent only when the
session is authenticated. -/
theorem authentication_not_skipped (env : ProvEnv) (netIdx : U16)
    (st : ProvState) (inputs : List ProvInput)
    (inOrder : ∀ entry ∈ (provModel env).trace (openedSession env netIdx st) inputs,
      InOrder env entry) :
    Justified ConfirmsAuthenticated ((provModel env).finalState
      (openedSession env netIdx st) inputs).history := by
  have orderly : Orderly ((provModel env).finalState
      (openedSession env netIdx st) inputs) :=
    (provModel env).invariant_finalState Orderly (InOrder env)
      provStep_orderly (openedSession_orderly netIdx st) inOrder
  exact orderly.justified

/-! ### Sessions -/

/-- One element, and the values to enter and to authenticate with. -/
def capsPdu (staticType inputSize : Byte) : ProvInput :=
  .pdu ([proxyProvisioningPdu, provCaps, 1, 0, 1, 0, staticType, 0, 0, 0,
    inputSize, 0, 1]) 13

def keyPdu : ProvInput :=
  .pdu ([proxyProvisioningPdu, provPubKey] ++ List.replicate 64 0) 66

def inputPdu : ProvInput := .pdu [proxyProvisioningPdu, provInpCmplt] 2

/-- Where a session on the plain node is after some inputs. -/
def plainRun (inputs : List ProvInput) : ProvState :=
  (provModel plainProvEnv).finalState
    (openedSession plainProvEnv 0 plainProvState) inputs

/-- The value was shown when the device reports the input. -/
theorem plainRun_inputWaited {prov : ProvData}
    (live : (plainRun [capsPdu 0 1, keyPdu]).prov = some prov) :
    prov.authMethod = provInputOob ∧
      SecretComputed (plainRun [capsPdu 0 1, keyPdu]).history := by
  constructor
  · have method : (plainRun [capsPdu 0 1, keyPdu]).prov.map ProvData.authMethod =
        some provInputOob := by decide +kernel
    rw [live] at method
    exact Option.some_inj.mp method
  · refine ⟨(plainRun [capsPdu 0 1, keyPdu]).history.take 5, Buffer.zero,
      (plainRun [capsPdu 0 1, keyPdu]).history.drop 6, ?_, Or.inl ?_⟩
    · decide +kernel
    · decide +kernel

/-- A session with Input OOB, up to the confirmation. -/
theorem authentication_not_skipped_session :
    Justified ConfirmsAuthenticated
        (plainRun [capsPdu 0 1, keyPdu, inputPdu]).history ∧
      .sendConfirm provInputOob ∈
        (plainRun [capsPdu 0 1, keyPdu, inputPdu]).history := by
  constructor
  · apply authentication_not_skipped plainProvEnv 0 plainProvState
    simp only [Model.trace_cons, Model.trace_nil, List.forall_mem_cons]
    refine ⟨⟨fun _ _ _ _ => rfl, ?_⟩, ⟨fun _ _ _ _ => rfl, ?_⟩,
      ⟨fun _ _ _ _ => rfl, ?_⟩, by simp⟩
    · intro _ _ _ _ _ isInput isReport
      cases isInput
      exact absurd isReport (by decide)
    · intro _ _ _ _ _ isInput isReport
      cases isInput
      exact absurd isReport (by decide)
    · intro prov _ _ live _ _ _
      exact plainRun_inputWaited live
  · decide +kernel

def isExchange : ProvEvent → Bool
  | .ecdh _ _ => true
  | _ => false

theorem not_secretComputed {history : List ProvEvent}
    (unexchanged : history.any isExchange = false) : ¬SecretComputed history := by
  rintro ⟨early, key, late, isHistory, _⟩
  rw [isHistory] at unexchanged
  simp [isExchange] at unexchanged

/-- The device reports an input that no one asked for, and has not even sent its
public key. -/
theorem authentication_skipped :
    ¬∀ (env : ProvEnv) (netIdx : U16) (st : ProvState) (inputs : List ProvInput),
      Justified ConfirmsAuthenticated ((provModel env).finalState
        (openedSession env netIdx st) inputs).history := by
  intro always
  have confirms : (plainRun [capsPdu 1 0, inputPdu]).history[5]? =
      some (.sendConfirm provStaticOob) := by decide +kernel
  have justified : Justified ConfirmsAuthenticated
      (plainRun [capsPdu 1 0, inputPdu]).history :=
    always plainProvEnv 0 plainProvState [capsPdu 1 0, inputPdu]
  have unexchanged : ((plainRun [capsPdu 1 0, inputPdu]).history.take 5).any
      isExchange = false := by decide +kernel
  have authenticated : Authenticated
      ((plainRun [capsPdu 1 0, inputPdu]).history.take 5) provStaticOob :=
    justified.getElem confirms
  exact not_secretComputed unexchanged authenticated.computed

end Meshctl.Prov
