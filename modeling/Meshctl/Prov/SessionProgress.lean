import Meshctl.Prov.Echo
import Meshctl.Prov.SessionStages

/-! # How a session with a device goes on -/

namespace Meshctl.Prov

open Bytes Net Crypto

/-- The session reaches one of some stages. Its agent asks for a value if it did
not call anything before. -/
def Proceeds (s : Setting) (terms : Terms) (cb : Option InputCallback)
    (Stages : SessionStage → Prop) (st : ProvState) : Prop :=
  ∃ terms' stage, terms'.deviceSide = terms.deviceSide ∧ Stages stage ∧
    SessionIn s terms' stage st ∧
    (st.agent.pending.cb = cb ∨
      stage = .keyed ∧ s.start.authMethod ≠ provInputOob ∧
        st.agent.pending.cb = some .provOutOobDone)

/-- Where a session is that has the keys of both sides. -/
inductive Authenticating (s : Setting) : SessionStage → Prop where
  | keyed : Authenticating s .keyed
  | confirming (given : s.start.authMethod ≠ provInputOob) :
      Authenticating s .confirming
  | failed : Authenticating s (.failed 3)

section Authentication

variable {s : Setting} {terms : Terms} {st : ProvState} {prov : ProvData}

theorem Keyed.setRandAuth (keyed : Keyed s terms prov) (randAuth : Buffer 32)
    (plain : s.start.authMethod = provNoOob →
      authValue randAuth = (Buffer.zero : AesBlock).bytes) (state : Byte) :
    Keyed s terms { prov with randAuth, state } :=
  ⟨keyed.netIdx, keyed.newAddr, keyed.confIn, keyed.ecdhSecret, keyed.salt,
    keyed.confKey, plain⟩

/-- The code that the session sends is that of its own random value. -/
theorem provSendConfirm_confirming (sound : Sound s) (live : Live s terms 3 st)
    (isProv : st.prov = some prov) (keyed : Keyed s terms prov) :
    ∃ random auth, SessionIn s { terms with random, auth } .confirming
        (provSendConfirm s.env st).2 ∧
      (provSendConfirm s.env st).2.agent = st.agent := by
  let random : AesBlock :=
    ⟨(List.range 16).map fun i => s.env.random (st.randoms + i), by simp⟩
  let auth : AesBlock :=
    ⟨authValue prov.randAuth, by simp [authValue, prov.randAuth.sized]⟩
  let randAuth := prov.randAuth.copy 0 random.bytes
  have isRandAuth : randAuth.bytes = random.bytes ++ auth.bytes :=
    copy_random prov.randAuth random
  have isConf : s.env.aesCmac prov.confKey randAuth.bytes = s.conf random auth := by
    rw [isRandAuth, keyed.confKey]
    rfl
  refine ⟨random, auth, ?_⟩
  have called : Live s terms 3 (st.note (.sendConfirm prov.authMethod)) :=
    live.note _ rfl rfl
  have drawn := (called.setRandoms (st.randoms + 16)).setProv
    { prov with randAuth, state := provConfirm }
  have ready := drawn.resettle { terms with random, auth } (Or.inl (by omega))
  have sends : provSendConfirm s.env st = (true, started
      (message provConfirm (s.conf random auth).bytes) (ProvState.setProv
        { st.note (.sendConfirm prov.authMethod) with randoms := st.randoms + 16 }
        { prov with randAuth, state := provConfirm })) := by
    rw [provSendConfirm, isProv]
    dsimp only
    rw [← isConf]
    exact gattWrite_sent sound ready.frame _ none id
  rw [sends]
  have kept := keyed.setRandAuth randAuth (fun plain =>
    (authValue_kept prov.randAuth random).trans (keyed.plain plain)) provConfirm
  exact ⟨.confirming (ready.started rfl) rfl
    ⟨kept.netIdx, kept.newAddr, kept.confIn, kept.ecdhSecret, kept.salt,
      kept.confKey, kept.plain⟩ rfl isRandAuth, rfl⟩

theorem Keyed.authMethod (keyed : Keyed s terms prov) :
    prov.authMethod = s.start.authMethod := by
  rw [ProvData.authMethod, keyed.confIn]
  rfl

theorem outputRequest_cb (agent : Agent) :
    agent.outputRequest.pending.cb = agent.pending.cb := by
  rw [Agent.outputRequest]
  split
  next => rfl
  next =>
    rw [Agent.promptInput]
    split
    next => rfl
    next => rfl

/-- A value is asked for, in the stage that waits for it. -/
theorem Keyed.asks (keyed : Keyed s terms prov) (live : Live s terms 3 st)
    (isProv : st.prov = some prov) (state : prov.state = provPubKey)
    (needed : s.start.authMethod ≠ provNoOob)
    (given : s.start.authMethod ≠ provInputOob) (type : OobType) (len : U16) :
    Proceeds s terms st.agent.pending.cb (Authenticating s)
      { st with agent := st.agent.inputRequest type len .provOutOobDone } := by
  refine ⟨terms, .keyed, rfl, .keyed,
    .keyed (live.setAgent _) isProv keyed state needed, ?_⟩
  rcases inputRequest_pending st.agent type len .provOutOobDone with
    same | ⟨_, asks⟩
  · exact Or.inl (congrArg InputRequest.cb same)
  · exact Or.inr ⟨rfl, given, congrArg InputRequest.cb asks⟩

theorem provAuthenticate_proceeds (sound : Sound s) (live : Live s terms 3 st)
    (isProv : st.prov = some prov) (keyed : Keyed s terms prov)
    (state : prov.state = provPubKey) :
    Proceeds s terms st.agent.pending.cb (Authenticating s)
      (provAuthenticate s.env prov st) := by
  have method := keyed.authMethod
  rw [provAuthenticate]
  dsimp only
  rw [method]
  split
  next isNone =>
    rcases provSendConfirm_confirming sound live isProv keyed with
      ⟨random, auth, confirming, sameAgent⟩
    exact ⟨{ terms with random, auth }, .confirming, rfl,
      .confirming (by rw [isNone]; decide), confirming, Or.inl (by rw [sameAgent])⟩
  next needed =>
  split
  next isStatic =>
    exact keyed.asks live isProv state needed (by rw [isStatic]; decide) _ _
  next =>
  split
  next isOutput =>
    exact keyed.asks live isProv state needed (by rw [isOutput]; decide) _ _
  next =>
  split
  next =>
    rcases generateOob_same s.env prov.confIn.start.authAction
      prov.confIn.start.authSize st with ⟨randoms, same⟩
    rcases isDrawn : generateOob s.env prov.confIn.start.authAction
      prov.confIn.start.authSize st with ⟨⟨offset, value⟩, drawn⟩
    rw [isDrawn] at same
    dsimp only at same ⊢
    rw [same]
    have noted := ((live.setRandoms randoms).setProv
      { prov with randAuth := prov.randAuth.copy offset value }).note
      (.generated value) rfl rfl
    refine ⟨terms, .keyed, rfl, .keyed, .keyed (noted.setAgent _) rfl
      (keyed.setRandAuth _ (fun plain => absurd plain needed) prov.state) state needed, ?_⟩
    exact Or.inl (outputRequest_cb st.agent)
  next =>
    exact ⟨terms, .failed 3, rfl, .failed,
      live.aborted (by rw [isProv]; exact Option.some_ne_none _) (.method needed),
      Or.inl (by rw [provAbort, provComplete, isProv]; rfl)⟩

/-! ## The exchange of keys -/

theorem provCalcEcdh_proceeds (sound : Sound s) (live : Live s terms 3 st)
    (isProv : st.prov = some prov)
    (started : Started s terms s.device.pubKey prov)
    (state : prov.state = provPubKey) :
    Proceeds s terms st.agent.pending.cb (Authenticating s)
      (provCalcEcdh s.env st) := by
  have isConfIn : prov.confIn = s.confIn := started.confIn
  have isSecret := sound.shares st.exchanges prov.ecdhSecret
  have isKey : prov.confIn.devPubKey = s.device.pubKey := congrArg _ isConfIn
  rw [← isKey, ← started.ephPrivKey] at isSecret
  rw [provCalcEcdh, isProv]
  dsimp only
  rw [isSecret]
  refine provAuthenticate_proceeds sound ?_ rfl ?_ state
  · exact ((live.setExchanges (st.exchanges + 1)).setProv _).note (.ecdh _ _) rfl rfl
  · constructor
    · exact started.netIdx
    · exact started.newAddr
    · exact isConfIn
    · rfl
    · exact congrArg (fun confIn => confSalt s.env confIn) isConfIn
    · exact congrArg (fun confIn => provConfKey s.env s.secret (confSalt s.env confIn))
        isConfIn
    · intro _
      rw [started.randAuth]
      rfl

theorem Started.keyOutOfBand {key : Buffer 64} (started : Started s terms key prov) :
    prov.keyOutOfBand = decide (s.start.pubKey ≠ 0) := by
  rw [ProvData.keyOutOfBand, started.confIn]
  rfl

theorem Started.setState {key : Buffer 64} (started : Started s terms key prov)
    (state : Byte) : Started s terms key { prov with state } :=
  ⟨started.netIdx, started.newAddr, started.ephPrivKey, started.confIn,
    started.randAuth⟩

/-- The message with the key of the session. -/
theorem Started.keyMessage {key : Buffer 64} (started : Started s terms key prov) :
    [proxyProvisioningPdu, provPubKey] ++ prov.confIn.prvPubKey.bytes =
      message provPubKey s.prvPubKey.bytes := by
  rw [started.confIn]
  rfl

theorem provSendPubKey_awaits (sound : Sound s) (live : Live s terms 2 st)
    (isProv : st.prov = some prov) (started : Started s terms Buffer.zero prov)
    (overAir : s.start.pubKey = 0) :
    SessionIn s terms .keyAwaited (provSendPubKey s.env st) ∧
      (provSendPubKey s.env st).agent = st.agent := by
  have inBand : prov.keyOutOfBand = false := by
    rw [started.keyOutOfBand, overAir]
    rfl
  have moved := live.setProv { prov with state := provPubKey }
  rw [provSendPubKey, isProv]
  dsimp only
  rw [inBand, if_neg Bool.false_ne_true, gattWriteOnly,
    gattWrite_sent sound moved.frame, started.keyMessage]
  exact ⟨.keyAwaited (moved.started rfl) rfl (started.setState provPubKey) rfl overAir,
    rfl⟩

theorem provSendPubKey_proceeds (sound : Sound s) (live : Live s terms 2 st)
    (isProv : st.prov = some prov)
    (started : Started s terms s.device.pubKey prov)
    (outOfBand : s.start.pubKey ≠ 0) :
    Proceeds s terms st.agent.pending.cb (Authenticating s)
      (provSendPubKey s.env st) := by
  have given : prov.keyOutOfBand = true := by
    rw [started.keyOutOfBand]
    exact decide_eq_true outOfBand
  have moved := live.setProv { prov with state := provPubKey }
  rw [provSendPubKey, isProv]
  dsimp only
  rw [given, if_pos rfl, gattWrite_sent sound moved.frame, started.keyMessage]
  exact provCalcEcdh_proceeds sound (moved.started rfl) rfl
    (started.setState provPubKey) rfl

/-! ## The start -/

/-- Where a session is that has sent its start. -/
inductive Starting : SessionStage → Prop where
  | keyAsked : Starting .keyAsked
  | keyAwaited : Starting .keyAwaited
  | failed : Starting (.failed 1)

theorem provStartCmplt_starts (sound : Sound s) (live : Live s terms 2 st)
    (isProv : st.prov = some prov) (started : Started s terms Buffer.zero prov)
    (state : prov.state = provStart) (unasked : st.agent.pending.cb = none) :
    ∃ stage, Starting stage ∧ SessionIn s terms stage (provStartCmplt s.env st) ∧
      PromptFits s stage (provStartCmplt s.env st).agent.pending.cb := by
  by_cases overAir : s.start.pubKey = 0
  · rcases provSendPubKey_awaits sound live isProv started overAir with
      ⟨awaits, sameAgent⟩
    have inBand : ¬prov.keyOutOfBand = true := by
      rw [started.keyOutOfBand]
      simpa using overAir
    have sends : provStartCmplt s.env st = provSendPubKey s.env st := by
      rw [provStartCmplt, isProv]
      exact if_neg inBand
    rw [sends]
    refine ⟨.keyAwaited, .keyAwaited, awaits, ?_⟩
    rw [sameAgent]
    exact unasked
  · have given : prov.keyOutOfBand = true := by
      rw [started.keyOutOfBand]
      exact decide_eq_true overAir
    have asks : provStartCmplt s.env st = { st with
        agent := st.agent.inputRequest .hexadecimal 64 .provOobPubKey } := by
      simp only [provStartCmplt, isProv, given, if_true]
    rw [asks]
    refine ⟨.keyAsked, .keyAsked,
      .keyAsked (live.setAgent _) isProv started state overAir, ?_⟩
    rcases inputRequest_pending st.agent .hexadecimal 64 .provOobPubKey with
      same | ⟨_, isPending⟩
    · rw [PromptFits, same, unasked]
      exact Option.some_ne_none _ |>.symm
    · rw [PromptFits, isPending]
      simp

theorem composeStart_size {caps : Caps}
    (plain : (composeStart caps ⟨0, 0, 0, 0, 0⟩).authMethod = provNoOob) :
    (composeStart caps ⟨0, 0, 0, 0, 0⟩).authSize = 0 := by
  rw [composeStart] at plain ⊢
  dsimp only at plain ⊢
  split at plain
  · cases plain
  · split at plain
    · cases plain
    · split at plain
      · cases plain
      · rename_i noStatic noOutput noInput
        rw [if_neg noStatic, if_neg noOutput, if_neg noInput]

theorem inviteReady_starts (sound : Sound s) (live : Live s terms 1 st)
    (pool : st.pool = s.before.pool) (unasked : st.agent.pending.cb = none) :
    ∃ terms' stage, terms'.deviceSide = terms.deviceSide ∧ Starting stage ∧
      SessionIn s terms' stage (inviteReady s.env (newSession s.netIdx)
        (provCaps :: s.device.caps.bytes) st).2 ∧
      PromptFits s stage (inviteReady s.env (newSession s.netIdx)
        (provCaps :: s.device.caps.bytes) st).2.agent.pending.cb := by
  have isCaps : (Buffer.read (provCaps :: s.device.caps.bytes) 1 : Caps) =
      s.device.caps := read_cons provCaps s.device.caps
  have first : get (provCaps :: s.device.caps.bytes) 0 = provCaps := rfl
  rw [inviteReady, if_neg (not_not.mpr first)]
  dsimp only
  rw [isCaps]
  split
  next refused =>
    have isRefused : acceptsCaps st.secLevel s.device.caps = false :=
      (Bool.not_eq_true' _).mp refused
    exact ⟨terms, .failed 1, rfl, .failed,
      (live.setProv _).aborted (Option.some_ne_none _)
        (.caps st.secLevel live.frame.level isRefused), trivial⟩
  next =>
  split
  next noAddress =>
    refine ⟨terms, .failed 1, rfl, .failed,
      ((live.setPool _).setProv _).aborted (Option.some_ne_none _) (.full ?_), trivial⟩
    rw [← pool]
    exact noAddress
  next =>
  split
  next long =>
    refine ⟨terms, .failed 1, rfl, .failed,
      ((live.setPool _).setProv _).aborted (Option.some_ne_none _) (.method ?_), trivial⟩
    intro plain
    have short : s.start.authSize = 0 := composeStart_size plain
    have isLong : 8 < s.start.authSize := long
    rw [short] at isLong
    exact absurd isLong (by decide)
  next =>
    let newAddr := (netObtainAddress st.pool s.device.caps.numEle).1
    let prov : ProvData :=
      { newSession s.netIdx with
        newAddr, state := provStart, ephPrivKey := s.keys.2
        confIn := { s.confIn with devPubKey := Buffer.zero } }
    have ready := ((live.setPool
      (netObtainAddress st.pool s.device.caps.numEle).2).setProv prov).resettle
        { terms with newAddr } (Or.inl (by omega))
    rw [makeKeys, sound.generated]
    dsimp only
    have sends := congrArg Prod.snd (gattWrite_sent sound ready.frame
      (message provStart s.start.bytes) (some .provStartCmplt) (provStartCmplt s.env))
    dsimp only at sends
    rcases provStartCmplt_starts sound (ready.started rfl) rfl
      ⟨rfl, rfl, rfl, rfl, rfl⟩ rfl unasked with ⟨stage, starting, reached, asks⟩
    rw [← sends] at reached asks
    exact ⟨{ terms with newAddr }, stage, rfl, starting, reached, asks⟩

end Authentication

end Meshctl.Prov
