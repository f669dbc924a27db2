import Meshctl.Prov.SessionSteps

/-! # What the messages of a device do -/

namespace Meshctl.Prov

open Bytes Net Crypto

/-! ## Messages as they arrive -/

theorem payload_message {type : Byte} {bytes : List Byte}
    (short : bytes.length + 2 < 256) :
    payload (message type bytes) (BitVec.ofNat 8 (message type bytes).length) =
      type :: bytes := by
  have size : (BitVec.ofNat 8 (message type bytes).length).toNat =
      bytes.length + 2 := by
    rw [length_message, BitVec.toNat_ofNat, Nat.mod_eq_of_lt short]
  have parts := @cons_slice (message type bytes) (bytes.length + 1)
    (length_message type bytes)
  rw [payload, size]
  exact (List.cons.inj parts).2.symm

theorem splice_message {type : Byte} {first second : List Byte}
    (same : second.length = first.length) :
    splice (message type first) 2 second = message type second := by
  apply ext_get
  · rw [length_splice, length_message, length_message, same]
  · intro index inside
    rw [length_splice, length_message] at inside
    by_cases inHeader : index < 2
    · rw [get_splice_outside (Or.inl inHeader), message, message,
        get_append_left inHeader, get_append_left inHeader]
    · rw [get_splice_inside (by rw [length_message]; omega) (by omega) (by omega)]
      rcases Nat.exists_eq_add_of_le (Nat.le_of_not_lt inHeader) with ⟨rest, isIndex⟩
      rw [isIndex, get_message, Nat.add_sub_cancel_left]

theorem length_provisioningData (prov : ProvData) (net : NetInfo) (key : AesBlock) :
    (provisioningData prov net key).length = 25 := by
  have keySize := key.sized
  simp [provisioningData, keySize]

/-- The data are encrypted where they stand in their message. -/
theorem encryptedData_eq (env : ProvEnv) (prov : ProvData) (net : NetInfo)
    (key : AesBlock) :
    encryptedData env prov net key = message provData
      (ccmSealed (env.aes (sessionKey env prov.ecdhSecret prov.salt))
        (sessionNonce env prov.ecdhSecret prov.salt) (fun _ => 0) 0 8
        (provisioningData prov net key)) := by
  have length := length_provisioningData prov net key
  have isOut : [proxyProvisioningPdu, provData] ++ provisioningData prov net key ++
      List.replicate 8 0 =
        message provData (provisioningData prov net key ++ List.replicate 8 0) := by
    rw [message, List.append_assoc]
  have reads : ∀ index < (provisioningData prov net key).length,
      (CipherBuffers.inPlace 2).read (message provData
        (provisioningData prov net key ++ List.replicate 8 0)) index =
      get (provisioningData prov net key) index := by
    intro index inside
    exact (get_message _ _ index).trans (get_append_left inside)
  have sealedLength := @length_ccmSealed
    (env.aes (sessionKey env prov.ecdhSecret prov.salt))
    (sessionNonce env prov.ecdhSecret prov.salt) (fun _ => 0) 0 8 (by omega)
    (provisioningData prov net key)
  have encrypts := @aesCcmEncrypt_eq _
    (env.aes (sessionKey env prov.ecdhSecret prov.salt)) (.inPlace 2) env.stale
    (sessionNonce env prov.ecdhSecret prov.salt) (fun _ => 0) 0 8 _
    (CipherBuffers.inPlace_streams 2) _ reads (by omega) (by omega) (by decide)
  rw [length] at encrypts sealedLength
  rw [encryptedData]
  rw [isOut]
  refine (congrArg CcmResult.memory encrypts).trans ?_
  rw [CipherBuffers.writeAll_inPlace]
  exact splice_message (by rw [sealedLength, List.length_append, length]; rfl)

/-- The random value in front of the authentication value. -/
theorem slice_random (random auth : AesBlock) :
    slice (random.bytes ++ auth.bytes) 0 16 = random.bytes := by
  have size := random.sized
  apply ext_get (by rw [length_slice, size])
  intro index inside
  rw [length_slice] at inside
  rw [get_slice inside, Nat.zero_add, get_append_left (by omega)]

section Arrivals

variable {s : Setting} {terms : Terms} {st : ProvState} {prov : ProvData}

/-- The session after a message of the device. -/
def received (s : Setting) (bytes : List Byte) (st : ProvState) : ProvState :=
  (provDataReady s.env bytes (BitVec.ofNat 8 bytes.length) st).2

/-- The PDU of a message goes to a session that there is. -/
theorem received_message (isProv : st.prov = some prov) {type : Byte}
    {bytes : List Byte} (short : bytes.length + 2 < 256) :
    received s (message type bytes) st =
      (pduReady s.env prov (type :: bytes)
        (st.note (.received (type :: bytes)))).2 := by
  rw [received, provDataReady_eq isProv (payload_message short) (List.cons_ne_nil _ _)]

theorem received_ended (ended : st.prov = none) (bytes : List Byte) :
    received s bytes st = st := by
  rw [received, provDataReady, ended]

/-- A PDU of the size that its type asks for. -/
theorem checks_type {type : Byte} {bytes : List Byte}
    (expected : expectedPduSize type = bytes.length + 1)
    (inRange : type ≤ provFailed) :
    ¬(provFailed < get (type :: bytes) 0 ∨
      expectedPduSize (get (type :: bytes) 0) ≠ (type :: bytes).length) := by
  have first : get (type :: bytes) 0 = type := rfl
  rw [first, expected, List.length_cons, not_or, not_not]
  exact ⟨BitVec.not_lt.mpr inRange, rfl⟩

theorem caps_received (sound : Sound s) (reached : SessionIn s terms .invited st)
    (unasked : st.agent.pending.cb = none) :
    ∃ terms' stage, terms'.deviceSide = terms.deviceSide ∧ Starting stage ∧
      SessionIn s terms' stage
        (received s (message provCaps s.device.caps.bytes) st) ∧
      PromptFits s stage (received s (message provCaps s.device.caps.bytes)
        st).agent.pending.cb := by
  have capsSize := s.device.caps.sized
  rcases reached with ⟨live, isProv, pool⟩
  have first : get (provCaps :: s.device.caps.bytes) 0 = provCaps := rfl
  have invite : (newSession s.netIdx).state = provInvite := rfl
  have reads := @received_message s st _ isProv provCaps _
    (show s.device.caps.bytes.length + 2 < 256 by omega)
  rw [pduReady, if_neg (checks_type (by rw [capsSize]; rfl) (by decide)), first,
    if_neg (by decide), if_pos invite] at reads
  rw [reads]
  exact inviteReady_starts sound (live.note _ rfl rfl) pool unasked

/-- A request that follows from the message suits the stage. -/
theorem Proceeds.asks {Stages : SessionStage → Prop}
    (proceeds : Proceeds s terms none Stages st) :
    ∃ terms' stage, terms'.deviceSide = terms.deviceSide ∧ Stages stage ∧
      SessionIn s terms' stage st ∧ PromptFits s stage st.agent.pending.cb := by
  rcases proceeds with ⟨terms', stage, same, stages, reached, unasked | asks⟩
  · refine ⟨terms', stage, same, stages, reached, ?_⟩
    rw [unasked]
    exact promptFits_none s stage
  · rcases asks with ⟨isKeyed, given, isCb⟩
    refine ⟨terms', stage, same, stages, reached, ?_⟩
    rw [isKeyed, isCb]
    exact ⟨by simp, fun _ => given⟩

theorem key_received (sound : Sound s) (reached : SessionIn s terms .keyAwaited st)
    (unasked : st.agent.pending.cb = none) :
    ∃ terms' stage, terms'.deviceSide = terms.deviceSide ∧ Authenticating s stage ∧
      SessionIn s terms' stage
        (received s (message provPubKey s.device.pubKey.bytes) st) ∧
      PromptFits s stage (received s (message provPubKey s.device.pubKey.bytes)
        st).agent.pending.cb := by
  have keySize := s.device.pubKey.sized
  rcases reached with _ | _ | @⟨_, prov, live, isProv, started, state, overAir⟩
  have first : get (provPubKey :: s.device.pubKey.bytes) 0 = provPubKey := rfl
  have inBand : prov.keyOutOfBand = false := by
    rw [started.keyOutOfBand, overAir]
    rfl
  have later : prov.state ≠ provInvite := by
    rw [state]
    decide
  have reads := @received_message s st _ isProv provPubKey _
    (show s.device.pubKey.bytes.length + 2 < 256 by omega)
  rw [pduReady, if_neg (checks_type (by rw [keySize]; rfl) (by decide)), first,
    if_neg (by decide), if_neg later, if_pos state, pubKeyReady,
    if_pos ⟨first, by rw [inBand]; rfl⟩, read_cons] at reads
  have withKey : Started s terms s.device.pubKey
      { prov with confIn := { prov.confIn with devPubKey := s.device.pubKey } } := by
    refine ⟨started.netIdx, started.newAddr, started.ephPrivKey, ?_, started.randAuth⟩
    rw [started.confIn]
  have proceeds := provCalcEcdh_proceeds sound
    ((live.note (.received (provPubKey :: s.device.pubKey.bytes)) rfl rfl).setProv
      { prov with confIn := { prov.confIn with devPubKey := s.device.pubKey } })
    rfl withKey state
  rw [reads]
  exact Proceeds.asks (unasked ▸ proceeds)

/-- Only the agent is changed, where it has nothing to call. -/
theorem agentOutputRequestCancel_unasked (unasked : st.agent.pending.cb = none) :
    ∃ agent, agent.pending.cb = none ∧
      agentOutputRequestCancel s.env st = { st with agent } := by
  rw [agentOutputRequestCancel]
  split
  next => exact ⟨st.agent, unasked, rfl⟩
  next =>
    exact @releasePrompt_unasked s.env
      { st with agent := { st.agent with
          pending := { st.agent.pending with type := .none } } } unasked []

/-- The user has entered the value on the device. -/
theorem entered_received (sound : Sound s) (reached : SessionIn s terms .keyed st)
    (unasked : st.agent.pending.cb = none) :
    ∃ random auth, SessionIn s { terms with random, auth } .confirming
        (received s (message provInpCmplt []) st) ∧
      (received s (message provInpCmplt []) st).agent.pending.cb = none := by
  rcases reached with _ | _ | _ | @⟨_, prov, live, isProv, keyed, state, _⟩
  have later : prov.state ≠ provInvite := by
    rw [state]
    decide
  have first : get [provInpCmplt] 0 = provInpCmplt := rfl
  have reads := @received_message s st _ isProv provInpCmplt [] (by decide)
  rw [pduReady, if_neg (checks_type rfl (by decide)), first, if_neg (by decide),
    if_neg later, if_pos state, pubKeyReady, first,
    if_neg (fun both => absurd both.1 (by decide)), if_pos rfl] at reads
  rcases @agentOutputRequestCancel_unasked s
    (st.note (.received [provInpCmplt])) unasked with ⟨agent, noCallback, cancels⟩
  rw [cancels] at reads
  rcases provSendConfirm_confirming sound
    ((live.note (.received [provInpCmplt]) rfl rfl).setAgent agent) isProv keyed with
    ⟨random, auth, confirming, sameAgent⟩
  rw [reads]
  refine ⟨random, auth, confirming, ?_⟩
  rw [sameAgent]
  exact noCallback

theorem conf_received (sound : Sound s) (reached : SessionIn s terms .confirming st) :
    SessionIn s terms .revealing (received s
        (message provConfirm (s.conf s.device.random terms.devAuth).bytes) st) ∧
      (received s (message provConfirm
        (s.conf s.device.random terms.devAuth).bytes) st).agent = st.agent := by
  have confSize := (s.conf s.device.random terms.devAuth).sized
  rcases reached with _ | _ | _ | _ | @⟨_, prov, live, isProv, keyed, state, randAuth⟩
  have reads := @received_message s st _ isProv provConfirm _
    (show (s.conf s.device.random terms.devAuth).bytes.length + 2 < 256 by omega)
  have isRandom : proxyProvisioningPdu :: ownRandom prov =
      message provRandom terms.random.bytes := by
    rw [ownRandom, randAuth, slice_random]
    rfl
  have noted := (live.note (.received (provConfirm ::
    (s.conf s.device.random terms.devAuth).bytes)) rfl rfl).setProv
      { prov with
        meshConf := s.conf s.device.random terms.devAuth, state := provRandom }
  rw [pduReady_confirm state, isRandom, gattWriteOnly,
    gattWrite_sent sound noted.frame] at reads
  rw [reads]
  exact ⟨.revealing (noted.started rfl) rfl
    ⟨keyed.netIdx, keyed.newAddr, keyed.confIn, keyed.ecdhSecret, keyed.salt,
      keyed.confKey, keyed.plain⟩ rfl randAuth rfl, rfl⟩

/-- Nothing went wrong with the values if none was needed. -/
theorem trouble_of_differs (shown : s.start.authMethod ≠ provInputOob →
      terms.devAuth = s.device.auth s.start)
    (plain : s.start.authMethod = provNoOob → terms.auth = Buffer.zero)
    (differs : terms.auth ≠ terms.devAuth) : Trouble s := by
  by_cases method : s.start.authMethod = provNoOob
  · apply Trouble.value
    intro isZero
    apply differs
    rw [plain method, shown (by rw [method]; decide), isZero]
  · exact .method method

theorem Keyed.plain_auth (keyed : Keyed s terms prov)
    (randAuth : prov.randAuth.bytes = terms.random.bytes ++ terms.auth.bytes) :
    authValue prov.randAuth = terms.auth.bytes ∧
      (s.start.authMethod = provNoOob → terms.auth = Buffer.zero) := by
  have isAuth : authValue prov.randAuth = terms.auth.bytes := by
    rw [authValue, randAuth]
    exact List.drop_left' terms.random.sized
  refine ⟨isAuth, ?_⟩
  intro method
  have same := isAuth.symm.trans (keyed.plain method)
  apply Buffer.ext_get
  intro index _
  rw [Buffer.get, same, Buffer.get]

/-- Where a session is that has checked the code of the device. -/
inductive Checked : SessionStage → Prop where
  | unsent : Checked .unsent
  | sent : Checked .sent
  | failed : Checked (.failed 5)

theorem encryptedData_sealed {net : NetInfo} {key : AesBlock}
    (secret : prov.ecdhSecret = s.secret) (salt : prov.salt = s.salt terms)
    (data : terms.data = provisioningData prov net key) :
    encryptedData s.env prov net key = message provData (s.sealedData terms) := by
  rw [encryptedData_eq, Setting.sealedData, secret, salt, data]

theorem provSendProvData_checked (sound : Sound s) (live : Live s terms 5 st)
    {randAuth : Buffer 32} (isProv : st.prov = some
      { prov with salt := s.salt terms, randAuth })
    (keyed : Keyed s terms prov) (sized : terms.data.length = 25) :
    ∃ data stage, data.length = 25 ∧ Checked stage ∧
      SessionIn s { terms with data } stage (provSendProvData s.env st).2 ∧
      (provSendProvData s.env st).2.agent = st.agent := by
  have isDevKey : deviceKey s.env prov.ecdhSecret (s.salt terms) =
      deviceKey s.env s.secret (s.salt terms) := by
    rw [keyed.ecdhSecret]
  have noted := (live.setProv
    { prov with
      salt := s.salt terms, randAuth
      devKey := deviceKey s.env s.secret (s.salt terms) }).note
    (.sendProvData prov.confKey randAuth) rfl rfl
  have isUsed : st.net.key prov.netIdx = st.net.key s.netIdx := by
    rw [keyed.netIdx]
  cases isKey : st.net.key s.netIdx with
  | none =>
      have stays : provSendProvData s.env st = (false, ((st.setProv
          { prov with
            salt := s.salt terms, randAuth
            devKey := deviceKey s.env s.secret (s.salt terms) }).note
          (.sendProvData prov.confKey randAuth))) := by
        rw [provSendProvData, isProv]
        dsimp only
        rw [isDevKey]
        split
        next => rfl
        next _ found => exact absurd (found.symm.trans isUsed) (by rw [isKey]; simp)
      rw [stays]
      exact ⟨terms.data, .unsent, sized, .unsent,
        .unsent noted (Option.some_ne_none _)
          (.unknown st.net live.frame.network isKey), rfl⟩
  | some key =>
      let sender : ProvData := { prov with salt := s.salt terms, randAuth }
      let data := provisioningData sender st.net key
      have isMessage : encryptedData s.env sender st.net key =
          message provData (s.sealedData { terms with data }) :=
        encryptedData_sealed keyed.ecdhSecret rfl rfl
      have moved := (noted.setProv
        { sender with
          devKey := deviceKey s.env s.secret (s.salt terms)
          state := provData }).resettle { terms with data }
          (Or.inr ⟨by omega, rfl, rfl⟩)
      have sends : provSendProvData s.env st = (true, started
          (message provData (s.sealedData { terms with data }))
          ((((st.setProv
            { prov with
              salt := s.salt terms, randAuth
              devKey := deviceKey s.env s.secret (s.salt terms) }).note
            (.sendProvData prov.confKey randAuth))).setProv
              { sender with
                devKey := deviceKey s.env s.secret (s.salt terms)
                state := provData })) := by
        rw [provSendProvData, isProv]
        dsimp only
        rw [isDevKey]
        split
        next found => exact absurd (found.symm.trans isUsed) (by rw [isKey]; simp)
        next other found =>
          have isOther : other = key :=
            Option.some_inj.mp (found.symm.trans (isUsed.trans isKey))
          rw [isOther, ← isMessage]
          exact gattWrite_sent sound moved.frame _ none id
      rw [sends]
      refine ⟨data, .sent, length_provisioningData _ _ _, .sent, ?_, rfl⟩
      refine .sent (moved.started rfl) rfl rfl keyed.netIdx keyed.newAddr
        (congrArg ConfInput.caps keyed.confIn) rfl
        ⟨st.net, key, live.frame.network, isKey, ?_⟩
      change provisioningData sender st.net key = _
      rw [provisioningData, ← keyed.netIdx, ← keyed.newAddr]

theorem random_received (sound : Sound s) (reached : SessionIn s terms .revealing st)
    (shown : s.start.authMethod ≠ provInputOob →
      terms.devAuth = s.device.auth s.start)
    (sized : terms.data.length = 25) :
    ∃ data stage, data.length = 25 ∧ Checked stage ∧
      SessionIn s { terms with data } stage
        (received s (message provRandom s.device.random.bytes) st) ∧
      (received s (message provRandom s.device.random.bytes) st).agent =
        st.agent := by
  have randomSize := s.device.random.sized
  rcases reached with _ | _ | _ | _ | _ |
    @⟨_, prov, live, isProv, keyed, state, randAuth, meshConf⟩
  rcases keyed.plain_auth randAuth with ⟨isAuth, plain⟩
  have first : get (provRandom :: s.device.random.bytes) 0 = provRandom := rfl
  have carried : slice (provRandom :: s.device.random.bytes) 1 16 =
      s.device.random.bytes :=
    congrArg Buffer.bytes (read_cons provRandom s.device.random)
  have later : prov.state ≠ provInvite ∧ prov.state ≠ provPubKey ∧
      prov.state ≠ provConfirm := by
    rw [state]
    decide
  have reads := @received_message s st _ isProv provRandom _
    (show s.device.random.bytes.length + 2 < 256 by omega)
  have isSalt : provProvSalt s.env prov.salt (slice prov.randAuth.bytes 0 16)
      s.device.random.bytes = s.salt terms := by
    rw [keyed.salt, randAuth, slice_random]
    rfl
  have isConf : s.env.aesCmac prov.confKey
      (prov.randAuth.copy 0 s.device.random.bytes).bytes =
        s.conf s.device.random terms.auth := by
    rw [copy_random, isAuth, keyed.confKey]
    rfl
  rw [pduReady, if_neg (checks_type (by rw [randomSize]; rfl) (by decide)), first,
    if_neg (by decide), if_neg later.1, if_neg later.2.1, if_neg later.2.2,
    if_pos state, randomReady, first, if_neg (not_not.mpr rfl), carried] at reads
  dsimp only at reads
  rw [isSalt, isConf] at reads
  have noted := (live.note (.received (provRandom :: s.device.random.bytes)) rfl
    rfl).setProv
      { prov with
        salt := s.salt terms
        randAuth := prov.randAuth.copy 0 s.device.random.bytes }
  by_cases verified : s.conf s.device.random terms.auth = prov.meshConf
  · rw [if_neg (not_not.mpr verified)] at reads
    rw [reads]
    exact provSendProvData_checked sound noted rfl keyed sized
  · rw [if_pos verified] at reads
    have trouble : Trouble s := by
      apply trouble_of_differs shown plain
      intro same
      exact verified (by rw [meshConf, same])
    rw [reads]
    refine ⟨terms.data, .failed 5, sized, .failed,
      noted.aborted (Option.some_ne_none _) trouble, ?_⟩
    rfl

/-- The device gave up. -/
theorem failure_received (reached : SessionIn s terms .revealing st)
    (trouble : Trouble s) {code : Byte} (isCode : code ≠ 0) :
    SessionIn s terms (.failed 5) (received s (message provFailed [code]) st) := by
  rcases reached with _ | _ | _ | _ | _ | @⟨_, prov, live, isProv, keyed, state, _, _⟩
  have first : get [provFailed, code] 0 = provFailed := rfl
  have second : get [provFailed, code] 1 = code := rfl
  have reads := @received_message s st _ isProv provFailed [code] (by simp)
  rw [pduReady, if_neg (checks_type rfl (by decide)), first, if_pos rfl, second]
    at reads
  rw [reads]
  refine (live.note _ rfl rfl).failed ?_ isCode trouble
  exact ne_of_eq_of_ne isProv (Option.some_ne_none _)

theorem completed_received (reached : SessionIn s terms .sent st) :
    SessionIn s terms .done (received s (message provCompleted []) st) := by
  rcases reached with _ | _ | _ | _ | _ | _ | _ |
    @⟨_, prov, live, isProv, state, netIdx, newAddr, caps, devKey, provides⟩
  have first : get [provCompleted] 0 = provCompleted := rfl
  have later : prov.state ≠ provInvite ∧ prov.state ≠ provPubKey ∧
      prov.state ≠ provConfirm ∧ prov.state ≠ provRandom := by
    rw [state]
    decide
  have reads := @received_message s st _ isProv provCompleted [] (by decide)
  rw [pduReady, if_neg (checks_type rfl (by decide)), first, if_neg (by decide),
    if_neg later.1, if_neg later.2.1, if_neg later.2.2.1, if_neg later.2.2.2,
    if_pos state, dataReady, first, if_neg (not_not.mpr rfl)] at reads
  rw [reads]
  have noted := live.note (.received [provCompleted]) rfl rfl
  have isNoted : (st.note (.received [provCompleted])).prov = some prov := isProv
  rw [provComplete, isNoted]
  refine .done (noted.frame.of_same rfl rfl rfl rfl) rfl ?_ ?_ ?_ provides
  · rw [written_note]
    exact (List.append_nil _).trans noted.written
  · rw [outcomes_note]
    exact congrArg (· ++ [0]) noted.unended
  · change completedNode prov 0 st.node = _
    rw [completedNode, if_pos rfl, caps, newAddr, devKey, netIdx, live.node]

end Arrivals

end Meshctl.Prov
