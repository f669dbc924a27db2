import Meshctl.Prov.Callbacks

/-! # What PDUs can do -/

namespace Meshctl.Prov

open Bytes Net Crypto

/-- A PDU is its type and what it carries. -/
theorem cons_slice {pdu : List Byte} {size : Nat}
    (length : pdu.length = size + 1) :
    pdu = get pdu 0 :: slice pdu 1 size := by
  apply ext_get (by simp [length])
  intro index inside
  cases index with
  | zero => rfl
  | succ index =>
      rw [length] at inside
      have inSlice : index < size := Nat.lt_of_succ_lt_succ inside
      have shifted : get (get pdu 0 :: slice pdu 1 size) (index + 1) =
          get (slice pdu 1 size) index := rfl
      rw [shifted, get_slice inSlice, Nat.add_comm]

/-- The random value of the device in front of the authentication value. -/
theorem copy_random (randAuth : Buffer 32) (random : AesBlock) :
    (randAuth.copy 0 random.bytes).bytes =
      random.bytes ++ authValue randAuth := by
  have sized := randAuth.sized
  have randomSized := random.sized
  apply ext_get (by simp [Buffer.copy, authValue, sized, randomSized])
  intro index inside
  rw [(randAuth.copy 0 random.bytes).sized] at inside
  change get (splice randAuth.bytes 0 random.bytes) index = _
  by_cases isRandom : index < 16
  · rw [get_splice_inside (by omega) (by omega) (by omega), Nat.sub_zero,
      get_append_left (by omega)]
  · rw [get_splice_outside (by omega), get_append_right (by omega), authValue,
      get_drop,      randomSized, Nat.add_sub_cancel' (by omega)]

theorem authValue_kept (randAuth : Buffer 32) (random : AesBlock) :
    authValue (randAuth.copy 0 random.bytes) = authValue randAuth := by
  rw [authValue, copy_random]
  exact List.drop_left' random.sized

/-- What is done with a PDU that a session was given, once it is noted. -/
inductive Handled (env : ProvEnv) (prov : ProvData) (st : ProvState) :
    List Byte → ProvState → Prop where
  | failed (status : Byte) :
      Handled env prov st [provFailed, status] (provComplete status st).2
  | rejected (pdu : List Byte) : Handled env prov st pdu (provAbort st).2
  | invited (caps : Caps) (invite : prov.state = provInvite) :
      Handled env prov st (provCaps :: caps.bytes)
        (inviteReady env prov (provCaps :: caps.bytes) st).2
  | keyed (key : Buffer 64) (waits : prov.state = provPubKey)
      (overAir : prov.keyOutOfBand = false) :
      Handled env prov st (provPubKey :: key.bytes)
        (provCalcEcdh env (st.setProv
          { prov with confIn := { prov.confIn with devPubKey := key } }))
  | entered (waits : prov.state = provPubKey) :
      Handled env prov st [provInpCmplt]
        (provSendConfirm env (agentOutputRequestCancel env st)).2
  | confirmed (conf : AesBlock) (waits : prov.state = provConfirm) :
      Handled env prov st (provConfirm :: conf.bytes)
        (gattWriteOnly env
          ([proxyProvisioningPdu, provRandom] ++ slice prov.randAuth.bytes 0 16)
          (st.setProv { prov with meshConf := conf, state := provRandom })).2
  | revealed (random salt : AesBlock) (waits : prov.state = provRandom)
      (verified : env.aesCmac prov.confKey
        (random.bytes ++ authValue prov.randAuth) = prov.meshConf) :
      Handled env prov st (provRandom :: random.bytes)
        (provSendProvData env (st.setProv
          { prov with salt, randAuth := prov.randAuth.copy 0 random.bytes })).2
  | completed (waits : prov.state = provData) :
      Handled env prov st [provCompleted] (provComplete 0 st).2

section Cases

variable (env : ProvEnv)

/-- Ending a session does not depend on what the check of the confirmation
stored in it. -/
theorem provAbort_setProv {prov : ProvData} {st : ProvState}
    (live : st.prov = some prov) (salt : AesBlock) (randAuth : Buffer 32) :
    provAbort (st.setProv { prov with salt, randAuth }) = provAbort st := by
  simp only [provAbort, provComplete, ProvState.setProv, live, completedNode]

/-- The size of a PDU that passed the check. -/
theorem pdu_eq {pdu : List Byte} {type : Byte} {size : Nat}
    (isType : get pdu 0 = type) (expected : expectedPduSize type = size + 1)
    (checked : expectedPduSize (get pdu 0) = pdu.length) :
    pdu = type :: (Buffer.read pdu 1 : Buffer size).bytes := by
  rw [isType, expected] at checked
  rw [← isType]
  exact cons_slice checked.symm

theorem pdu_eq_type {pdu : List Byte} {type : Byte}
    (isType : get pdu 0 = type) (expected : expectedPduSize type = 1)
    (checked : expectedPduSize (get pdu 0) = pdu.length) : pdu = [type] := by
  rw [isType, expected] at checked
  rw [← isType]
  exact cons_slice checked.symm

theorem randomReady_handled {prov : ProvData} {st : ProvState}
    {pdu : List Byte} (live : st.prov = some prov)
    (checked : expectedPduSize (get pdu 0) = pdu.length)
    (waits : prov.state = provRandom) :
    Handled env prov st pdu (randomReady env prov pdu st).2 := by
  rw [randomReady]
  split
  next => exact .rejected pdu
  next isRandom =>
    rw [not_not] at isRandom
    have isPdu := @pdu_eq pdu provRandom 16 isRandom rfl checked
    set random : AesBlock := Buffer.read pdu 1
    change Handled env prov st pdu (if env.aesCmac prov.confKey
      (prov.randAuth.copy 0 random.bytes).bytes ≠ prov.meshConf
        then _ else _ : Bool × ProvState).2
    rw [copy_random]
    split
    next =>
      rw [provAbort_setProv live]
      exact .rejected pdu
    next verified =>
      rw [isPdu]
      exact .revealed random _ waits (not_not.mp verified)

theorem pubKeyReady_handled {prov : ProvData} {st : ProvState}
    {pdu : List Byte} (checked : expectedPduSize (get pdu 0) = pdu.length)
    (waits : prov.state = provPubKey) :
    Handled env prov st pdu (pubKeyReady env prov pdu st).2 := by
  rw [pubKeyReady]
  split
  next isKey =>
    have isPdu := @pdu_eq pdu provPubKey 64 isKey.1 rfl checked
    have overAir : prov.keyOutOfBand = false := by simpa using isKey.2
    have handled := @Handled.keyed env prov st (Buffer.read pdu 1) waits overAir
    rw [← isPdu] at handled
    exact handled
  next =>
    split
    next isEntered =>
      rw [pdu_eq_type isEntered rfl checked]
      exact .entered waits
    next => exact .rejected pdu

theorem confirmReady_handled {prov : ProvData} {st : ProvState}
    {pdu : List Byte} (checked : expectedPduSize (get pdu 0) = pdu.length)
    (waits : prov.state = provConfirm) :
    Handled env prov st pdu (confirmReady env prov pdu st).2 := by
  rw [confirmReady]
  split
  next => exact .rejected pdu
  next isConfirm =>
    have isPdu := @pdu_eq pdu provConfirm 16 (not_not.mp isConfirm) rfl checked
    have handled := @Handled.confirmed env prov st (Buffer.read pdu 1) waits
    rw [← isPdu] at handled
    exact handled

theorem dataReady_handled {prov : ProvData} {st : ProvState}
    {pdu : List Byte} (checked : expectedPduSize (get pdu 0) = pdu.length)
    (waits : prov.state = provData) :
    Handled env prov st pdu (dataReady pdu st).2 := by
  rw [dataReady]
  split
  next => exact .rejected pdu
  next isCompleted =>
    rw [pdu_eq_type (not_not.mp isCompleted) rfl checked]
    exact .completed waits

theorem pduReady_handled {prov : ProvData} {st : ProvState}
    (live : st.prov = some prov) (pdu : List Byte) :
    Handled env prov st pdu (pduReady env prov pdu st).2 := by
  rw [pduReady]
  split
  next => exact .rejected pdu
  next accepted =>
    rw [not_or, not_not] at accepted
    have checked := accepted.2
    split
    next isFailed =>
      have isPdu := @pdu_eq pdu provFailed 1 isFailed rfl checked
      rw [isPdu]
      exact .failed _
    next =>
    split
    next invite =>
      by_cases isCaps : get pdu 0 = provCaps
      · have isPdu := @pdu_eq pdu provCaps 11 isCaps rfl checked
        rw [isPdu]
        exact .invited _ invite
      · rw [inviteReady, if_pos isCaps]
        exact .rejected pdu
    next =>
    split
    next waits => exact pubKeyReady_handled env checked waits
    next =>
    split
    next waits => exact confirmReady_handled env checked waits
    next =>
    split
    next waits => exact randomReady_handled env live checked waits
    next =>
    split
    next waits => exact dataReady_handled env checked waits
    next => exact .rejected pdu

theorem provDataReady_cases (buf : List Byte) (len : Byte) (st : ProvState) :
    (provDataReady env buf len st).2 = st ∨ ∃ prov, st.prov = some prov ∧
      Handled env prov (st.note (.received (payload buf len))) (payload buf len)
        (provDataReady env buf len st).2 := by
  rw [provDataReady]
  cases live : st.prov with
  | none => exact Or.inl rfl
  | some prov =>
      dsimp only
      split
      next => exact Or.inl rfl
      next =>
        have noted : (st.note (.received (payload buf len))).prov = some prov :=
          live
        exact Or.inr ⟨prov, rfl, pduReady_handled env noted _⟩

/-- A session before the confirmations, with what a PDU stored in it. -/
structure Begun (before begun : ProvState) : Prop where
  node : begun.node = before.node
  history : begun.history = before.history
  session : ∃ prov, begun.prov = some prov ∧ prov.state ≤ provPubKey

/-- The capabilities end the session or start it, and what follows are
callbacks. -/
theorem inviteReady_begins {prov : ProvData} {st : ProvState}
    (live : st.prov = some prov) (invite : prov.state = provInvite)
    (pdu : List Byte) :
    ∃ begun, Keeps begun (inviteReady env prov pdu st).2 ∧ Begun st begun := by
  have early : prov.state ≤ provPubKey := by
    rw [invite]
    decide
  have isStart : provStart ≤ provPubKey := by decide
  rw [inviteReady]
  dsimp only
  split
  next => exact ⟨_, provAbort_keeps _, rfl, rfl, _, live, early⟩
  next =>
  split
  next => exact ⟨_, provAbort_keeps _, rfl, rfl, _, rfl, early⟩
  next =>
  split
  next => exact ⟨_, provAbort_keeps _, rfl, rfl, _, rfl, early⟩
  next =>
  split
  next => exact ⟨_, provAbort_keeps _, rfl, rfl, _, rfl, early⟩
  next =>
    exact ⟨_, gattWrite_keeps env _ _ (provStartCmplt_keeps env) _, rfl, rfl, _,
      rfl, isStart⟩

end Cases

/-! ## The effect of a PDU -/

/-- Before the confirmations a PDU does what callbacks can do as well. Then the
session stores a confirmation and checks it. -/
inductive Effect (env : ProvEnv) (prov : ProvData) (st : ProvState)
    (pdu : List Byte) (next : ProvState) : Prop where
  | ended (status : Byte) (isNext : next = (provComplete status st).2)
      (success : status = 0 → pdu = [provFailed, 0] ∨
        pdu = [provCompleted] ∧ prov.state = provData)
  | early (begun : ProvState) (begins : Begun st begun) (keeps : Keeps begun next)
  | confirmed (conf : AesBlock) (isPdu : pdu = provConfirm :: conf.bytes)
      (isNext : next = (gattWriteOnly env
        ([proxyProvisioningPdu, provRandom] ++ slice prov.randAuth.bytes 0 16)
        (st.setProv { prov with meshConf := conf, state := provRandom })).2)
  | revealed (random salt : AesBlock) (isPdu : pdu = provRandom :: random.bytes)
      (waits : prov.state = provRandom)
      (verified : env.aesCmac prov.confKey
        (random.bytes ++ authValue prov.randAuth) = prov.meshConf)
      (isNext : next = (provSendProvData env (st.setProv
        { prov with salt, randAuth := prov.randAuth.copy 0 random.bytes })).2)

theorem Handled.effect {env : ProvEnv} {prov : ProvData} {st next : ProvState}
    {pdu : List Byte} (handled : Handled env prov st pdu next)
    (live : st.prov = some prov) : Effect env prov st pdu next := by
  cases handled with
  | failed status =>
      refine .ended status rfl ?_
      intro success
      rw [success]
      exact Or.inl rfl
  | rejected => exact .ended provErrInvalidPdu rfl fun absurd => (by cases absurd)
  | invited caps invite =>
      rcases inviteReady_begins env live invite _ with ⟨begun, keeps, begins⟩
      exact .early begun begins keeps
  | keyed key waits =>
      have early : prov.state ≤ provPubKey := waits ▸ BitVec.le_refl _
      refine .early _ ?_ (provCalcEcdh_keeps env _)
      exact ⟨rfl, rfl, _, rfl, early⟩
  | entered waits =>
      have early : prov.state ≤ provPubKey := waits ▸ BitVec.le_refl _
      have cancelled := agentOutputRequestCancel_keeps env st
      have confirmed := provSendConfirm_keeps env (agentOutputRequestCancel env st)
      exact .early st ⟨rfl, rfl, prov, live, early⟩ (cancelled.trans confirmed)
  | confirmed conf => exact .confirmed conf rfl rfl
  | revealed random salt waits verified =>
      exact .revealed random salt rfl waits verified rfl
  | completed waits => exact .ended 0 rfl fun _ => Or.inr ⟨rfl, waits⟩

end Meshctl.Prov
