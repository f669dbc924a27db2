import Meshctl.Prov.Authentication

/-! # A device that echoes

The device may send back what the provisioner sent it: the check of the
confirmation takes that for its own.
-/

namespace Meshctl.Prov

open Bytes Net Crypto Execution

/-- The confirmation that the provisioner sends, or a copy of it. -/
def ownConfirmation (env : ProvEnv) (prov : ProvData) : List Byte :=
  provConfirm :: (env.aesCmac prov.confKey prov.randAuth.bytes).bytes

/-- The random value that the provisioner sends, or a copy of it. -/
def ownRandom (prov : ProvData) : List Byte :=
  provRandom :: slice prov.randAuth.bytes 0 16

section Echoes

variable {env : ProvEnv} {st : ProvState} {prov : ProvData}

/-- What `prov_send_confirm` sends is made of what it leaves in the session. -/
theorem provSendConfirm_own (live : st.prov = some prov) :
    ∃ prov', (provSendConfirm env st).2.prov = some prov' ∧
      prov'.state = provConfirm ∧
      .wrote (proxyProvisioningPdu :: ownConfirmation env prov') ∈
        (provSendConfirm env st).2.history := by
  rw [provSendConfirm, live]
  dsimp only
  rcases @gattWriteOnly_note env _ _ with ⟨sameProv, isHistory⟩
  rw [sameProv, isHistory]
  exact ⟨_, rfl, rfl, List.mem_append_right _ List.mem_cons_self⟩

theorem read_cons {size : Nat} (first : Byte) (buffer : Buffer size) :
    (Buffer.read (first :: buffer.bytes) 1 : Buffer size) = buffer := by
  apply Buffer.ext_get
  intro index inside
  rw [Buffer.get_read inside, Nat.add_comm]
  rfl

/-- Copying the random value onto itself. -/
theorem copy_own (randAuth : Buffer 32) :
    randAuth.copy 0 (slice randAuth.bytes 0 16) = randAuth := by
  have sized := randAuth.sized
  apply Buffer.ext_get
  intro index inside
  change get (splice randAuth.bytes 0 (slice randAuth.bytes 0 16)) index = _
  by_cases isRandom : index < 16
  · rw [get_splice_inside (by omega) (by omega) (by simpa using isRandom),
      get_slice (by omega), Nat.sub_zero, Nat.zero_add]
    rfl
  · rw [get_splice_outside (by simp; omega)]
    rfl

/-- A PDU of the right size goes to its state. -/
theorem checks_pdu {type : Byte} (payload : AesBlock)
    (expected : expectedPduSize type = 17) (inRange : type ≤ provFailed) :
    ¬(provFailed < get (type :: payload.bytes) 0 ∨
      expectedPduSize (get (type :: payload.bytes) 0) ≠
        (type :: payload.bytes).length) := by
  have first : get (type :: payload.bytes) 0 = type := rfl
  rw [first, expected, List.length_cons, payload.sized, not_or]
  exact ⟨BitVec.not_lt.mpr inRange, fun differs => differs rfl⟩

/-- Any confirmation is answered with the random value. -/
theorem pduReady_confirm (waits : prov.state = provConfirm) (conf : AesBlock) :
    pduReady env prov (provConfirm :: conf.bytes) st =
      gattWriteOnly env (proxyProvisioningPdu :: ownRandom prov)
        (st.setProv { prov with meshConf := conf, state := provRandom }) := by
  have first : get (provConfirm :: conf.bytes) 0 = provConfirm := rfl
  have later : prov.state ≠ provInvite ∧ prov.state ≠ provPubKey := by
    rw [waits]
    decide
  rw [pduReady, if_neg (checks_pdu conf rfl (by decide)), first,
    if_neg (by decide), if_neg later.1, if_neg later.2, if_pos waits,
    confirmReady, first, if_neg (not_not.mpr rfl), read_cons]
  rfl

theorem pduReady_random (waits : prov.state = provRandom) (random : AesBlock)
    (verified : env.aesCmac prov.confKey
      (prov.randAuth.copy 0 random.bytes).bytes = prov.meshConf) :
    ∃ salt, pduReady env prov (provRandom :: random.bytes) st =
      (true, (provSendProvData env (st.setProv
        { prov with salt, randAuth := prov.randAuth.copy 0 random.bytes })).2) := by
  have first : get (provRandom :: random.bytes) 0 = provRandom := rfl
  have carried : slice (provRandom :: random.bytes) 1 16 = random.bytes :=
    congrArg Buffer.bytes (read_cons provRandom random)
  have later : prov.state ≠ provInvite ∧ prov.state ≠ provPubKey ∧
      prov.state ≠ provConfirm := by
    rw [waits]
    decide
  rw [pduReady, if_neg (checks_pdu random rfl (by decide)), first,
    if_neg (by decide), if_neg later.1, if_neg later.2.1, if_neg later.2.2,
    if_pos waits, randomReady, first, if_neg (not_not.mpr rfl), carried]
  dsimp only
  rw [if_neg (not_not.mpr verified)]
  exact ⟨_, rfl⟩

/-! ## The echo of the confirmation and of the random value -/

/-- A message with a PDU in it is long enough. -/
theorem provDataReady_eq {buf : List Byte} {len : Byte}
    (live : st.prov = some prov) {pdu : List Byte} (isPdu : payload buf len = pdu)
    (nonempty : pdu ≠ []) :
    provDataReady env buf len st =
      pduReady env prov pdu (st.note (.received pdu)) := by
  have sized : (payload buf len).length = len.toNat - 1 := length_slice _ _ _
  rw [isPdu] at sized
  have long : ¬len.toNat < 2 := by
    have positive := List.length_pos_of_ne_nil nonempty
    omega
  rw [provDataReady, live]
  dsimp only
  rw [if_neg long, isPdu]

/-- The session after the echo of its confirmation. -/
def echoed (env : ProvEnv) (prov : ProvData) : ProvData :=
  { prov with
    meshConf := env.aesCmac prov.confKey prov.randAuth.bytes
    state := provRandom }

theorem echo_confirmation {buf : List Byte} {len : Byte}
    (live : st.prov = some prov) (waits : prov.state = provConfirm)
    (echoes : payload buf len = ownConfirmation env prov) :
    (provDataReady env buf len st).2.prov = some (echoed env prov) := by
  rw [provDataReady_eq live echoes (by simp [ownConfirmation]), ownConfirmation,
    pduReady_confirm waits]
  exact (gattWriteOnly_note _ _).1

theorem provSendProvData_called (live : st.prov = some prov) :
    .sendProvData prov.confKey prov.randAuth ∈
      (provSendProvData env st).2.history := by
  rw [provSendProvData, live]
  dsimp only
  split
  next => exact List.mem_append_right _ List.mem_cons_self
  next =>
    rw [(gattWriteOnly_note _ _).2]
    exact List.mem_append_left _ (List.mem_append_right _ List.mem_cons_self)

theorem echo_random {buf : List Byte} {len : Byte}
    (live : st.prov = some (echoed env prov))
    (echoes : payload buf len = ownRandom prov) :
    .sendProvData prov.confKey prov.randAuth ∈
      (provDataReady env buf len st).2.history := by
  have isRandom : ownRandom prov =
      provRandom :: (Buffer.read prov.randAuth.bytes 0 : AesBlock).bytes := rfl
  have copied : (echoed env prov).randAuth.copy 0
      (Buffer.read prov.randAuth.bytes 0 : AesBlock).bytes = prov.randAuth :=
    copy_own prov.randAuth
  rw [provDataReady_eq live echoes (by simp [ownRandom]), isRandom]
  rcases @pduReady_random env (st.note (.received (provRandom ::
      (Buffer.read prov.randAuth.bytes 0 : AesBlock).bytes))) (echoed env prov) rfl
    (Buffer.read prov.randAuth.bytes 0) (by rw [copied]; rfl) with ⟨salt, sends⟩
  rw [sends, copied]
  exact @provSendProvData_called env _
    { echoed env prov with salt, randAuth := prov.randAuth } rfl

end Echoes

/-- The user enters the authentication value of the real device. -/
def oobAnswer : ProvInput := .answer (List.replicate 32 0x31)

def echoedConfirmation : List Byte :=
  [provConfirm, 0x71, 0x63, 0x70, 0x78, 0x15, 0x15, 0x17, 0x16, 0x19, 0x18, 0x1b,
    0x1b, 0x1d, 0x1c, 0x1e, 0x1e]

def echoedRandom : List Byte :=
  provRandom :: (List.range 16).map (BitVec.ofNat 8)

def echo (pdu : List Byte) : ProvInput := .pdu (proxyProvisioningPdu :: pdu) 18

/-- The session when the confirmation was sent. -/
def confirmingSession : ProvData :=
  (plainRun [capsPdu 1 0, keyPdu, oobAnswer]).prov.getD (newSession 0)

/-- A confirmation or random value of the device copies one that was sent to it. -/
def Echoed (history : List ProvEvent) : ProvEvent → Prop
  | .received pdu => get pdu 0 = provConfirm ∨ get pdu 0 = provRandom →
      .wrote (proxyProvisioningPdu :: pdu) ∈ history
  | _ => True

instance (history : List ProvEvent) : DecidablePred (Echoed history) :=
  fun event =>
    match event with
    | .received _ => inferInstanceAs (Decidable (_ ∨ _ → _ ∈ history))
    | .wrote _ | .oobPubKey _ | .ecdh _ _ | .oobValue _ | .generated _
    | .sendConfirm _ | .sendProvData _ _ | .completed _ => .isTrue trivial

end Meshctl.Prov
