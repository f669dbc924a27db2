import Meshctl.Foundation.History
import Meshctl.Prov.Received

/-! # The network key is sent to a device that confirmed -/

namespace Meshctl.Prov

open Bytes Net Crypto Execution History

/-! ## What is sent, and when -/

/-- No PDU took the place of the confirmation. -/
def ConfirmationStays (events : List ProvEvent) : Prop :=
  ∀ pdu, .received pdu ∈ events → get pdu 0 ≠ provConfirm

/-- The device sent its confirmation, and no other one since. Then the
provisioner sent its random value. -/
def Committed (history : List ProvEvent) (conf : AesBlock) : Prop :=
  ∃ early own late,
    history = early ++ .received (provConfirm :: conf.bytes) ::
      .wrote ([proxyProvisioningPdu, provRandom] ++ own) :: late ∧
    own.length = 16 ∧ ConfirmationStays late

/-- The device then sent the random value that its confirmation was made of,
with the authentication value. -/
def Verified (env : ProvEnv) (history : List ProvEvent) (confKey : AesBlock)
    (randAuth : Buffer 32) : Prop :=
  ∃ early conf random, history = early ++ [.received (provRandom :: random)] ∧
    Committed early conf ∧
    conf = env.aesCmac confKey (random ++ authValue randAuth)

/-- `prov_send_prov_data` is called for a verified confirmation. -/
def SendsVerified (env : ProvEnv) (before : List ProvEvent) :
    ProvEvent → Prop
  | .sendProvData confKey randAuth => Verified env before confKey randAuth
  | _ => True

structure Confirmed (env : ProvEnv) (st : ProvState) : Prop where
  justified : Justified (SendsVerified env) st.history
  committed : ∀ prov, st.prov = some prov → prov.state = provRandom →
    Committed st.history prov.meshConf

/-! ## Later events -/

theorem Committed.append {history events : List ProvEvent} {conf : AesBlock}
    (committed : Committed history conf) (stays : ConfirmationStays events) :
    Committed (history ++ events) conf := by
  rcases committed with ⟨early, own, late, isHistory, sized, kept⟩
  refine ⟨early, own, late ++ events, ?_, sized, ?_⟩
  · rw [isHistory]
    simp
  · intro pdu member
    rcases List.mem_append.mp member with inLate | inEvents
    · exact kept pdu inLate
    · exact stays pdu inEvents

theorem ProvEvent.Ordinary.sendsVerified {event : ProvEvent}
    (ordinary : event.Ordinary) (env : ProvEnv) (before : List ProvEvent) :
    SendsVerified env before event := by
  cases event with
  | sendProvData confKey randAuth => exact absurd ordinary id
  | _ => trivial

theorem ConfirmationStays.of_ordinary {events : List ProvEvent}
    (ordinary : ∀ event ∈ events, event.Ordinary) : ConfirmationStays events :=
  fun _ member => absurd (ordinary _ member) id

section Steps

variable {env : ProvEnv}

theorem Confirmed.keeps {before after : ProvState}
    (confirmed : Confirmed env before) (keeps : Keeps before after) :
    Confirmed env after := by
  rcases keeps.history with ⟨events, isHistory, ordinary, _⟩
  constructor
  · rw [isHistory]
    exact confirmed.justified.append fun event member =>
      (ordinary event member).sendsVerified env
  · intro prov' live' waits
    rcases keeps.session prov' live' with ⟨prov, live, kept⟩
    have waited : prov.state = prov'.state := by
      apply kept.same_state
      rw [waits]
      decide
    rw [isHistory, kept.meshConf]
    have committed := confirmed.committed prov live (waited.trans waits)
    exact committed.append (.of_ordinary ordinary)

/-- Where no random value is waited for, nothing has to be confirmed. -/
theorem Confirmed.of_state {st : ProvState} {prov : ProvData}
    (justified : Justified (SendsVerified env) st.history)
    (live : st.prov = some prov) (other : prov.state ≠ provRandom) :
    Confirmed env st := by
  refine ⟨justified, ?_⟩
  intro prov' live' waits
  rw [live] at live'
  rw [← Option.some_inj.mp live'] at waits
  exact absurd waits other

theorem provComplete_ends {st : ProvState} {prov : ProvData}
    (live : st.prov = some prov) (status : Byte) :
    (provComplete status st).2.prov = none ∧
      (provComplete status st).2.history = st.history ++ [.completed status] := by
  rw [provComplete, live]
  exact ⟨rfl, rfl⟩

theorem Confirmed.ended {st : ProvState} {prov : ProvData}
    (justified : Justified (SendsVerified env) st.history)
    (live : st.prov = some prov) (status : Byte) :
    Confirmed env (provComplete status st).2 := by
  rcases provComplete_ends live status with ⟨ends, isHistory⟩
  constructor
  · rw [isHistory]
    exact justified.concat trivial
  · intro prov' live'
    rw [ends] at live'
    cases live'

theorem gattWriteOnly_note (pdu : List Byte) (st : ProvState) :
    (gattWriteOnly env pdu st).2.prov = st.prov ∧
      (gattWriteOnly env pdu st).2.history = st.history ++ [.wrote pdu] := by
  rw [gattWriteOnly, gattWrite]
  cases env.gatt st.writes with
  | sent => exact ⟨rfl, rfl⟩
  | queued => exact ⟨rfl, rfl⟩
  | refused => exact ⟨rfl, rfl⟩

theorem sendProvData_confirmed {st : ProvState} {prov : ProvData}
    (live : st.prov = some prov)
    (justified : Justified (SendsVerified env) st.history)
    (verified : Verified env st.history prov.confKey prov.randAuth)
    (committed : Committed st.history prov.meshConf) :
    Confirmed env (provSendProvData env st).2 := by
  rw [provSendProvData, live]
  dsimp only
  have sent := @Justified.concat _ (SendsVerified env) _
    (.sendProvData prov.confKey prov.randAuth) justified verified
  split
  next =>
    refine ⟨sent, ?_⟩
    intro prov' live' waits'
    rw [← Option.some_inj.mp live']
    apply committed.append
    intro pdu member
    cases List.mem_singleton.mp member
  next =>
    rcases @gattWriteOnly_note env _ _ with ⟨sameProv, isHistory⟩
    refine .of_state ?_ sameProv (show provData ≠ provRandom by decide)
    rw [isHistory]
    exact sent.concat trivial

/-- Every PDU keeps the confirmation. -/
theorem handled_confirmed {prov : ProvData} {st next : ProvState}
    {pdu : List Byte} (confirmed : Confirmed env st) (live : st.prov = some prov)
    (handled : Handled env prov (st.note (.received pdu)) pdu next) :
    Confirmed env next := by
  have justified : Justified (SendsVerified env)
      (st.note (.received pdu)).history := confirmed.justified.concat trivial
  cases handled.effect live with
  | ended status isNext =>
      rw [isNext]
      exact .ended justified live status
  | early begun begins keeps =>
      rcases begins.session with ⟨prov', live', early⟩
      refine Confirmed.keeps (.of_state ?_ live' ?_) keeps
      · rw [begins.history]
        exact justified
      · intro waits
        rw [waits] at early
        exact absurd early (by decide)
  | confirmed conf isPdu isNext =>
      rcases @gattWriteOnly_note env ([proxyProvisioningPdu, provRandom] ++
        slice prov.randAuth.bytes 0 16) ((st.note (.received pdu)).setProv
          { prov with meshConf := conf, state := provRandom })
        with ⟨sameProv, isHistory⟩
      rw [isNext]
      constructor
      · rw [isHistory]
        exact justified.concat trivial
      · intro prov' live' _
        rw [sameProv] at live'
        rw [isHistory, ← Option.some_inj.mp live']
        refine ⟨st.history, slice prov.randAuth.bytes 0 16, [], ?_, ?_, ?_⟩
        · rw [← isPdu]
          exact List.append_assoc _ _ _
        · exact length_slice _ _ _
        · intro pdu member
          cases member
  | revealed random salt isPdu waits verified isNext =>
      have committed := confirmed.committed prov live waits
      rw [isNext]
      refine sendProvData_confirmed rfl justified ?_ ?_
      · rw [isPdu]
        refine ⟨st.history, prov.meshConf, random.bytes, rfl, committed, ?_⟩
        rw [authValue_kept]
        exact verified.symm
      · apply committed.append
        intro other member
        cases List.mem_singleton.mp member
        rw [isPdu]
        exact (by decide : provRandom ≠ provConfirm)

theorem provStep_confirmed (st : ProvState) (input : ProvInput)
    (confirmed : Confirmed env st) :
    Confirmed env (provStep env st input).nextState := by
  cases input with
  | pdu buf len =>
      rcases provDataReady_cases env buf len st with same | ⟨prov, live, handled⟩
      · change Confirmed env (provDataReady env buf len st).2
        rw [same]
        exact confirmed
      · exact handled_confirmed confirmed live handled
  | _ => exact confirmed.keeps (provStep_keeps env st _ (by simp))

theorem openedSession_confirmed (netIdx : U16) (st : ProvState) :
    Confirmed env (openedSession env netIdx st) := by
  rw [openedSession, provOpen]
  dsimp only
  rcases @gattWriteOnly_note env _ _ with ⟨sameProv, isHistory⟩
  refine .of_state ?_ sameProv (show provInvite ≠ provRandom by decide)
  rw [isHistory]
  exact justified_nil.concat trivial

end Steps

end Meshctl.Prov
