import Meshctl.Ecc.PointMultiple
import Meshctl.Prov.Authentication

/-! # Refused keys

A session does not look at whether its key exchange succeeded. After keys that were no
points of the curve, its secret is still zero.
-/

namespace Meshctl.Prov

open Bytes Net Crypto

/-- The key exchange of the environment is the one of `ecc.c`, with some random bytes or
none. -/
def UsesEcdh (env : ProvEnv) : Prop :=
  ∀ index publicKey privateKey secret, ∃ rand,
    Ecc.ecdhSharedSecret rand publicKey privateKey secret =
      some (env.ecdhSharedSecret index publicKey privateKey secret)

/-- The key of a device, in the byte order of the mesh, is no point of the curve; its
products lose no carry. -/
structure OffCurve (key : Buffer 64) : Prop where
  keeps : (Ecc.publicPoint (swapKey key)).keepsCarries = true
  outside : ¬Ecc.curve.toAffine.Equation (Ecc.publicPoint (swapKey key)).x.residue
    (Ecc.publicPoint (swapKey key)).y.residue

def ProvEvent.exchangedKey : ProvEvent → Option (Buffer 64)
  | .ecdh key _ => some key
  | _ => none

theorem swapSecret_zero : swapSecret Buffer.zero = Buffer.zero := by
  decide +kernel

theorem UsesEcdh.refuses {env : ProvEnv} (uses : UsesEcdh env) {key : Buffer 64}
    (offCurve : OffCurve key) (index : Nat) (privateKey secret : Buffer 32) :
    env.ecdhSharedSecret index (swapKey key) privateKey secret = (false, secret) := by
  rcases uses index (swapKey key) privateKey secret with ⟨rand, isExchange⟩
  have refused := Ecc.ecdhSharedSecret_refuses rand offCurve.keeps offCurve.outside
    privateKey secret
  exact Option.some.inj (isExchange.symm.trans refused)

/-! ## The secret of zeros -/

/-- A point of the curve was exchanged, or the secret is still zero. -/
def Zeroed (st : ProvState) : Prop :=
  (∃ key ∈ st.history.filterMap ProvEvent.exchangedKey, ¬OffCurve key) ∨
    ∀ prov, st.prov = some prov → prov.ecdhSecret = Buffer.zero

theorem Zeroed.of_same {before after : ProvState} (zeroed : Zeroed before)
    (history : before.history <+: after.history)
    (secret : ∀ prov', after.prov = some prov' →
      ∃ prov, before.prov = some prov ∧ prov'.ecdhSecret = prov.ecdhSecret) :
    Zeroed after := by
  rcases zeroed with ⟨key, exchanged, point⟩ | zero
  · exact Or.inl ⟨key, (history.filterMap _).subset exchanged, point⟩
  · right
    intro prov' live'
    rcases secret prov' live' with ⟨prov, live, same⟩
    exact same.trans (zero prov live)

theorem Zeroed.sameProv {before after : ProvState} (zeroed : Zeroed before)
    (history : after.history = before.history) (prov : after.prov = before.prov) :
    Zeroed after :=
  zeroed.of_same (history ▸ List.prefix_rfl) fun prov' live' => ⟨prov', prov ▸ live', rfl⟩

theorem Zeroed.note {st : ProvState} (zeroed : Zeroed st) (event : ProvEvent) :
    Zeroed (st.note event) :=
  zeroed.of_same (List.prefix_append _ _) fun prov' live' => ⟨prov', live', rfl⟩

theorem Zeroed.setAgent {st : ProvState} (zeroed : Zeroed st) (agent : Agent) :
    Zeroed { st with agent } := zeroed.sameProv rfl rfl

theorem Zeroed.setProv {st : ProvState} {prov prov' : ProvData} (zeroed : Zeroed st)
    (live : st.prov = some prov) (same : prov'.ecdhSecret = prov.ecdhSecret) :
    Zeroed (st.setProv prov') := by
  refine zeroed.of_same List.prefix_rfl fun other isOther => ⟨prov, live, ?_⟩
  rw [← Option.some_inj.mp isOther]
  exact same

theorem Zeroed.ended {st : ProvState} (ended : st.prov = none) : Zeroed st := by
  right
  intro prov live
  rw [ended] at live
  cases live

section Steps

variable {env : ProvEnv} {st : ProvState}

theorem gattWrite_zeroed (zeroed : Zeroed st) (pdu : List Byte) (cb : Option WriteCallback)
    {written : ProvState → ProvState} (keeps : ∀ st, Zeroed st → Zeroed (written st)) :
    Zeroed (gattWrite env pdu cb written st).2 := by
  have counted : Zeroed { st with writes := st.writes + 1 } := zeroed.sameProv rfl rfl
  have wrote := counted.note (.wrote pdu)
  rw [gattWrite]
  cases env.gatt st.writes with
  | sent => exact keeps _ wrote
  | queued => exact wrote.sameProv rfl rfl
  | refused => exact wrote

theorem gattWriteOnly_zeroed (zeroed : Zeroed st) (pdu : List Byte) :
    Zeroed (gattWriteOnly env pdu st).2 :=
  gattWrite_zeroed zeroed pdu none fun _ zeroed => zeroed

theorem provComplete_zeroed (zeroed : Zeroed st) (status : Byte) :
    Zeroed (provComplete status st).2 := by
  rw [provComplete]
  cases st.prov with
  | none => exact zeroed
  | some prov => exact .ended rfl

theorem provAbort_zeroed (zeroed : Zeroed st) : Zeroed (provAbort st).2 :=
  provComplete_zeroed zeroed _

theorem provSendConfirm_zeroed (zeroed : Zeroed st) :
    Zeroed (provSendConfirm env st).2 := by
  rw [provSendConfirm]
  cases live : st.prov with
  | none => exact zeroed
  | some prov =>
      dsimp only
      have called := zeroed.note (.sendConfirm prov.authMethod)
      have drawn : Zeroed
          (randomBytes env 16 (st.note (.sendConfirm prov.authMethod))).2 :=
        called.sameProv rfl rfl
      apply gattWriteOnly_zeroed
      exact drawn.setProv live rfl

theorem provOutOobDone_zeroed (zeroed : Zeroed st) (type : OobType) (buf : List Byte) :
    Zeroed (provOutOobDone env type buf st) := by
  rw [provOutOobDone]
  cases live : st.prov with
  | none => exact zeroed
  | some prov =>
      dsimp only
      cases oobOffset type buf.length with
      | none => exact provAbort_zeroed zeroed
      | some offset =>
          apply provSendConfirm_zeroed
          apply Zeroed.note
          exact zeroed.setProv live rfl

theorem provAuthenticate_zeroed {prov : ProvData} (zeroed : Zeroed st)
    (live : st.prov = some prov) : Zeroed (provAuthenticate env prov st) := by
  rw [provAuthenticate]
  dsimp only
  split
  next => exact provSendConfirm_zeroed zeroed
  next =>
    split
    next => exact zeroed.sameProv rfl rfl
    next =>
      split
      next => exact zeroed.sameProv rfl rfl
      next =>
        split
        next =>
          rcases @generateOob_same env prov.confIn.start.authAction
            prov.confIn.start.authSize st with ⟨randoms, same⟩
          rw [same]
          have drawn : Zeroed { st with randoms } := zeroed.sameProv rfl rfl
          apply Zeroed.setAgent
          apply Zeroed.note
          exact drawn.setProv live rfl
        next => exact provAbort_zeroed zeroed

/-- Only a point of the curve brings another secret. -/
theorem provCalcEcdh_zeroed (uses : UsesEcdh env) (zeroed : Zeroed st) :
    Zeroed (provCalcEcdh env st) := by
  rw [provCalcEcdh]
  cases live : st.prov with
  | none => exact zeroed
  | some prov =>
      dsimp only
      refine provAuthenticate_zeroed ?_ rfl
      by_cases offCurve : OffCurve prov.confIn.devPubKey
      · have refused := uses.refuses offCurve st.exchanges prov.ephPrivKey prov.ecdhSecret
        apply Zeroed.note
        rcases zeroed with earlier | zero
        · exact Or.inl earlier
        · right
          intro prov' live'
          rw [← Option.some_inj.mp live']
          change swapSecret (env.ecdhSharedSecret st.exchanges
            (swapKey prov.confIn.devPubKey) prov.ephPrivKey prov.ecdhSecret).2 = Buffer.zero
          rw [refused]
          change swapSecret prov.ecdhSecret = Buffer.zero
          rw [zero prov live, swapSecret_zero]
      · refine Or.inl ⟨prov.confIn.devPubKey, ?_, offCurve⟩
        exact List.mem_filterMap.mpr
          ⟨_, List.mem_append_right _ (List.mem_singleton_self _), rfl⟩

theorem provSendPubKey_zeroed (uses : UsesEcdh env) (zeroed : Zeroed st) :
    Zeroed (provSendPubKey env st) := by
  rw [provSendPubKey]
  cases live : st.prov with
  | none => exact zeroed
  | some prov =>
      have waits : Zeroed (st.setProv { prov with state := provPubKey }) :=
        zeroed.setProv live rfl
      dsimp only
      split
      next => exact gattWrite_zeroed waits _ _ fun _ => provCalcEcdh_zeroed uses
      next => exact gattWriteOnly_zeroed waits _

theorem provOobPubKey_zeroed (uses : UsesEcdh env) (zeroed : Zeroed st) (buf : List Byte) :
    Zeroed (provOobPubKey env buf st) := by
  rw [provOobPubKey]
  cases live : st.prov with
  | none => exact zeroed
  | some prov =>
      dsimp only
      apply provSendPubKey_zeroed uses
      apply Zeroed.note
      exact zeroed.setProv live rfl

theorem provStartCmplt_zeroed (uses : UsesEcdh env) (zeroed : Zeroed st) :
    Zeroed (provStartCmplt env st) := by
  rw [provStartCmplt]
  cases live : st.prov with
  | none => exact zeroed
  | some prov =>
      dsimp only
      split
      next => exact zeroed.sameProv rfl live.symm
      next => exact provSendPubKey_zeroed uses zeroed

/-! ## Inputs -/

theorem answerRequest_zeroed (uses : UsesEcdh env) (zeroed : Zeroed st) (type : OobType)
    (buf : List Byte) : Zeroed (answerRequest env type buf st) := by
  cases asked : st.agent.pending.cb with
  | none =>
      simp only [answerRequest, asked]
      exact zeroed.sameProv rfl rfl
  | some cb =>
      cases cb with
      | provOobPubKey =>
          simp only [answerRequest, asked]
          exact (provOobPubKey_zeroed uses zeroed buf).sameProv rfl rfl
      | provOutOobDone =>
          simp only [answerRequest, asked]
          exact (provOutOobDone_zeroed zeroed type buf).sameProv rfl rfl

theorem releasePrompt_zeroed (uses : UsesEcdh env) (zeroed : Zeroed st)
    (input : List Byte) : Zeroed (releasePrompt env input st) := by
  rw [releasePrompt]
  cases st.agent.prompt with
  | none => exact zeroed
  | some func =>
      have released : Zeroed { st with agent := { st.agent with prompt := none } } :=
        zeroed.sameProv rfl rfl
      cases func with
      | responseHexadecimal =>
          simp only [PromptFunc.respond]
          split
          · exact released
          · exact answerRequest_zeroed uses released _ _
      | responseDecimal =>
          simp only [PromptFunc.respond]
          split
          · exact released
          · exact answerRequest_zeroed uses released _ _
      | responseAscii => exact answerRequest_zeroed uses released _ _
      | responseOutput => exact released.sameProv rfl rfl

theorem agentOutputRequestCancel_zeroed (uses : UsesEcdh env) (zeroed : Zeroed st) :
    Zeroed (agentOutputRequestCancel env st) := by
  rw [agentOutputRequestCancel]
  split
  · exact zeroed
  · exact releasePrompt_zeroed uses (zeroed.setAgent _) []

theorem runCallback_zeroed (uses : UsesEcdh env) (zeroed : Zeroed st)
    (cb : WriteCallback) : Zeroed (runCallback env cb st) := by
  cases cb with
  | provStartCmplt => exact provStartCmplt_zeroed uses zeroed
  | provCalcEcdh => exact provCalcEcdh_zeroed uses zeroed

theorem acquireWriteReply_zeroed (uses : UsesEcdh env) (zeroed : Zeroed st) (index : Nat)
    (success : Bool) : Zeroed (acquireWriteReply env index success st) := by
  rw [acquireWriteReply]
  split
  next => exact zeroed
  next cb _ =>
    have replied : Zeroed { st with acquiring := st.acquiring.eraseIdx index } :=
      zeroed.sameProv rfl rfl
    dsimp only
    split
    next => exact runCallback_zeroed uses replied _
    next => exact replied

theorem inviteReady_zeroed (uses : UsesEcdh env) (zeroed : Zeroed st) {prov : ProvData}
    (live : st.prov = some prov) (buf : List Byte) :
    Zeroed (inviteReady env prov buf st).2 := by
  rw [inviteReady]
  dsimp only
  split
  next => exact provAbort_zeroed zeroed
  next =>
    split
    next => exact provAbort_zeroed (zeroed.setProv live rfl)
    next =>
      split
      next => exact provAbort_zeroed (zeroed.of_same List.prefix_rfl fun prov' live' =>
          ⟨prov, live, by rw [← Option.some_inj.mp live']⟩)
      next =>
        split
        next => exact provAbort_zeroed (zeroed.of_same List.prefix_rfl fun prov' live' =>
            ⟨prov, live, by rw [← Option.some_inj.mp live']⟩)
        next =>
          refine gattWrite_zeroed ?_ _ _ fun _ => provStartCmplt_zeroed uses
          exact zeroed.of_same List.prefix_rfl fun prov' live' =>
            ⟨prov, live, by rw [← Option.some_inj.mp live']⟩

theorem provSendProvData_zeroed (zeroed : Zeroed st) :
    Zeroed (provSendProvData env st).2 := by
  rw [provSendProvData]
  cases live : st.prov with
  | none => exact zeroed
  | some prov =>
      dsimp only
      have keyed : Zeroed (st.setProv
          { prov with devKey := deviceKey env prov.ecdhSecret prov.salt }) :=
        zeroed.setProv live rfl
      have called := keyed.note (.sendProvData prov.confKey prov.randAuth)
      split
      next => exact called
      next =>
        apply gattWriteOnly_zeroed
        exact called.setProv rfl rfl

theorem Handled.zeroed (uses : UsesEcdh env) {prov : ProvData} {pdu : List Byte}
    {next : ProvState} (zeroed : Zeroed st) (live : st.prov = some prov)
    (handled : Handled env prov st pdu next) : Zeroed next := by
  cases handled with
  | failed status => exact provComplete_zeroed zeroed status
  | rejected => exact provAbort_zeroed zeroed
  | invited caps invite => exact inviteReady_zeroed uses zeroed live _
  | keyed key waits overAir =>
      apply provCalcEcdh_zeroed uses
      exact zeroed.setProv live rfl
  | entered waits => exact provSendConfirm_zeroed (agentOutputRequestCancel_zeroed uses zeroed)
  | confirmed conf waits =>
      apply gattWriteOnly_zeroed
      exact zeroed.setProv live rfl
  | revealed random salt waits verified =>
      apply provSendProvData_zeroed
      exact zeroed.setProv live rfl
  | completed waits => exact provComplete_zeroed zeroed 0

theorem provStep_zeroed (uses : UsesEcdh env) (zeroed : Zeroed st) (input : ProvInput) :
    Zeroed (provStep env st input).nextState := by
  cases input with
  | pdu buf len =>
      rcases provDataReady_cases env buf len st with same | ⟨prov, live, handled⟩
      · change Zeroed (provDataReady env buf len st).2
        rw [same]
        exact zeroed
      · exact handled.zeroed uses (zeroed.note _) live
  | answer input =>
      change Zeroed (userInput env input st)
      rw [userInput]
      split
      · exact zeroed
      · exact releasePrompt_zeroed uses zeroed input
  | writeReply index success => exact acquireWriteReply_zeroed uses zeroed index success
  | network net => exact zeroed.sameProv rfl rfl
  | secLevel level =>
      rw [provStep]
      split
      · exact zeroed
      · exact zeroed.sameProv rfl rfl

theorem openedSession_zeroed (netIdx : U16) (st : ProvState) :
    Zeroed (openedSession env netIdx st) := by
  rw [openedSession, provOpen]
  apply gattWriteOnly_zeroed
  right
  intro prov live
  rw [← Option.some_inj.mp live]
  rfl

end Steps

/-- In every run of a session with the key exchange of `ecc.c`, the secret is zero as long
as no point of the curve was exchanged: other keys do not end the session. -/
theorem secret_zero_off_curve (env : ProvEnv) (uses : UsesEcdh env) (netIdx : U16)
    (st : ProvState) (inputs : List ProvInput)
    (offCurve : ∀ key ∈ ((provModel env).finalState (openedSession env netIdx st)
      inputs).history.filterMap ProvEvent.exchangedKey, OffCurve key) :
    ∀ prov, ((provModel env).finalState (openedSession env netIdx st) inputs).prov =
      some prov → prov.ecdhSecret = Buffer.zero := by
  have zeroed : Zeroed ((provModel env).finalState (openedSession env netIdx st) inputs) :=
    (provModel env).invariant_finalState Zeroed (fun _ => True)
      (fun st input zeroed _ => provStep_zeroed uses zeroed input)
      (openedSession_zeroed netIdx st) (fun _ _ => trivial)
  rcases zeroed with ⟨key, exchanged, point⟩ | zero
  · exact absurd (offCurve key exchanged) point
  · exact zero

/-! ### A key of zeros -/

/-- The plain environment with the key exchange of `ecc.c`, and always the same random
bytes. -/
def curveEnv : ProvEnv :=
  { plainProvEnv with
    ecdhSharedSecret := fun _ publicKey privateKey secret =>
      (Ecc.ecdhSharedSecret (some .one) publicKey privateKey secret).getD (false, secret) }

theorem curveEnv_uses : UsesEcdh curveEnv := by
  intro index publicKey privateKey secret
  refine ⟨some .one, ?_⟩
  rcases Option.isSome_iff_exists.mp
    (Ecc.isSome_sharedSecret (some .one) publicKey privateKey secret) with ⟨result, found⟩
  rw [curveEnv]
  simp only [found, Option.getD_some]

theorem offCurve_zero : OffCurve Buffer.zero where
  keeps := by decide +kernel
  outside := Ecc.not_equation_of_isZero (by decide +kernel)

def curveRun (inputs : List ProvInput) : ProvState :=
  (provModel curveEnv).finalState (openedSession curveEnv 0 plainProvState) inputs

/-- The key is exchanged, and the session goes on to authenticate the device. -/
theorem secret_zero_off_curve_zeros :
    ((curveRun [capsPdu 0 1, keyPdu]).history.filterMap ProvEvent.exchangedKey =
        [Buffer.zero] ∧ (curveRun [capsPdu 0 1, keyPdu]).agent.prompt.isSome = true) ∧
      ∀ prov, (curveRun [capsPdu 0 1, keyPdu]).prov = some prov →
        prov.ecdhSecret = Buffer.zero := by
  have exchanged : (curveRun [capsPdu 0 1, keyPdu]).history.filterMap
      ProvEvent.exchangedKey = [Buffer.zero] := by
    decide +kernel
  refine ⟨⟨exchanged, by decide +kernel⟩, ?_⟩
  apply secret_zero_off_curve curveEnv curveEnv_uses 0 plainProvState
  intro key member
  change key ∈ (curveRun [capsPdu 0 1, keyPdu]).history.filterMap _ at member
  rw [exchanged] at member
  rw [List.mem_singleton.mp member]
  exact offCurve_zero

end Meshctl.Prov
