import Meshctl.Prov.Authentication

/-! # What the statements of a session do

The functions of a session once more, told by what their statements do to the
record of the session and to the agent, in order. Each log has the branches of
its function, and is taken in the state that the function starts in.
-/

namespace Meshctl.Prov

open Bytes Net Crypto

/-! ## Requests -/

/-- A call of `agent_input_request` or of `agent_output_request`. -/
inductive AgentRequest where
  | input (type : OobType) (maxLen : U16) (cb : InputCallback)
  | output
deriving DecidableEq

namespace AgentRequest

variable (request : AgentRequest) (agent : Agent)

def issue : Agent :=
  match request with
  | input type maxLen cb => agent.inputRequest type maxLen cb
  | output => agent.outputRequest

/-- The prompt of the request, if the agent knows how to ask for it. -/
def func : Option PromptFunc :=
  match request with
  | input type maxLen _ => Agent.request type maxLen
  | output => some .responseOutput

/-- The agent takes the request, and the shell shows its prompt. -/
def shows : Bool :=
  agent.pending.type = .none && request.func.isSome && agent.prompt.isNone

/-- The request is the pending one, and the shell waits for its answer. -/
def Waits : Prop :=
  agent.prompt = request.func ∧
    match request with
    | input type maxLen cb => agent.pending = ⟨type, maxLen, some cb⟩
    | output => agent.pending.type = .output

instance : Decidable (request.Waits agent) := by
  unfold Waits
  cases request <;> exact inferInstance

end AgentRequest

/-! ## Actions -/

/-- What a statement does. -/
inductive SessionAction where
  /-- It reads or writes the record. -/
  | touch
  /-- It frees the record. -/
  | free
  /-- It puts a PDU of the session into the pipe. -/
  | send
  /-- It asks the agent for something, and the prompt is shown or not. -/
  | ask (request : AgentRequest) (shown : Bool)
deriving DecidableEq

namespace SessionAction

/-- The session is at work. -/
def Uses : SessionAction → Prop
  | touch => True
  | send => True
  | free => False
  | ask _ _ => False

instance : DecidablePred Uses
  | touch => isTrue trivial
  | send => isTrue trivial
  | free => isFalse id
  | ask _ _ => isFalse id

/-- The second action may come after the first one. -/
def LeavesAlone (first later : SessionAction) : Prop :=
  first = free → ¬later.Uses

instance : DecidableRel LeavesAlone := fun first later =>
  inferInstanceAs (Decidable (first = free → ¬later.Uses))

def asked : SessionAction → Option (AgentRequest × Bool)
  | ask request shown => some (request, shown)
  | _ => none

end SessionAction

/-- The requests of a log, and whether they are shown. -/
def requests (log : List SessionAction) : List (AgentRequest × Bool) :=
  log.filterMap SessionAction.asked

@[simp] theorem requests_nil : requests [] = [] := rfl

@[simp] theorem requests_touch (log : List SessionAction) :
    requests (.touch :: log) = requests log := rfl

@[simp] theorem requests_send (log : List SessionAction) :
    requests (.send :: log) = requests log := rfl

@[simp] theorem requests_append (first second : List SessionAction) :
    requests (first ++ second) = requests first ++ requests second :=
  List.filterMap_append

/-! ## Logs -/

section Logs

variable (env : ProvEnv)

def askLog (request : AgentRequest) (st : ProvState) : List SessionAction :=
  [.ask request (request.shows st.agent)]

/-- `mesh_gatt_write`, with the log of the callback that runs inside of it. A PDU
that waits for the pipe is sent later. -/
def gattWriteLog (writtenLog : List SessionAction) (st : ProvState) :
    List SessionAction :=
  match env.gatt st.writes with
  | .sent => .send :: writtenLog
  | .queued => []
  | .refused => []

def provCompleteLog (st : ProvState) : List SessionAction :=
  match st.prov with
  | none => []
  | some _ => [.touch, .free]

def provSendConfirmLog (st : ProvState) : List SessionAction :=
  match st.prov with
  | none => []
  | some _ => .touch :: gattWriteLog env [] st

/-- After an answer of the wrong length comes `memcpy` to the record that
`prov` still points to. -/
def provOutOobDoneLog (type : OobType) (buf : List Byte) (st : ProvState) :
    List SessionAction :=
  match st.prov with
  | none => []
  | some prov =>
      match oobOffset type buf.length with
      | none =>
          match type with
          | .none | .output => provCompleteLog st
          | .hexadecimal | .decimal | .ascii =>
              provCompleteLog st ++ .touch :: provSendConfirmLog env (provAbort st).2
      | some offset =>
          let st := st.setProv
            { prov with randAuth := prov.randAuth.copy offset buf }
          .touch :: provSendConfirmLog env (st.note (.oobValue buf))

/-- The request at the end of `prov_calc_ecdh`, by the method. -/
def authRequest (prov : ProvData) : Option AgentRequest :=
  let action := prov.confIn.start.authAction
  let size := prov.confIn.start.authSize
  if prov.authMethod = provStaticOob then
    some (.input .hexadecimal 16 .provOutOobDone)
  else if prov.authMethod = provOutputOob then
    let type := if action ≤ 3 then OobType.decimal else OobType.ascii
    some (.input type (size.setWidth 16) .provOutOobDone)
  else if prov.authMethod = provInputOob then
    some .output
  else
    none

def provAuthenticateLog (prov : ProvData) (st : ProvState) :
    List SessionAction :=
  match authRequest prov with
  | some request => .touch :: askLog request st
  | none =>
      if prov.authMethod = provNoOob then .touch :: provSendConfirmLog env st
      else .touch :: provCompleteLog st

/-- The record and the state in which `prov_calc_ecdh` looks at the method. -/
def exchanged (prov : ProvData) (st : ProvState) : ProvData × ProvState :=
  let (computed, secret) := env.ecdhSharedSecret st.exchanges
    (swapKey prov.confIn.devPubKey) prov.ephPrivKey prov.ecdhSecret
  let st := { st with exchanges := st.exchanges + 1 }
  let ecdhSecret := swapSecret secret
  let salt := s1 env prov.confIn.bytes
  let confKey := provConfKey env ecdhSecret salt
  let prov := { prov with ecdhSecret, salt, confKey }
  (prov, (st.setProv prov).note (.ecdh prov.confIn.devPubKey computed))

/-- `action` and `size` are read before it is known whether there is a
session. -/
def provCalcEcdhLog (st : ProvState) : List SessionAction :=
  .touch ::
    match st.prov with
    | none => []
    | some prov =>
        let (prov, st) := exchanged env prov st
        provAuthenticateLog env prov st

def provSendPubKeyLog (st : ProvState) : List SessionAction :=
  match st.prov with
  | none => []
  | some prov =>
      let pdu := [proxyProvisioningPdu, provPubKey] ++ prov.confIn.prvPubKey.bytes
      let st := st.setProv { prov with state := provPubKey }
      if prov.keyOutOfBand then
        .touch :: gattWriteLog env (provCalcEcdhLog env (started pdu st)) st
      else
        .touch :: gattWriteLog env [] st

def provOobPubKeyLog (buf : List Byte) (st : ProvState) : List SessionAction :=
  match st.prov with
  | none => []
  | some prov =>
      let devPubKey := Buffer.read buf 0
      let st := st.setProv
        { prov with confIn := { prov.confIn with devPubKey } }
      .touch :: provSendPubKeyLog env (st.note (.oobPubKey devPubKey))

def provStartCmpltLog (st : ProvState) : List SessionAction :=
  match st.prov with
  | none => []
  | some prov =>
      if prov.keyOutOfBand then
        .touch :: askLog (.input .hexadecimal 64 .provOobPubKey) st
      else
        .touch :: provSendPubKeyLog env st

def runCallbackLog (cb : WriteCallback) : ProvState → List SessionAction :=
  match cb with
  | .provStartCmplt => provStartCmpltLog env
  | .provCalcEcdh => provCalcEcdhLog env

/-! ### Answers -/

def answerRequestLog (type : OobType) (buf : List Byte) (st : ProvState) :
    List SessionAction :=
  match st.agent.pending.cb with
  | none => []
  | some .provOobPubKey => provOobPubKeyLog env buf st
  | some .provOutOobDone => provOutOobDoneLog env type buf st

def respondLog (func : PromptFunc) (input : List Byte) (st : ProvState) :
    List SessionAction :=
  match func with
  | .responseHexadecimal =>
      match str2hex input st.agent.pending.len.toNat with
      | none => []
      | some buf => answerRequestLog env .hexadecimal buf st
  | .responseDecimal =>
      if st.agent.pending.len.toNat < input.length then []
      else answerRequestLog env .decimal (be32 (atoi input)) st
  | .responseAscii => answerRequestLog env .ascii input st
  | .responseOutput => []

def releasePromptLog (input : List Byte) (st : ProvState) :
    List SessionAction :=
  match st.agent.prompt with
  | none => []
  | some func =>
      respondLog env func input { st with agent := { st.agent with prompt := none } }

def agentOutputRequestCancelLog (st : ProvState) : List SessionAction :=
  if st.agent.pending.type ≠ .output then
    []
  else
    let pending := { st.agent.pending with type := .none }
    releasePromptLog env [] { st with agent := { st.agent with pending } }

def userInputLog (input : List Byte) (st : ProvState) : List SessionAction :=
  if input.isEmpty then [] else releasePromptLog env input st

/-- A PDU that waited for the pipe is sent now. -/
def acquireWriteReplyLog (index : Nat) (success : Bool) (st : ProvState) :
    List SessionAction :=
  match st.acquiring[index]? with
  | none => []
  | some cb =>
      let st := { st with acquiring := st.acquiring.eraseIdx index }
      match success, cb with
      | true, some cb => .send :: runCallbackLog env cb st
      | true, none => [.send]
      | false, _ => []

/-! ### PDUs -/

def inviteReadyLog (prov : ProvData) (buf : List Byte) (st : ProvState) :
    List SessionAction :=
  if get buf 0 ≠ provCaps then
    provCompleteLog st
  else
    let caps : Caps := Buffer.read buf 1
    let prov := { prov with confIn := { prov.confIn with caps } }
    let st := st.setProv prov
    if !acceptsCaps st.secLevel caps then
      .touch :: provCompleteLog st
    else
      let (newAddr, pool) := netObtainAddress st.pool caps.numEle
      let prov := { prov with newAddr }
      let st := { st with pool }.setProv prov
      if newAddr = 0 then
        .touch :: provCompleteLog st
      else
        let start := composeStart caps prov.confIn.start
        let prov := { prov with confIn := { prov.confIn with start } }
        let st := st.setProv prov
        if 8 < start.authSize then
          .touch :: provCompleteLog st
        else
          let (prvPubKey, ephPrivKey) := makeKeys env prov
          let prov :=
            { prov with
              state := provStart, ephPrivKey
              confIn := { prov.confIn with prvPubKey } }
          let pdu := [proxyProvisioningPdu, provStart] ++ start.bytes
          let st := st.setProv prov
          .touch :: gattWriteLog env (provStartCmpltLog env (started pdu st)) st

def pubKeyReadyLog (prov : ProvData) (buf : List Byte) (st : ProvState) :
    List SessionAction :=
  if get buf 0 = provPubKey ∧ !prov.keyOutOfBand then
    let confIn := { prov.confIn with devPubKey := Buffer.read buf 1 }
    .touch :: provCalcEcdhLog env (st.setProv { prov with confIn })
  else if get buf 0 = provInpCmplt then
    agentOutputRequestCancelLog env st ++
      provSendConfirmLog env (agentOutputRequestCancel env st)
  else
    provCompleteLog st

def confirmReadyLog (prov : ProvData) (buf : List Byte) (st : ProvState) :
    List SessionAction :=
  if get buf 0 ≠ provConfirm then
    provCompleteLog st
  else
    let st := st.setProv
      { prov with meshConf := Buffer.read buf 1, state := provRandom }
    .touch :: gattWriteLog env [] st

def provSendProvDataLog (st : ProvState) : List SessionAction :=
  match st.prov with
  | none => []
  | some prov =>
      match st.net.key prov.netIdx with
      | none => [.touch]
      | some _ => .touch :: gattWriteLog env [] st

def randomReadyLog (prov : ProvData) (buf : List Byte) (st : ProvState) :
    List SessionAction :=
  if get buf 0 ≠ provRandom then
    provCompleteLog st
  else
    let devRand := slice buf 1 16
    let salt := provProvSalt env prov.salt (slice prov.randAuth.bytes 0 16) devRand
    let randAuth := prov.randAuth.copy 0 devRand
    let st := st.setProv { prov with salt, randAuth }
    if env.aesCmac prov.confKey randAuth.bytes ≠ prov.meshConf then
      .touch :: provCompleteLog st
    else
      .touch :: provSendProvDataLog env st

def pduReadyLog (prov : ProvData) (buf : List Byte) (st : ProvState) :
    List SessionAction :=
  if provFailed < get buf 0 ∨ expectedPduSize (get buf 0) ≠ buf.length then
    provCompleteLog st
  else if get buf 0 = provFailed then
    provCompleteLog st
  else if prov.state = provInvite then
    .touch :: inviteReadyLog env prov buf st
  else if prov.state = provPubKey then
    .touch :: pubKeyReadyLog env prov buf st
  else if prov.state = provConfirm then
    .touch :: confirmReadyLog env prov buf st
  else if prov.state = provRandom then
    .touch :: randomReadyLog env prov buf st
  else
    .touch :: provCompleteLog st

def provDataReadyLog (buf : List Byte) (len : Byte) (st : ProvState) :
    List SessionAction :=
  match st.prov with
  | none => []
  | some prov =>
      if len.toNat < 2 then
        []
      else
        let pdu := payload buf len
        pduReadyLog env prov pdu (st.note (.received pdu))

/-! ### Runs -/

def stepLog (st : ProvState) : ProvInput → List SessionAction
  | .pdu buf len => provDataReadyLog env buf len st
  | .answer input => userInputLog env input st
  | .writeReply index success => acquireWriteReplyLog env index success st
  | .network _ => []
  | .secLevel _ => []

/-- Everything that the statements do in a run. -/
def runLog (st : ProvState) (inputs : List ProvInput) : List SessionAction :=
  ((provModel env).trace st inputs).flatMap fun entry =>
    stepLog env entry.before entry.input

end Logs

end Meshctl.Prov
