import Meshctl.Foundation.Execution
import Meshctl.Prov.Agent

/-! # A provisioning session

The session starts with an invitation and ends in `prov_complete`. In between
it is moved by the PDUs of the device, the answers of the user and the
completions of its own writes.
-/

namespace Meshctl.Prov

open Bytes Net Crypto Execution

/-! ## Byte order and keys -/

/-- Each coordinate of a point, in the other byte order. -/
def swapKey (key : Buffer 64) : Buffer 64 :=
  Buffer.ofFn fun index =>
    key.get (if index < 32 then 31 - index else 95 - index)

def swapSecret (secret : Buffer 32) : Buffer 32 :=
  Buffer.ofFn fun index => secret.get (31 - index)

section Keys

variable (env : ProvEnv)

def s1 (info : List Byte) : AesBlock := env.aesCmac Buffer.zero info

/-- `mesh_crypto_prov_conf_key`, `mesh_crypto_session_key`, `mesh_crypto_nonce`
and `mesh_crypto_device_key` differ in the text they end with. -/
def derivedKey (text : List Byte) (secret : Buffer 32) (salt : AesBlock) :
    AesBlock :=
  env.aesCmac (env.aesCmac salt secret.bytes) text

def provConfKey : Buffer 32 → AesBlock → AesBlock :=
  derivedKey env [0x70, 0x72, 0x63, 0x6b]

def sessionKey : Buffer 32 → AesBlock → AesBlock :=
  derivedKey env [0x70, 0x72, 0x73, 0x6b]

def sessionNonce (secret : Buffer 32) (salt : AesBlock) : List Byte :=
  slice (derivedKey env [0x70, 0x72, 0x73, 0x6e] secret salt).bytes 3 13

def deviceKey : Buffer 32 → AesBlock → AesBlock :=
  derivedKey env [0x70, 0x72, 0x64, 0x6b]

def provProvSalt (confSalt : AesBlock) (provRand devRand : List Byte) :
    AesBlock :=
  env.aesCmac Buffer.zero (confSalt.bytes ++ provRand ++ devRand)

end Keys

/-! ## Writing and ending -/

section Session

variable (env : ProvEnv)

/-- `mesh_gatt_write`. The callback of a PDU that is written at once runs inside
of the call. -/
def gattWrite (pdu : List Byte) (cb : Option WriteCallback)
    (written : ProvState → ProvState) (st : ProvState) : Bool × ProvState :=
  let outcome := env.gatt st.writes
  let st := ({ st with writes := st.writes + 1 } : ProvState).note (.wrote pdu)
  match outcome with
  | .sent => (true, written st)
  | .queued => (true, { st with acquiring := st.acquiring ++ [cb] })
  | .refused => (false, st)

/-- `mesh_gatt_write` without a callback. -/
def gattWriteOnly (pdu : List Byte) : ProvState → Bool × ProvState :=
  gattWrite env pdu none id

def randomBytes (count : Nat) (st : ProvState) : List Byte × ProvState :=
  ((List.range count).map fun i => env.random (st.randoms + i),
    { st with randoms := st.randoms + count })

def addNetKey (netKeys : List U16) (netIdx : U16) : List U16 :=
  if netKeys.contains netIdx then netKeys else netKeys ++ [netIdx]

/-- The node that `prov_complete` leaves behind. -/
def completedNode (prov : ProvData) (status : Byte) (node : ProvNode) :
    ProvNode :=
  if status = 0 then
    { numEle := prov.confIn.caps.numEle, primary := prov.newAddr
      devKey := prov.devKey, netKeys := addNetKey node.netKeys prov.netIdx }
  else
    node

def provComplete (status : Byte) (st : ProvState) : Bool × ProvState :=
  match st.prov with
  | none => (false, st)
  | some prov =>
      let numEle := prov.confIn.caps.numEle
      let pool :=
        if status ≠ 0 ∧ prov.newAddr ≠ 0 ∧ numEle ≠ 0 then
          netReleaseAddress st.pool prov.newAddr numEle
        else
          st.pool
      let node := completedNode prov status st.node
      (true, ({ st with pool, node, prov := none } : ProvState).note
        (.completed status))

/-- The many ways to give up. -/
def provAbort : ProvState → Bool × ProvState := provComplete provErrInvalidPdu

/-! ## The confirmation of the provisioner -/

def provSendConfirm (st : ProvState) : Bool × ProvState :=
  match st.prov with
  | none => (false, st)
  | some prov =>
      let st := st.note (.sendConfirm prov.authMethod)
      let (random, st) := randomBytes env 16 st
      let randAuth := prov.randAuth.copy 0 random
      let conf := env.aesCmac prov.confKey randAuth.bytes
      let st := st.setProv { prov with randAuth, state := provConfirm }
      gattWriteOnly env ([proxyProvisioningPdu, provConfirm] ++ conf.bytes) st

/-! ## Callbacks -/

/-- Where the answer to a request goes in `rand_auth`: nowhere, if it ends the
session. -/
def oobOffset (type : OobType) (len : Nat) : Option Nat :=
  match type with
  | .hexadecimal | .ascii => if 16 < len then none else some 16
  | .decimal => if len ≠ 4 then none else some (32 - 4)
  | .none | .output => none

/-- An answer of the wrong length ends the session. (The source then goes on with
the memory it has freed, but finds no session to send for.) -/
def provOutOobDone (type : OobType) (buf : List Byte) (st : ProvState) :
    ProvState :=
  match st.prov with
  | none => st
  | some prov =>
      match oobOffset type buf.length with
      | none => (provAbort st).2
      | some offset =>
          let st := st.setProv
            { prov with randAuth := prov.randAuth.copy offset buf }
          (provSendConfirm env (st.note (.oobValue buf))).2

/-- One character of a random text: digits, capital and small letters. -/
def asciiChar (random : Byte) : Byte :=
  let char := random.toNat % (26 * 2 + 10)
  BitVec.ofNat 8 <|
    if 10 + 26 ≤ char then char + 0x61 - (10 + 26)
    else if 10 ≤ char then char + 0x41 - 10
    else char + 0x30

/-- The value to be entered on the device, and where it is stored. -/
def generateOob (action size : Byte) (st : ProvState) :
    (Nat × List Byte) × ProvState :=
  if action ≤ 2 then
    let (random, st) := randomBytes env 4 st
    let inOob := (getBe32 random.reverse 0).toNat % 10 ^ size.toNat
    ((32 - 4, be32 (BitVec.ofNat 32 inOob)), st)
  else
    let (random, st) := randomBytes env size.toNat st
    ((16, random.map asciiChar), st)

/-- The end of `prov_calc_ecdh`. -/
def provAuthenticate (prov : ProvData) (st : ProvState) : ProvState :=
  let action := prov.confIn.start.authAction
  let size := prov.confIn.start.authSize
  if prov.authMethod = provNoOob then
    (provSendConfirm env st).2
  else if prov.authMethod = provStaticOob then
    { st with agent := st.agent.inputRequest .hexadecimal 16 .provOutOobDone }
  else if prov.authMethod = provOutputOob then
    let type := if action ≤ 3 then OobType.decimal else OobType.ascii
    { st with
      agent := st.agent.inputRequest type (size.setWidth 16) .provOutOobDone }
  else if prov.authMethod = provInputOob then
    let ((offset, value), st) := generateOob env action size st
    let st := st.setProv
      { prov with randAuth := prov.randAuth.copy offset value }
    let st := st.note (.generated value)
    { st with agent := st.agent.outputRequest }
  else
    (provAbort st).2

/-- Whether the key exchange succeeds is not looked at. (Without a session the
source reads through a null pointer.) -/
def provCalcEcdh (st : ProvState) : ProvState :=
  match st.prov with
  | none => st
  | some prov =>
      let (computed, secret) := env.ecdhSharedSecret st.exchanges
        (swapKey prov.confIn.devPubKey) prov.ephPrivKey prov.ecdhSecret
      let st := { st with exchanges := st.exchanges + 1 }
      let ecdhSecret := swapSecret secret
      let salt := s1 env prov.confIn.bytes
      let confKey := provConfKey env ecdhSecret salt
      let prov := { prov with ecdhSecret, salt, confKey }
      provAuthenticate env prov
        ((st.setProv prov).note (.ecdh prov.confIn.devPubKey computed))

def provSendPubKey (st : ProvState) : ProvState :=
  match st.prov with
  | none => st
  | some prov =>
      let pdu := [proxyProvisioningPdu, provPubKey] ++ prov.confIn.prvPubKey.bytes
      let st := st.setProv { prov with state := provPubKey }
      if prov.keyOutOfBand then
        (gattWrite env pdu (some .provCalcEcdh) (provCalcEcdh env) st).2
      else
        (gattWriteOnly env pdu st).2

def provOobPubKey (buf : List Byte) (st : ProvState) : ProvState :=
  match st.prov with
  | none => st
  | some prov =>
      let devPubKey := Buffer.read buf 0
      let st := st.setProv
        { prov with confIn := { prov.confIn with devPubKey } }
      provSendPubKey env (st.note (.oobPubKey devPubKey))

def provStartCmplt (st : ProvState) : ProvState :=
  match st.prov with
  | none => st
  | some prov =>
      if prov.keyOutOfBand then
        { st with agent := st.agent.inputRequest .hexadecimal 64 .provOobPubKey }
      else
        provSendPubKey env st

def runCallback (cb : WriteCallback) : ProvState → ProvState :=
  match cb with
  | .provStartCmplt => provStartCmplt env
  | .provCalcEcdh => provCalcEcdh env

/-! ## Answers -/

/-- Call the callback of the pending request, and forget the request. -/
def answerRequest (type : OobType) (buf : List Byte) (st : ProvState) :
    ProvState :=
  let st :=
    match st.agent.pending.cb with
    | none => st
    | some .provOobPubKey => provOobPubKey env buf st
    | some .provOutOobDone => provOutOobDone env type buf st
  { st with agent := st.agent.resetInputRequest }

/-- The functions that the shell passes a line to. A line that they do not
accept leaves the request pending, without a prompt. -/
def PromptFunc.respond (func : PromptFunc) (input : List Byte)
    (st : ProvState) : ProvState :=
  match func with
  | .responseHexadecimal =>
      match str2hex input st.agent.pending.len.toNat with
      | none => st
      | some buf => answerRequest env .hexadecimal buf st
  | .responseDecimal =>
      if st.agent.pending.len.toNat < input.length then
        st
      else
        answerRequest env .decimal (be32 (atoi input)) st
  | .responseAscii => answerRequest env .ascii input st
  | .responseOutput => { st with agent := st.agent.resetInputRequest }

/-- `bt_shell_release_prompt`. -/
def releasePrompt (input : List Byte) (st : ProvState) : ProvState :=
  match st.agent.prompt with
  | none => st
  | some func =>
      func.respond env input { st with agent := { st.agent with prompt := none } }

def agentOutputRequestCancel (st : ProvState) : ProvState :=
  if st.agent.pending.type ≠ .output then
    st
  else
    let pending := { st.agent.pending with type := .none }
    releasePrompt env [] { st with agent := { st.agent with pending } }

/-- A line of the user; an empty one is ignored, and one that no prompt waits for
is a command. -/
def userInput (input : List Byte) (st : ProvState) : ProvState :=
  if input.isEmpty then st else releasePrompt env input st

/-- The reply to an outstanding `AcquireWrite`. -/
def acquireWriteReply (index : Nat) (success : Bool) (st : ProvState) :
    ProvState :=
  match st.acquiring[index]? with
  | none => st
  | some cb =>
      let st := { st with acquiring := st.acquiring.eraseIdx index }
      match success, cb with
      | true, some cb => runCallback env cb st
      | _, _ => st

/-! ## PDUs -/

/-- Shift out what is below the highest bit, counting. -/
def shiftCount : Nat → U16 → Byte → Byte
  | 0, _, cnt => cnt
  | rounds + 1, mask, cnt =>
      if mask &&& 0xfffe ≠ 0 then shiftCount rounds (mask >>> 1) (cnt + 1)
      else cnt

def u16HighestBit (mask : U16) : Byte :=
  if mask = 0 then 0xff else shiftCount 16 mask 0

/-- Whether the security level accepts the capabilities of a device. -/
def securesEnough (secLevel : Byte) (caps : Caps) : Bool :=
  if secLevel = meshProvSecHigh then
    caps.pubType = 1 || caps.staticType = 1
  else if secLevel = meshProvSecMed then
    caps.pubType = 1 || caps.staticType = 1 || caps.inputSize ≠ 0 ||
      caps.outputSize ≠ 0
  else
    true

def acceptsCaps (secLevel : Byte) (caps : Caps) : Bool :=
  securesEnough secLevel caps && caps.numEle ≠ 0 &&
    caps.algorithms &&& 0x0001 ≠ 0 && caps.pubType ≤ 1 && caps.staticType ≤ 1

/-- "Compose START based on most secure values". -/
def composeStart (caps : Caps) (start : Start) : Start :=
  let start := { start with algorithm := 0, pubKey := caps.pubType }
  if caps.staticType ≠ 0 then
    { start with authMethod := provStaticOob }
  else if caps.inputSize < caps.outputSize then
    { start with
      authMethod := provOutputOob
      authAction := u16HighestBit caps.outputAction
      authSize := caps.outputSize }
  else if 0 < caps.inputSize then
    { start with
      authMethod := provInputOob
      authAction := u16HighestBit caps.inputAction
      authSize := caps.inputSize }
  else
    start

/-- The new keys of the provisioner; the old ones, if there are none. -/
def makeKeys (prov : ProvData) : Buffer 64 × Buffer 32 :=
  match env.makeKey with
  | none => (swapKey prov.confIn.prvPubKey, prov.ephPrivKey)
  | some keys => (swapKey keys.1, keys.2)

/-- A PDU in state `PROV_INVITE`. -/
def inviteReady (prov : ProvData) (buf : List Byte) (st : ProvState) :
    Bool × ProvState :=
  if get buf 0 ≠ provCaps then
    provAbort st
  else
    let caps : Caps := Buffer.read buf 1
    let prov := { prov with confIn := { prov.confIn with caps } }
    let st := st.setProv prov
    if !acceptsCaps st.secLevel caps then
      provAbort st
    else
      let (newAddr, pool) := netObtainAddress st.pool caps.numEle
      let prov := { prov with newAddr }
      let st := { st with pool }.setProv prov
      if newAddr = 0 then
        provAbort st
      else
        let start := composeStart caps prov.confIn.start
        let prov := { prov with confIn := { prov.confIn with start } }
        let st := st.setProv prov
        if 8 < start.authSize then
          provAbort st
        else
          let (prvPubKey, ephPrivKey) := makeKeys env prov
          let prov :=
            { prov with
              state := provStart, ephPrivKey
              confIn := { prov.confIn with prvPubKey } }
          gattWrite env ([proxyProvisioningPdu, provStart] ++ start.bytes)
            (some .provStartCmplt) (provStartCmplt env) (st.setProv prov)

/-- A PDU in state `PROV_PUB_KEY`. -/
def pubKeyReady (prov : ProvData) (buf : List Byte) (st : ProvState) :
    Bool × ProvState :=
  if get buf 0 = provPubKey ∧ !prov.keyOutOfBand then
    let confIn := { prov.confIn with devPubKey := Buffer.read buf 1 }
    (true, provCalcEcdh env (st.setProv { prov with confIn }))
  else if get buf 0 = provInpCmplt then
    provSendConfirm env (agentOutputRequestCancel env st)
  else
    provAbort st

/-- A PDU in state `PROV_CONFIRM`. -/
def confirmReady (prov : ProvData) (buf : List Byte) (st : ProvState) :
    Bool × ProvState :=
  if get buf 0 ≠ provConfirm then
    provAbort st
  else
    let st := st.setProv
      { prov with meshConf := Buffer.read buf 1, state := provRandom }
    gattWriteOnly env
      ([proxyProvisioningPdu, provRandom] ++ slice prov.randAuth.bytes 0 16) st

/-- The provisioning data, before they are encrypted. -/
def provisioningData (prov : ProvData) (net : NetInfo) (key : AesBlock) :
    List Byte :=
  key.bytes ++ be16 prov.netIdx ++ [(net.flags prov.netIdx).getD 0] ++
    be32 net.ivIndex ++ be16 prov.newAddr

def encryptedData (prov : ProvData) (net : NetInfo) (key : AesBlock) :
    List Byte :=
  let session := sessionKey env prov.ecdhSecret prov.salt
  let nonce := sessionNonce env prov.ecdhSecret prov.salt
  let out := [proxyProvisioningPdu, provData] ++ provisioningData prov net key ++
    List.replicate 8 0
  (aesCcmEncrypt (env.aes session) (.inPlace 2) env.stale nonce (fun _ => 0) 0
    25 8 out).memory

/-- Without the network key nothing is sent, and the state stays. -/
def provSendProvData (st : ProvState) : Bool × ProvState :=
  match st.prov with
  | none => (false, st)
  | some prov =>
      let devKey := deviceKey env prov.ecdhSecret prov.salt
      let st := (st.setProv { prov with devKey }).note
        (.sendProvData prov.confKey prov.randAuth)
      match st.net.key prov.netIdx with
      | none => (false, st)
      | some key =>
          gattWriteOnly env (encryptedData env prov st.net key)
            (st.setProv { prov with devKey, state := provData })

/-- A PDU in state `PROV_RANDOM`. The random value of the device takes the place
of that of the provisioner. -/
def randomReady (prov : ProvData) (buf : List Byte) (st : ProvState) :
    Bool × ProvState :=
  if get buf 0 ≠ provRandom then
    provAbort st
  else
    let devRand := slice buf 1 16
    let salt := provProvSalt env prov.salt (slice prov.randAuth.bytes 0 16) devRand
    let randAuth := prov.randAuth.copy 0 devRand
    let st := st.setProv { prov with salt, randAuth }
    if env.aesCmac prov.confKey randAuth.bytes ≠ prov.meshConf then
      provAbort st
    else
      (true, (provSendProvData env st).2)

/-- A PDU in state `PROV_DATA`. -/
def dataReady (buf : List Byte) (st : ProvState) : Bool × ProvState :=
  if get buf 0 ≠ provCompleted then provAbort st else provComplete 0 st

/-- The PDU in a message, behind the type of the message. -/
def payload (buf : List Byte) (len : Byte) : List Byte :=
  slice buf 1 (len.toNat - 1)

/-- `prov_data_ready`, from the check of the PDU on. -/
def pduReady (prov : ProvData) (buf : List Byte) (st : ProvState) :
    Bool × ProvState :=
  if provFailed < get buf 0 ∨ expectedPduSize (get buf 0) ≠ buf.length then
    provAbort st
  else if get buf 0 = provFailed then
    provComplete (get buf 1) st
  else if prov.state = provInvite then
    inviteReady env prov buf st
  else if prov.state = provPubKey then
    pubKeyReady env prov buf st
  else if prov.state = provConfirm then
    confirmReady env prov buf st
  else if prov.state = provRandom then
    randomReady env prov buf st
  else if prov.state = provData then
    dataReady buf st
  else
    provAbort st

def provDataReady (buf : List Byte) (len : Byte) (st : ProvState) :
    Bool × ProvState :=
  match st.prov with
  | none => (false, st)
  | some prov =>
      if len.toNat < 2 then
        (false, st)
      else
        let pdu := payload buf len
        pduReady env prov pdu (st.note (.received pdu))

/-! ## The machine -/

def newSession (netIdx : U16) : ProvData where
  netIdx := netIdx
  newAddr := 0
  state := provInvite
  ephPrivKey := Buffer.zero
  ecdhSecret := Buffer.zero
  confIn :=
    { attention := 0x10, caps := Buffer.zero, start := ⟨0, 0, 0, 0, 0⟩
      prvPubKey := Buffer.zero, devPubKey := Buffer.zero }
  randAuth := Buffer.zero
  salt := Buffer.zero
  confKey := Buffer.zero
  meshConf := Buffer.zero
  devKey := Buffer.zero

/-- `prov_open`. -/
def provOpen (netIdx : U16) (st : ProvState) : Bool × ProvState :=
  match st.prov with
  | some _ => (false, st)
  | none =>
      gattWriteOnly env [proxyProvisioningPdu, provInvite, 0x10]
        (st.setProv (newSession netIdx))

/-- A PDU arrives, the user enters a line, a write is answered, or something
changes that the session does not touch. -/
inductive ProvInput where
  | pdu (buf : List Byte) (len : Byte)
  | answer (input : List Byte)
  | writeReply (index : Nat) (success : Bool)
  | network (net : NetInfo)
  | secLevel (level : Byte)

structure ProvObservation where
  result : Bool

def provStep (st : ProvState) : ProvInput → StepResult ProvState ProvObservation
  | .pdu buf len =>
      let (result, st) := provDataReady env buf len st
      ⟨st, ⟨result⟩⟩
  | .answer input => ⟨userInput env input st, ⟨true⟩⟩
  | .writeReply index success =>
      ⟨acquireWriteReply env index success st, ⟨success⟩⟩
  | .network net => ⟨{ st with net }, ⟨true⟩⟩
  | .secLevel level =>
      if meshProvSecHigh < level then
        ⟨st, ⟨false⟩⟩
      else
        ⟨{ st with secLevel := level }, ⟨true⟩⟩

def provModel : Model ProvState ProvInput ProvObservation where
  step := provStep env

/-- A session that was just opened. Requests and writes that are left from
elsewhere call nothing of the session. -/
def openedSession (netIdx : U16) (st : ProvState) : ProvState :=
  let pending := { st.agent.pending with cb := none }
  (provOpen env netIdx
    { st with
      prov := none, agent := { st.agent with pending }, acquiring := []
      history := [] }).2

end Session

end Meshctl.Prov
