import Meshctl.Prov.Authentication
import Meshctl.Prov.Device

/-! # A session with a device

A session and a device that follows the protocol, and the messages between them.
Messages arrive in order, but at any time; meanwhile the user may enter anything
on both sides, and the keys and the IV index of the network may change.
-/

namespace Meshctl.Prov

open Bytes Net Crypto Execution

/-! ## The system -/

structure Exchange where
  session : ProvState
  device : DeviceState
  /-- How many messages of the session the device has read. -/
  read : Nat
  /-- What the device sent and the session has not received. -/
  replies : List (List Byte)

def ProvEvent.written : ProvEvent → Option (List Byte)
  | .wrote pdu => some pdu
  | _ => none

def ProvEvent.outcome : ProvEvent → Option Byte
  | .completed status => some status
  | _ => none

/-- The messages of a session, oldest first. -/
def ProvState.written (st : ProvState) : List (List Byte) :=
  st.history.filterMap ProvEvent.written

/-- How the session ended, if it did. -/
def ProvState.outcomes (st : ProvState) : List Byte :=
  st.history.filterMap ProvEvent.outcome

inductive ExchangeInput where
  | toDevice
  | toSession
  | enter (value : AesBlock)
  | answer (input : List Byte)
  | writeReply (index : Nat) (success : Bool)
  | network (net : NetInfo)
  | secLevel (level : Byte)

section System

variable (env : ProvEnv) (device : Device)

/-- The session takes an input of its own. -/
def Exchange.takes (ex : Exchange) (input : ProvInput) : Exchange :=
  { ex with session := (provStep env ex.session input).nextState }

def Exchange.toDevice (ex : Exchange) : Exchange :=
  match ex.session.written[ex.read]? with
  | none => ex
  | some bytes =>
      let (state, replies) := device.read env bytes ex.device
      { ex with
        device := state, read := ex.read + 1, replies := ex.replies ++ replies }

def Exchange.toSession (ex : Exchange) : Exchange :=
  match ex.replies with
  | [] => ex
  | reply :: replies =>
      { ex.takes env (.pdu reply (BitVec.ofNat 8 reply.length)) with replies }

def Exchange.enter (ex : Exchange) (value : AesBlock) : Exchange :=
  let (state, replies) := Device.enter value ex.device
  { ex with device := state, replies := ex.replies ++ replies }

def Exchange.next (ex : Exchange) : ExchangeInput → Exchange
  | .toDevice => ex.toDevice env device
  | .toSession => ex.toSession env
  | .enter value => ex.enter value
  | .answer input => ex.takes env (.answer input)
  | .writeReply index success => ex.takes env (.writeReply index success)
  | .network net => ex.takes env (.network net)
  | .secLevel level => ex.takes env (.secLevel level)

def exchangeModel : Model Exchange ExchangeInput Unit where
  step ex input := ⟨ex.next env device input, ()⟩

/-- A session was just opened, with a device that has read nothing. -/
def Exchange.opened (netIdx : U16) (st : ProvState) : Exchange where
  session := openedSession env netIdx st
  device := .idle
  read := 0
  replies := []

end System

/-! ## What the parties agree on -/

/-- Both keys give the same secret, in the byte order of the session. -/
def SharesSecret (env : ProvEnv) (device : Device) (keys : Buffer 64 × Buffer 32) :
    Prop :=
  ∀ exchanges secret,
    swapSecret (env.ecdhSharedSecret exchanges (swapKey device.pubKey) keys.2
      secret).2 = device.secret (swapKey keys.1)

/-- Who takes part, and which networks and security levels there may be in the
meantime. -/
structure Setting where
  env : ProvEnv
  device : Device
  keys : Buffer 64 × Buffer 32
  netIdx : U16
  /-- The state that the session was opened in. -/
  before : ProvState
  Network : NetInfo → Prop
  Level : Byte → Prop

/-- What is settled while the messages are exchanged. -/
structure Terms where
  newAddr : U16
  random : AesBlock
  /-- The authentication values of the session and the device. -/
  auth : AesBlock
  devAuth : AesBlock
  data : List Byte

/-- What a device goes by that has not read a code. -/
def Terms.deviceSide (terms : Terms) : AesBlock × List Byte :=
  (terms.devAuth, terms.data)

namespace Setting

variable (s : Setting)

def start : Start := composeStart s.device.caps ⟨0, 0, 0, 0, 0⟩

def prvPubKey : Buffer 64 := swapKey s.keys.1

def secret : Buffer 32 := s.device.secret s.prvPubKey

def confIn : ConfInput where
  attention := 0x10
  caps := s.device.caps
  start := s.start
  prvPubKey := s.prvPubKey
  devPubKey := s.device.pubKey

def confKey : AesBlock := provConfKey s.env s.secret (confSalt s.env s.confIn)

def salt (terms : Terms) : AesBlock :=
  sessionSalt s.env s.confIn terms.random s.device.random

/-- The code that either party makes of its random value. -/
def conf (random auth : AesBlock) : AesBlock :=
  confirmation s.env s.confIn s.secret random auth

def sealedData (terms : Terms) : List Byte :=
  ccmSealed (s.env.aes (sessionKey s.env s.secret (s.salt terms)))
    (sessionNonce s.env s.secret (s.salt terms)) (fun _ => 0) 0 8 terms.data

/-- The messages of a session. -/
def messages (terms : Terms) : List (List Byte) :=
  [message provInvite [0x10], message provStart s.start.bytes,
    message provPubKey s.prvPubKey.bytes,
    message provConfirm (s.conf terms.random terms.auth).bytes,
    message provRandom terms.random.bytes, message provData (s.sealedData terms)]

end Setting

/-! ## Phases of the device -/

namespace DevicePhase

/-- The messages that were read. -/
def count : DevicePhase → Nat
  | .idle => 0
  | .invited => 1
  | .started => 2
  | .waiting | .ready => 3
  | .confirmed => 4
  | .revealed | .failed => 5
  | .provisioned => 6

end DevicePhase

section Phases

variable (s : Setting) (terms : Terms)

def deviceInvited : DeviceState :=
  { DeviceState.idle with phase := .invited, attention := 0x10 }

def deviceStarted : DeviceState :=
  { deviceInvited with phase := .started, start := s.start }

def deviceWaiting : DeviceState :=
  { deviceStarted s with phase := .waiting, prvPubKey := s.prvPubKey }

def deviceReady : DeviceState :=
  { deviceWaiting s with phase := .ready, auth := terms.devAuth }

def deviceConfirmed : DeviceState :=
  { deviceReady s terms with
    phase := .confirmed, provConf := s.conf terms.random terms.auth }

def deviceRevealed : DeviceState :=
  { deviceConfirmed s terms with phase := .revealed, provRandom := terms.random }

def deviceProvisioned : DeviceState :=
  { deviceRevealed s terms with
    phase := .provisioned, data := some terms.data
    devKey := deviceKey s.env s.secret (s.salt terms) }

def deviceAt : DevicePhase → DeviceState
  | .idle => .idle
  | .invited => deviceInvited
  | .started => deviceStarted s
  | .waiting => deviceWaiting s
  | .ready => deviceReady s terms
  | .confirmed => deviceConfirmed s terms
  | .revealed => deviceRevealed s terms
  | .provisioned => deviceProvisioned s terms
  | .failed => { deviceConfirmed s terms with phase := .failed }

/-- The device accepts the random value of the session. -/
def Accepts : Prop :=
  s.conf terms.random terms.devAuth = s.conf terms.random terms.auth

instance : Decidable (Accepts s terms) := inferInstanceAs (Decidable (_ = _))

def nextPhase : DevicePhase → DevicePhase
  | .idle => .invited
  | .invited => .started
  | .started => if s.start.authMethod = provInputOob then .waiting else .ready
  | .ready => .confirmed
  | .confirmed => if Accepts s terms then .revealed else .failed
  | .revealed => .provisioned
  | .waiting => .waiting
  | .provisioned => .provisioned
  | .failed => .failed

/-- What the device answers to the message that it waits for. -/
def answerIn : DevicePhase → List (List Byte)
  | .idle => [message provCaps s.device.caps.bytes]
  | .started =>
      if s.start.pubKey = 0 then [message provPubKey s.device.pubKey.bytes] else []
  | .ready =>
      [message provConfirm (s.conf s.device.random terms.devAuth).bytes]
  | .confirmed =>
      if Accepts s terms then [message provRandom s.device.random.bytes]
      else [message provFailed [0x04]]
  | .revealed => [message provCompleted []]
  | .invited | .waiting | .provisioned | .failed => []

end Phases

end Meshctl.Prov
