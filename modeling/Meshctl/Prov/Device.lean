import Meshctl.Prov.Session
import Meshctl.Crypto.CcmInverse

/-! # A device that follows the protocol

The party at the other end of a session, as the session expects it to be. It
reads messages in the order in which they were written, answers each of them, and
gives up on one that it does not wait for.
-/

namespace Meshctl.Prov

open Bytes Net Crypto

/-- What is built into a device: `secret` is what it has in common with the owner
of a public key, `auth` the value that it shows or that is printed on it. -/
structure Device where
  caps : Caps
  pubKey : Buffer 64
  secret : Buffer 64 → Buffer 32
  random : AesBlock
  auth : Start → AesBlock

inductive DevicePhase where
  | idle
  | invited
  | started
  /-- For a value that the user enters. -/
  | waiting
  | ready
  | confirmed
  | revealed
  | provisioned
  | failed
deriving DecidableEq

structure DeviceState where
  phase : DevicePhase
  attention : Byte
  start : Start
  prvPubKey : Buffer 64
  auth : AesBlock
  provConf : AesBlock
  provRandom : AesBlock
  data : Option (List Byte)
  devKey : AesBlock
deriving DecidableEq

def DeviceState.idle : DeviceState where
  phase := .idle
  attention := 0
  start := ⟨0, 0, 0, 0, 0⟩
  prvPubKey := Buffer.zero
  auth := Buffer.zero
  provConf := Buffer.zero
  provRandom := Buffer.zero
  data := none
  devKey := Buffer.zero

/-! ## Messages -/

def message (type : Byte) (payload : List Byte) : List Byte :=
  [proxyProvisioningPdu, type] ++ payload

def Start.read (source : List Byte) (offset : Nat) : Start where
  algorithm := get source offset
  pubKey := get source (offset + 1)
  authMethod := get source (offset + 2)
  authAction := get source (offset + 3)
  authSize := get source (offset + 4)

/-- The message that a device waits for. -/
def DevicePhase.awaits : DevicePhase → Option Byte
  | .idle => some provInvite
  | .invited => some provStart
  | .started => some provPubKey
  | .ready => some provConfirm
  | .confirmed => some provRandom
  | .revealed => some provData
  | .waiting | .provisioned | .failed => none

/-! ## What a device computes -/

section Keys

variable (env : ProvEnv)

/-- The salt that the confirmations are made with. -/
def confSalt (confIn : ConfInput) : AesBlock := s1 env confIn.bytes

def confirmation (confIn : ConfInput) (secret : Buffer 32)
    (random auth : AesBlock) : AesBlock :=
  env.aesCmac (provConfKey env secret (confSalt env confIn))
    (random.bytes ++ auth.bytes)

/-- The salt that the keys of the session are made with. -/
def sessionSalt (confIn : ConfInput) (provRandom devRandom : AesBlock) : AesBlock :=
  provProvSalt env (confSalt env confIn) provRandom.bytes devRandom.bytes

/-- Provisioning data, if the code behind them is the right one. -/
def decryptData (secret : Buffer 32) (salt : AesBlock) (payload : List Byte) :
    Option (List Byte) :=
  let result := decrypted (env.aes (sessionKey env secret salt)) env.stale
    (sessionNonce env secret salt) (fun _ => 0) 0 8 payload
    (List.replicate 25 0)
  if result.result then some result.memory else none

end Keys

/-! ## What a device does -/

namespace Device

variable (env : ProvEnv) (device : Device)

def confInput (st : DeviceState) : ConfInput where
  attention := st.attention
  caps := device.caps
  start := st.start
  prvPubKey := st.prvPubKey
  devPubKey := device.pubKey

def fail (code : Byte) (st : DeviceState) : DeviceState × List (List Byte) :=
  ({ st with phase := .failed }, [message provFailed [code]])

def readPubKey (key : Buffer 64) (st : DeviceState) :
    DeviceState × List (List Byte) :=
  let st := { st with prvPubKey := key }
  (if st.start.authMethod = provInputOob then
      { st with phase := .waiting }
    else
      { st with phase := .ready, auth := device.auth st.start },
    if st.start.pubKey = 0 then [message provPubKey device.pubKey.bytes] else [])

def readConfirm (conf : AesBlock) (st : DeviceState) :
    DeviceState × List (List Byte) :=
  let own := confirmation env (device.confInput st) (device.secret st.prvPubKey)
    device.random st.auth
  ({ st with phase := .confirmed, provConf := conf },
    [message provConfirm own.bytes])

/-- The random value has to be the one that was confirmed. -/
def readRandom (random : AesBlock) (st : DeviceState) :
    DeviceState × List (List Byte) :=
  let conf := confirmation env (device.confInput st) (device.secret st.prvPubKey)
    random st.auth
  if conf = st.provConf then
    ({ st with phase := .revealed, provRandom := random },
      [message provRandom device.random.bytes])
  else
    fail 0x04 st

def readData (payload : List Byte) (st : DeviceState) :
    DeviceState × List (List Byte) :=
  let secret := device.secret st.prvPubKey
  let salt := sessionSalt env (device.confInput st) st.provRandom device.random
  match decryptData env secret salt payload with
  | none => fail 0x06 st
  | some data =>
      ({ st with
          phase := .provisioned, data := some data
          devKey := deviceKey env secret salt },
        [message provCompleted []])

/-- A message that is waited for. -/
def readAwaited (bytes : List Byte) (st : DeviceState) :
    DeviceState × List (List Byte) :=
  match st.phase with
  | .idle =>
      ({ st with phase := .invited, attention := get bytes 2 },
        [message provCaps device.caps.bytes])
  | .invited => ({ st with phase := .started, start := Start.read bytes 2 }, [])
  | .started => device.readPubKey (Buffer.read bytes 2) st
  | .ready => device.readConfirm env (Buffer.read bytes 2) st
  | .confirmed => device.readRandom env (Buffer.read bytes 2) st
  | .revealed => device.readData env (slice bytes 2 33) st
  | .waiting | .provisioned | .failed => (st, [])

/-- The next message. Behind a failure nothing is read. -/
def read (bytes : List Byte) (st : DeviceState) : DeviceState × List (List Byte) :=
  if st.phase = .failed then
    (st, [])
  else if st.phase.awaits = some (get bytes 1) ∧
      bytes.length = expectedPduSize (get bytes 1) + 1 then
    device.readAwaited env bytes st
  else
    fail 0x03 st

/-- The user enters the value that the provisioner shows. -/
def enter (value : AesBlock) (st : DeviceState) : DeviceState × List (List Byte) :=
  if st.phase = .waiting then
    ({ st with phase := .ready, auth := value }, [message provInpCmplt []])
  else
    (st, [])

end Device

end Meshctl.Prov
