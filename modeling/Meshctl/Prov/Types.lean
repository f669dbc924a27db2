import Meshctl.Crypto.Ccm
import Meshctl.Net.AddressPool
import Meshctl.Net.Transmit

/-! # Records of a provisioning session -/

namespace Meshctl.Prov

open Bytes Net Crypto

/-! ## Provisioning PDUs -/

def proxyProvisioningPdu : Byte := 0x03

def provInvite : Byte := 0x00

def provCaps : Byte := 0x01

def provStart : Byte := 0x02

def provPubKey : Byte := 0x03

def provInpCmplt : Byte := 0x04

def provConfirm : Byte := 0x05

def provRandom : Byte := 0x06

def provData : Byte := 0x07

def provCompleted : Byte := 0x08

def provFailed : Byte := 0x09

/-- `expected_pdu_size`, by the type of the PDU. -/
def expectedPduSize (type : Byte) : Nat :=
  [1 + 1, 1 + 1 + 2 + 1 + 1 + 1 + 2 + 1 + 2, 1 + 1 + 1 + 1 + 1 + 1, 1 + 64, 1,
    1 + 16, 1 + 16, 1 + 16 + 2 + 1 + 4 + 2 + 8, 1, 1 + 1].getD type.toNat 0

def provNoOob : Byte := 0

def provStaticOob : Byte := 1

def provOutputOob : Byte := 2

def provInputOob : Byte := 3

def provErrInvalidPdu : Byte := 0x01

def meshProvSecMed : Byte := 1

def meshProvSecHigh : Byte := 2

/-! ## The input of the confirmation -/

/-- `prov_caps`, packed. -/
abbrev Caps := Buffer 11

namespace Caps

variable (caps : Caps)

def numEle : Byte := caps.get 0

def algorithms : U16 := getBe16 caps.bytes 1

def pubType : Byte := caps.get 3

def staticType : Byte := caps.get 4

def outputSize : Byte := caps.get 5

def outputAction : U16 := getBe16 caps.bytes 6

def inputSize : Byte := caps.get 8

def inputAction : U16 := getBe16 caps.bytes 9

end Caps

/-- `prov_start`. -/
structure Start where
  algorithm : Byte
  pubKey : Byte
  authMethod : Byte
  authAction : Byte
  authSize : Byte
deriving DecidableEq

def Start.bytes (start : Start) : List Byte :=
  [start.algorithm, start.pubKey, start.authMethod, start.authAction,
    start.authSize]

/-- `conf_input`. -/
structure ConfInput where
  attention : Byte
  caps : Caps
  start : Start
  prvPubKey : Buffer 64
  devPubKey : Buffer 64
deriving DecidableEq

def ConfInput.bytes (confIn : ConfInput) : List Byte :=
  [confIn.attention] ++ confIn.caps.bytes ++ confIn.start.bytes ++
    confIn.prvPubKey.bytes ++ confIn.devPubKey.bytes

/-! ## Sessions -/

/-- The AuthValue, which is the second half of `rand_auth`. -/
def authValue (randAuth : Buffer 32) : List Byte := randAuth.bytes.drop 16

/-- `struct prov_data`. A key has sixteen bytes, as the result of a cipher. -/
structure ProvData where
  netIdx : U16
  newAddr : U16
  state : Byte
  ephPrivKey : Buffer 32
  ecdhSecret : Buffer 32
  confIn : ConfInput
  randAuth : Buffer 32
  salt : AesBlock
  confKey : AesBlock
  meshConf : AesBlock
  devKey : AesBlock
deriving DecidableEq

namespace ProvData

variable (prov : ProvData)

def authMethod : Byte := prov.confIn.start.authMethod

/-- Whether the public key of the device is given out of band. -/
def keyOutOfBand : Bool := prov.confIn.start.pubKey ≠ 0

end ProvData

/-- What provisioning sets in a node. -/
structure ProvNode where
  numEle : Byte
  primary : U16
  devKey : AesBlock
  netKeys : List U16
deriving DecidableEq

/-! ## The agent -/

inductive OobType where
  | none
  | hexadecimal
  | decimal
  | ascii
  | output
deriving DecidableEq

/-- The callbacks of the session that the agent is given. -/
inductive InputCallback where
  | provOobPubKey
  | provOutOobDone
deriving DecidableEq

/-- `struct input_request`. -/
structure InputRequest where
  type : OobType
  len : U16
  cb : Option InputCallback
deriving DecidableEq

/-- The functions that the shell may pass the next line to. -/
inductive PromptFunc where
  | responseHexadecimal
  | responseDecimal
  | responseAscii
  | responseOutput
deriving DecidableEq

/-- The pending request, and the prompt that the shell shows. -/
structure Agent where
  pending : InputRequest
  prompt : Option PromptFunc
deriving DecidableEq

/-! ## The state -/

/-- The callbacks of the session that are called when a PDU was written. -/
inductive WriteCallback where
  | provStartCmplt
  | provCalcEcdh
deriving DecidableEq

/-- What happens in a session, told by the functions that take part in it: what
arrived and what was stored, computed, called and written. -/
inductive ProvEvent where
  /-- A PDU for the session, from its type on. -/
  | received (pdu : List Byte)
  /-- A PDU that was given to `mesh_gatt_write`. -/
  | wrote (pdu : List Byte)
  | oobPubKey (key : Buffer 64)
  /-- `ecdh_shared_secret`, and whether it succeeded. -/
  | ecdh (key : Buffer 64) (computed : Bool)
  | oobValue (value : List Byte)
  | generated (value : List Byte)
  | sendConfirm (authMethod : Byte)
  /-- The confirmation key and `rand_auth` at the call. -/
  | sendProvData (confKey : AesBlock) (randAuth : Buffer 32)
  | completed (status : Byte)
deriving DecidableEq

/-- What the session reads from the network layer. -/
structure NetInfo where
  key : U16 → Option AesBlock
  flags : U16 → Option Byte
  ivIndex : U32

/-- The session of a node, and everything it changes. Writes that wait for the
pipe keep their callback. -/
structure ProvState where
  prov : Option ProvData
  node : ProvNode
  agent : Agent
  acquiring : List (Option WriteCallback)
  pool : List U32
  net : NetInfo
  secLevel : Byte
  /-- How many writes were started, random bytes taken and secrets exchanged. -/
  writes : Nat
  randoms : Nat
  exchanges : Nat
  /-- Not read by any modelled function. -/
  history : List ProvEvent

namespace ProvState

variable (st : ProvState)

def note (event : ProvEvent) : ProvState :=
  { st with history := st.history ++ [event] }

def setProv (prov : ProvData) : ProvState := { st with prov := some prov }

end ProvState

/-- The code outside of the session: what becomes of the n-th write, the n-th
random byte, elliptic curves and AES. Key generation may fail and leave its
output as it was; so may the n-th key exchange, which is given the old secret. -/
structure ProvEnv where
  gatt : Nat → GattOutcome
  random : Nat → Byte
  makeKey : Option (Buffer 64 × Buffer 32)
  ecdhSharedSecret : Nat → Buffer 64 → Buffer 32 → Buffer 32 → Bool × Buffer 32
  aesCmac : AesBlock → List Byte → AesBlock
  aes : AesBlock → AesBlock → AesBlock
  stale : AesBlock

end Meshctl.Prov
