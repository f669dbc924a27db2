import Meshctl.Net.Beacon

/-! # The key store

Network and application keys are kept with the keys derived from them. During a
key refresh a key has two copies, and its phase says which of them is used.
-/

namespace Meshctl.Net

open Execution

/-! ## Deriving keys -/

/-- What `mesh_crypto_k2` has written when it returns: it succeeds when it has
written everything. A network id has seven bits. -/
structure K2Result where
  nid : Option (BitVec 7)
  encKey : Option Key
  privacyKey : Option Key

def K2Result.ok (result : K2Result) : Bool :=
  result.nid.isSome && result.encKey.isSome && result.privacyKey.isSome

/-- The key derivation functions, each of which may fail. -/
structure KeyCrypto where
  nkbk : Key → Option Key
  k3 : Key → Option U64
  k2 : Key → K2Result
  k4 : Key → Option (BitVec 6)

/-- No derivation fails. -/
structure KeyCrypto.Succeeds (crypto : KeyCrypto) : Prop where
  nkbk : ∀ key, (crypto.nkbk key).isSome
  k3 : ∀ key, (crypto.k3 key).isSome
  k2 : ∀ key, (crypto.k2 key).ok
  k4 : ∀ key, (crypto.k4 key).isSome

def invalidNid : Byte := 0xff

def invalidAid : Byte := 0xff

variable (crypto : KeyCrypto)

/-- Overwrite a copy of a network key. A derivation that fails ends it, and only
the last one invalidates the copy. -/
def deriveNetKey (key : Key) (parts : NetKeyParts) : Bool × NetKeyParts :=
  let parts := { parts with netKey := key }
  match crypto.nkbk key with
  | none => (false, parts)
  | some beaconKey =>
      let parts := { parts with beaconKey }
      match crypto.k3 key with
      | none => (false, parts)
      | some netId =>
          let parts := { parts with netId }
          let result := crypto.k2 key
          let parts :=
            { parts with
              nid := (result.nid.map (·.setWidth 8)).getD parts.nid
              encKey := result.encKey.getD parts.encKey
              privacyKey := result.privacyKey.getD parts.privacyKey }
          if result.ok then
            (true, parts)
          else
            (false, { parts with nid := invalidNid })

/-! ## Adding and deleting -/

def findNetKey (netIdx : U16) (netKeys : List MeshNetKey) : Option MeshNetKey :=
  netKeys.find? (·.idx = netIdx)

def findAppKey (appIdx : U16) (appKeys : List MeshAppKey) : Option MeshAppKey :=
  appKeys.find? (·.idx = appIdx)

/-- Change the key that an index finds, in place. -/
def changeNetKey (netIdx : U16) (change : MeshNetKey → MeshNetKey) :
    List MeshNetKey → List MeshNetKey
  | [] => []
  | netKey :: rest =>
      if netKey.idx = netIdx then
        change netKey :: rest
      else
        netKey :: changeNetKey netIdx change rest

def changeAppKey (appIdx : U16) (change : MeshAppKey → MeshAppKey) :
    List MeshAppKey → List MeshAppKey
  | [] => []
  | appKey :: rest =>
      if appKey.idx = appIdx then
        change appKey :: rest
      else
        appKey :: changeAppKey appIdx change rest

/-- A record fresh from `g_new`, which leaves in it what was in memory; only the
new copy is marked as invalid. -/
def freshNetKey (netIdx : U16) (memory : MeshNetKey) : MeshNetKey :=
  { memory with idx := netIdx, new := { memory.new with nid := invalidNid } }

def keysNetKeyAdd (netIdx : U16) (key : Key) (update : Bool)
    (memory : MeshNetKey) (netKeys : List MeshNetKey) :
    Bool × List MeshNetKey :=
  match findNetKey netIdx netKeys with
  | some netKey =>
      if update then
        let (result, new) := deriveNetKey crypto key netKey.new
        (result, changeNetKey netIdx (fun netKey => { netKey with new }) netKeys)
      else
        (netKey.current.netKey = key, netKeys)
  | none =>
      let netKey := freshNetKey netIdx memory
      let (result, current) := deriveNetKey crypto key netKey.current
      if result then
        (true, netKeys ++ [{ netKey with current }])
      else
        (false, netKeys)

def akfBit : Byte := 0x40

def freshAppKey (netIdx appIdx : U16) (key : Key) (akfAid : Byte)
    (memory : MeshAppKey) : MeshAppKey :=
  { memory with
    idx := appIdx, netIdx
    current := { key, akfAid }
    new := { memory.new with akfAid := invalidAid } }

def keysAppKeyAdd (netIdx appIdx : U16) (key : Key) (update : Bool)
    (memory : MeshAppKey) (appKeys : List MeshAppKey) :
    Bool × List MeshAppKey :=
  match crypto.k4 key with
  | none => (false, appKeys)
  | some aid =>
      let akfAid := aid.setWidth 8 ||| akfBit
      match findAppKey appIdx appKeys with
      | some appKey =>
          if update then
            if appKey.netIdx ≠ netIdx then
              (false, appKeys)
            else
              (true, changeAppKey appIdx
                (fun appKey => { appKey with new := { key, akfAid } }) appKeys)
          else
            (appKey.current.key = key && appKey.netIdx = netIdx, appKeys)
      | none =>
          (true, appKeys ++ [freshAppKey netIdx appIdx key akfAid memory])

/-- `delete_key` on the network keys. -/
def keysNetKeyDelete (netIdx : U16) (netKeys : List MeshNetKey) :
    Bool × List MeshNetKey :=
  match findNetKey netIdx netKeys with
  | none => (false, netKeys)
  | some _ => (true, netKeys.eraseP (·.idx = netIdx))

def keysAppKeyDelete (appIdx : U16) (appKeys : List MeshAppKey) :
    Bool × List MeshAppKey :=
  match findAppKey appIdx appKeys with
  | none => (false, appKeys)
  | some _ => (true, appKeys.eraseP (·.idx = appIdx))

/-! ## Phases -/

inductive KrPhase where
  | none
  | one
  | two
deriving DecidableEq

def KrPhase.value : KrPhase → Byte
  | .none => 0x00
  | .one => 0x01
  | .two => 0x02

def krPhaseInvalid : Byte := 0xff

def keysSetKrPhase (netIdx : U16) (phase : Byte) (netKeys : List MeshNetKey) :
    Bool × List MeshNetKey :=
  match findNetKey netIdx netKeys with
  | none => (false, netKeys)
  | some _ =>
      (true, changeNetKey netIdx (fun netKey => { netKey with phase }) netKeys)

def keysGetKrPhase (netIdx : U16) (netKeys : List MeshNetKey) : Byte :=
  match findNetKey netIdx netKeys with
  | none => krPhaseInvalid
  | some netKey => netKey.phase

/-! ## Looking keys up -/

def netIdxInvalid : U16 := 0xffff

def keysAppKeyGetBound (appIdx : U16) (appKeys : List MeshAppKey) : U16 :=
  match findAppKey appIdx appKeys with
  | none => netIdxInvalid
  | some appKey => appKey.netIdx

/-- `get_key` on the list of network keys. -/
def getNetKey (netIdx : U16) (netKeys : List MeshNetKey) : Option Key :=
  match findNetKey netIdx netKeys with
  | none => none
  | some netKey =>
      if netKey.phase = 2 ∧ netKey.new.nid ≠ invalidNid then
        some netKey.new.netKey
      else if netKey.current.nid ≠ invalidNid then
        some netKey.current.netKey
      else
        none

def netGetKey (netIdx : U16) (st : NetState) : Option Key :=
  getNetKey netIdx st.netKeys

/-- The flags for a new device: key refresh and IV update. -/
def netGetFlags (netIdx : U16) (st : NetState) : Option Byte :=
  let phase := keysGetKrPhase netIdx st.netKeys
  if phase = krPhaseInvalid then
    none
  else
    let flags : Byte := if phase ≠ KrPhase.none.value then 0x01 else 0x00
    some (if st.ivUpdate then flags ||| 0x02 else flags)

end Meshctl.Net
