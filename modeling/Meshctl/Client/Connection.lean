import Meshctl.Gatt.Sar
import Meshctl.Gui.DeviceDiscovery
import Meshctl.Net.Beacon

/-! # The connection

What `main.c` keeps of the device that it is connected to, and of the calls to
BlueZ that are still without a reply.
-/

namespace Meshctl.Client

open Bytes Gatt

/-! ## Objects of BlueZ -/

inductive Uuid where
  | meshProvSvc
  | meshProxySvc
  | meshProvDataIn
  | meshProvDataOut
  | meshProxyDataIn
  | meshProxyDataOut
  | other (uuid : Nat)
  deriving DecidableEq

inductive Interface where
  | device
  | adapter
  | gattService
  | gattCharacteristic
  | other
  deriving DecidableEq

/-- An entry of the service data that a device advertises. -/
inductive ServiceData where
  | malformed
  | provisioning (data : List Byte)
  | meshProxy (data : List Byte)
  | other

/-- The properties that are read of an object. A `Value` that is not an array of
bytes counts as empty. -/
structure Properties where
  interface : Interface
  path : String
  uuid : Option Uuid
  adapter : Option String
  device : Option String
  service : Option String
  address : Option String
  serviceData : List ServiceData
  notifying : Bool
  notifyAcquired : Bool
  value : Option (List Byte)

/-- An object without properties. -/
def plainProxy : Properties where
  interface := .other
  path := ""
  uuid := none
  adapter := none
  device := none
  service := none
  address := none
  serviceData := []
  notifying := false
  notifyAcquired := false
  value := none

/-- The methods whose replies change something. -/
inductive Method where
  | connect
  | disconnect
  | acquireNotify
  | startNotify
  | stopNotify
  deriving DecidableEq

/-- What BlueZ shows at some moment, which calls can be sent to it, and what the
other parts of the program answer. -/
structure Bus where
  properties : Nat → Properties
  accepts : Method → Bool
  provOpens : Bool
  netKey : Option Key
  identityCheck : Key → U16 → List Byte → Bool

def Bus.path (bus : Bus) (proxy : Nat) : String := (bus.properties proxy).path

def Bus.interface (bus : Bus) (proxy : Nat) : Interface :=
  (bus.properties proxy).interface

/-! ## Calls without a reply -/

/-- The reply functions of `Disconnect`, with their user data. -/
inductive DisconnectCb where
  | disconnReply (device : Option Nat)
  | provDisconnReply (node : Nat)

inductive NotifyCb where
  | notifyProvOut
  | notifyProxyOut
  | discNotify (cb : Option DisconnectCb)

structure NotifyData where
  proxy : Nat
  enable : Bool
  cb : Option NotifyCb
  node : Option Nat

inductive Pending where
  | connect (proxy : Nat)
  | disconnect (cb : Option DisconnectCb)
  | acquireNotify (data : NotifyData)
  | notify (data : NotifyData)

/-! ## The variables -/

def connTypeNetwork : Byte := 0x00

def connTypeIdentity : Byte := 0x01

def connTypeProvision : Byte := 0x02

def connTypeInvalid : Byte := 0xff

def netIdxPrimary : U16 := 0

def netIdxInvalid : U16 := 0xffff

structure Connection where
  device : Option Nat
  service : Option Nat
  dataIn : Option Nat
  dataOut : Option Nat
  sessionOpen : Bool
  unicast : U16
  netIdx : U16
  devUuid : List Byte
  type : Byte

/-- After `memset`. -/
def Connection.zero : Connection where
  device := none
  service := none
  dataIn := none
  dataOut := none
  sessionOpen := false
  unicast := 0
  netIdx := 0
  devUuid := List.replicate 16 0
  type := connTypeNetwork

/-- Which handler a pipe has, with the node that it was set up for. -/
structure NotifyIo where
  prov : Option Bool
  node : Option Nat

structure MeshNode where
  ref : Nat
  devUuid : List Byte
  primary : U16

/-- What the handlers did besides changing variables. -/
inductive Action where
  | called (method : Method) (proxy : Nat)
  | sessionOpened (dataIn : Nat) (opened : Bool)
  | sessionClosed (dataIn : Option Nat)
  | provOpened (node dataIn : Nat)
  | provData (node : Option Nat) (data : List Byte)
  | netData (data : List Byte)
  | gotComposition (unicast : U16)
  deriving DecidableEq

/-- The variables of `main.c`, `gatt.c` and `node.c` that a connection depends
on, and those of `net.c`. The list of unprovisioned devices is left to
`Gui.MainState`. -/
structure ClientState where
  connection : Connection
  serviceList : List Nat
  charList : List Nat
  ctrlList : List Nat
  defaultCtrl : Option Nat
  discovering : Bool
  discoverMesh : Bool
  nodes : List MeshNode
  notifyIo : Option NotifyIo
  sar : GattSar
  net : Net.NetState
  pending : List Pending
  /-- What was done so far, oldest first. -/
  actions : List Action
  /-- How many nodes were allocated so far. -/
  allocated : Nat
  /-- Memory was misused: what happens from here on is not known. -/
  crashed : Bool

/-- The program before BlueZ has announced anything to it, and before any node is
loaded. -/
def ClientState.start (net : Net.NetState) : ClientState where
  connection := Connection.zero
  serviceList := []
  charList := []
  ctrlList := []
  defaultCtrl := none
  discovering := false
  discoverMesh := false
  nodes := []
  notifyIo := none
  sar := .zero
  net
  pending := []
  actions := []
  allocated := 0
  crashed := false

namespace ClientState

variable (st : ClientState)

def act (action : Action) : ClientState :=
  { st with actions := st.actions ++ [action] }

def crash : ClientState := { st with crashed := true }

def setConnection (connection : Connection) : ClientState :=
  { st with connection }

/-- A method call whose reply is waited for. -/
def call (method : Method) (proxy : Nat) (reply : Pending) : ClientState :=
  { st.act (.called method proxy) with pending := st.pending ++ [reply] }

def nodeFindByUuid (uuid : List Byte) : Option Nat :=
  (st.nodes.find? fun node => node.devUuid = uuid).map MeshNode.ref

def nodeOfRef (ref : Nat) : Option MeshNode :=
  st.nodes.find? fun node => node.ref = ref

def nodeNew (devUuid : List Byte) (primary : U16) : ClientState :=
  { st with
    nodes := st.nodes ++ [{ ref := st.allocated, devUuid, primary }]
    allocated := st.allocated + 1 }

def nodeFree (ref : Nat) : ClientState :=
  { st with nodes := st.nodes.filter fun node => node.ref ≠ ref }

/-- `net_session_close`, also for NULL. -/
def closeSession (dataIn : Option Nat) : ClientState :=
  { st with
    net :=
      { st.net with
        proxyIn := if st.net.proxyIn = dataIn then none else st.net.proxyIn
        sarIn := KeyedList.empty, msgOut := KeyedList.empty, pktOut := [] } }.act
    (.sessionClosed dataIn)

end ClientState

/-- For a characteristic it is what `net_session_close` does. -/
theorem closeSession_some (st : ClientState) (dataIn : Nat) :
    (st.closeSession (some dataIn)).net = Net.netSessionClose dataIn st.net := rfl

/-- The callback that `net_session_open` is given. -/
def sessionOpenCbRef : Nat := 0

section Handlers

variable (bus : Bus) (st : ClientState)

/-! ## Looking up -/

def serviceIsMesh (proxy : Nat) (targetUuid : Option Uuid) : Bool :=
  match (bus.properties proxy).uuid with
  | none => false
  | some uuid =>
      match targetUuid with
      | some target => uuid = target
      | none => uuid ≠ .meshProvSvc || uuid ≠ .meshProxySvc

def charIsMesh (proxy : Nat) (targetUuid : Option Uuid) : Bool :=
  match (bus.properties proxy).uuid with
  | none => false
  | some uuid =>
      match targetUuid with
      | some target => uuid = target
      | none => uuid = .meshProvDataIn || uuid = .meshProvDataOut ||
          uuid = .meshProxyDataIn || uuid = .meshProxyDataOut

/-- `mesh_gatt_is_child`, for the property `name` of the child. -/
def meshGattIsChild (name : Properties → Option String) (proxy : Nat)
    (parent : Option Nat) : Bool :=
  match parent with
  | none => false
  | some parent => name (bus.properties proxy) = some (bus.path parent)

def deviceIsChild (device master : Nat) : Bool :=
  (bus.properties device).adapter = some (bus.path master)

def findParent (device : Nat) : Option Nat :=
  st.ctrlList.find? (deviceIsChild bus device)

def getCharacteristic (device : Option Nat) (charUuid : Uuid) : Option Nat :=
  let svcUuid : Uuid :=
    if st.connection.type = connTypeProvision then .meshProvSvc
    else .meshProxySvc
  match st.serviceList.find? fun service =>
      meshGattIsChild bus Properties.device service device &&
        serviceIsMesh bus service (some svcUuid) with
  | none => none
  | some service =>
      st.charList.find? fun char =>
        meshGattIsChild bus Properties.service char (some service) &&
          charIsMesh bus char (some charUuid)

/-! ## Notifications -/

/-- What becomes of a request of `mesh_gatt_notify`: it could not be sent, its
reply is waited for, or its callback is called at once. -/
inductive NotifyResult where
  | failed
  | waiting
  | called

def meshGattNotify (data : NotifyData) : NotifyResult × ClientState :=
  if data.enable then
    if (bus.properties data.proxy).notifyAcquired then
      if bus.accepts .acquireNotify then
        (.waiting, st.call .acquireNotify data.proxy (.acquireNotify data))
      else (.failed, st)
    else if bus.accepts .startNotify then
      (.waiting, st.call .startNotify data.proxy (.notify data))
    else (.failed, st)
  else if st.notifyIo.isSome then (.called, { st with notifyIo := none })
  else if bus.accepts .stopNotify then
    (.waiting, st.call .stopNotify data.proxy (.notify data))
  else (.failed, st)

/-- Whatever goes wrong is only printed. -/
def dataOutNotify (proxy : Nat) (enable : Bool) (cb : Option NotifyCb) :
    ClientState :=
  let node := st.nodeFindByUuid st.connection.devUuid
  (meshGattNotify bus st { proxy, enable, cb, node }).2

/-! ## Disconnecting -/

/-- The prompt is left out. -/
def setConnectedDevice (proxy : Option Nat) : ClientState :=
  match proxy with
  | none =>
      st.setConnection { Connection.zero with type := connTypeInvalid }
  | some _ => st.setConnection { st.connection with device := proxy }

def disconnect (cb : Option DisconnectCb) : ClientState :=
  match st.connection.device with
  | none => st
  | some device =>
      if bus.accepts .disconnect then
        st.call .disconnect device (.disconnect cb)
      else st

def disconnectDevice (cb : Option DisconnectCb) : ClientState :=
  let st := st.closeSession st.connection.dataIn
  match st.connection.dataOut with
  | none => disconnect bus st cb
  | some dataOut =>
      if (bus.properties dataOut).notifying then
        let data : NotifyData :=
          { proxy := dataOut, enable := false, cb := some (.discNotify cb)
            node := none }
        match meshGattNotify bus st data with
        | (.failed, st) => disconnect bus st cb
        | (.waiting, st) => st
        | (.called, st) => disconnect bus st cb
      else disconnect bus st cb

end Handlers

/-! ## What asking BlueZ changes -/

/-- The pipe was given up or not, and at most one call was sent, other than
`Connect` and with a reply of a given kind. -/
inductive Asks (Awaits : Pending → Prop) (st : ClientState) : ClientState → Prop
    where
  | nothing : Asks Awaits st st
  | pipe : Asks Awaits st { st with notifyIo := none }
  | call {method : Method} (proxy : Nat) {reply : Pending}
      (notConnect : method ≠ .connect) (awaits : Awaits reply) :
      Asks Awaits st (st.call method proxy reply)
  | both {method : Method} (proxy : Nat) {reply : Pending}
      (notConnect : method ≠ .connect) (awaits : Awaits reply) :
      Asks Awaits st ({ st with notifyIo := none }.call method proxy reply)

/-- The replies of a disconnection. -/
inductive Disconnects (cb : Option DisconnectCb) : Pending → Prop where
  | disconnect : Disconnects cb (.disconnect cb)
  | notify (proxy : Nat) :
      Disconnects cb (.notify ⟨proxy, false, some (.discNotify cb), none⟩)

/-- The replies of a request to be notified. -/
inductive Notifies (cb : NotifyCb) : Pending → Prop where
  | acquire (proxy : Nat) (node : Option Nat) :
      Notifies cb (.acquireNotify ⟨proxy, true, some cb, node⟩)
  | start (proxy : Nat) (node : Option Nat) :
      Notifies cb (.notify ⟨proxy, true, some cb, node⟩)

section Asks

variable {Awaits : Pending → Prop} {st after : ClientState}

/-- What no request touches. -/
theorem Asks.frame (asks : Asks Awaits st after) :
    ∃ notifyIo pending actions,
      after = { st with notifyIo, pending, actions } := by
  cases asks with
  | nothing => exact ⟨_, _, _, rfl⟩
  | pipe => exact ⟨_, _, _, rfl⟩
  | call => exact ⟨_, _, _, rfl⟩
  | both => exact ⟨_, _, _, rfl⟩

theorem Asks.connection (asks : Asks Awaits st after) :
    after.connection = st.connection := by
  rcases asks.frame with ⟨_, _, _, equal⟩
  rw [equal]

theorem Asks.net (asks : Asks Awaits st after) : after.net = st.net := by
  rcases asks.frame with ⟨_, _, _, equal⟩
  rw [equal]

variable (bus : Bus) (st)

theorem disconnect_asks (cb : Option DisconnectCb) :
    Asks (Disconnects cb) st (disconnect bus st cb) := by
  rw [disconnect]
  cases st.connection.device with
  | none => exact .nothing
  | some device =>
      dsimp only
      split
      · exact .call device (by decide) .disconnect
      · exact .nothing

/-- The session is closed before anything is asked. -/
theorem disconnectDevice_asks (cb : Option DisconnectCb) :
    Asks (Disconnects cb) (st.closeSession st.connection.dataIn)
      (disconnectDevice bus st cb) := by
  rw [disconnectDevice]
  dsimp only
  generalize st.closeSession st.connection.dataIn = closed
  cases closed.connection.dataOut with
  | none => exact disconnect_asks closed bus cb
  | some dataOut =>
      dsimp only
      split
      · rw [meshGattNotify, if_neg (by exact Bool.false_ne_true)]
        by_cases hasPipe : closed.notifyIo.isSome = true
        · rw [if_pos hasPipe]
          dsimp only
          rw [disconnect]
          cases isDevice : closed.connection.device with
          | none => exact .pipe
          | some device =>
              dsimp only
              split
              · exact .both device (by decide) .disconnect
              · exact .pipe
        · rw [if_neg hasPipe]
          by_cases accepted : bus.accepts .stopNotify = true
          · rw [if_pos accepted]
            exact .call dataOut (by decide) (.notify dataOut)
          · rw [if_neg accepted]
            exact disconnect_asks closed bus cb
      · exact disconnect_asks closed bus cb

theorem dataOutNotify_asks (proxy : Nat) (cb : NotifyCb) :
    Asks (Notifies cb) st (dataOutNotify bus st proxy true (some cb)) := by
  rw [dataOutNotify, meshGattNotify, if_pos rfl]
  split
  · split
    · exact .call proxy (by decide) (.acquire proxy _)
    · exact .nothing
  · split
    · exact .call proxy (by decide) (.start proxy _)
    · exact .nothing

end Asks

end Meshctl.Client
