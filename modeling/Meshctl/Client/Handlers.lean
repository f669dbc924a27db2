import Meshctl.Client.Connection

/-! # What happens to the connection

The commands of the user, the signals of BlueZ, its replies and the data that it
passes on, as `main.c` and `gatt.c` handle them.
-/

namespace Meshctl.Client

open Bytes Execution Gatt

section Handlers

variable (bus : Bus) (st : ClientState)

/-! ## Devices that advertise -/

def netValidateProxyBeacon (proxyBeacon : List Byte) : U16 :=
  match st.net.findNetKeyById (getBe64 proxyBeacon 0) with
  | none => netIdxInvalid
  | some netKey => netKey.idx

/-- Whether the device is the one that is looked for. -/
def parseMeshServiceData (data : List Byte) : Bool :=
  if !(data.length = 9 && get data 0 = connTypeNetwork) &&
      !(data.length = 17 && get data 0 = connTypeIdentity) then
    false
  else if get data 0 ≠ st.connection.type then
    false
  else if get data 0 = connTypeIdentity then
    if st.connection.unicast = 0 then
      false
    else
      match bus.netKey with
      | none => false
      | some key => bus.identityCheck key st.connection.unicast (data.drop 1)
  else
    let netIdx := netValidateProxyBeacon st (data.drop 1)
    !(netIdx = netIdxInvalid || netIdx ≠ st.connection.netIdx)

def serviceEntry : ServiceData → Gui.ServiceEntry
  | .malformed => .malformed
  | .provisioning data => .provisioning data
  | .meshProxy data => .meshProxy (parseMeshServiceData bus st data)
  | .other => .other

/-- A device was announced, or its service data changed. What this does to the
list of unprovisioned devices is modelled with that list. -/
def updateDeviceInfo (proxy : Nat) : ClientState :=
  let properties := bus.properties proxy
  match findParent bus st proxy with
  | none => st
  | some adapter =>
      if st.defaultCtrl ≠ some adapter then st
      else if properties.address.isNone then st
      else
        let entries := properties.serviceData.map (serviceEntry bus st)
        match Gui.parseProvisioning entries with
        | some _ => st
        | none =>
            if Gui.parseMeshProxy entries && st.discoverMesh then
              let st := { st with discoverMesh := false }
              if bus.accepts .connect then
                st.call .connect proxy (.connect proxy)
              else st
            else st

/-! ## Opening a session -/

def notifyProvOutCb (ok : Bool) (node : Option Nat) : ClientState :=
  if !ok then st
  else if st.connection.type ≠ connTypeProvision then st
  else
    match st.connection.dataIn with
    | none => st
    | some dataIn =>
        match node with
        | none => st
        | some node =>
            if (st.nodeOfRef node).isNone then st.crash
            else
              let st := st.act (.provOpened node dataIn)
              if bus.provOpens then st
              else disconnectDevice bus (st.nodeFree node) none

/-- The network layer only ever reports success. -/
def sessionOpenCb : ClientState :=
  if st.connection.type = connTypeIdentity then
    st.act (.gotComposition st.connection.unicast)
  else st

/-- The answer of `net_session_open` is not looked at. -/
def notifyProxyOutCb (ok : Bool) : ClientState :=
  if !ok then st
  else if st.connection.type ≠ connTypeIdentity ∧
      st.connection.type ≠ connTypeNetwork then st
  else
    match st.connection.dataIn with
    | none => st
    | some dataIn =>
        let opened := Net.netSessionOpen dataIn true (some sessionOpenCbRef)
          st.net
        { st with
          net := opened.2
          connection := { st.connection with sessionOpen := true } }.act
          (.sessionOpened dataIn opened.1)

def runNotifyCb (ok : Bool) (data : NotifyData) : ClientState :=
  match data.cb with
  | none => st
  | some .notifyProvOut => notifyProvOutCb bus st ok data.node
  | some .notifyProxyOut => notifyProxyOutCb st ok
  | some (.discNotify cb) => disconnect bus st cb

def findSessionChars (device : Option Nat) (dataIn dataOut : Uuid)
    (cb : NotifyCb) : ClientState :=
  let st := st.setConnection { st.connection with
    dataIn := getCharacteristic bus st device dataIn }
  if st.connection.dataIn.isNone then st
  else
    let st := st.setConnection { st.connection with
      dataOut := getCharacteristic bus st device dataOut }
    match st.connection.dataOut with
    | none => st
    | some dataOut => dataOutNotify bus st dataOut true (some cb)

def meshSessionSetup (device : Option Nat) : ClientState :=
  if st.connection.type = connTypeProvision then
    findSessionChars bus st device .meshProvDataIn .meshProvDataOut
      .notifyProvOut
  else if st.connection.type ≠ connTypeInvalid then
    findSessionChars bus st device .meshProxyDataIn .meshProxyDataOut
      .notifyProxyOut
  else st

/-! ## Objects come and go -/

def proxyAdded (proxy : Nat) : ClientState :=
  match bus.interface proxy with
  | .device => updateDeviceInfo bus st proxy
  | .adapter =>
      { st with
        ctrlList := st.ctrlList ++ [proxy]
        defaultCtrl := st.defaultCtrl.or (some proxy) }
  | .gattService =>
      if serviceIsMesh bus proxy none then
        { st with serviceList := st.serviceList ++ [proxy] }
      else st
  | .gattCharacteristic =>
      if charIsMesh bus proxy none then
        { st with charList := st.charList ++ [proxy] }
      else st
  | .other => st

def deviceRemoved (proxy : Nat) : ClientState :=
  if (findParent bus st proxy).isNone then st
  else if st.connection.device = some proxy then setConnectedDevice st none
  else st

def adapterRemoved (proxy : Nat) : ClientState :=
  if !st.ctrlList.contains proxy then st
  else
    let st :=
      if st.defaultCtrl = some proxy then
        setConnectedDevice { st with defaultCtrl := none } none
      else st
    { st with ctrlList := st.ctrlList.erase proxy }

/-- Stops the notifications and closes the session, for a proxy service. -/
def stopService (proxy : Nat) : ClientState :=
  if serviceIsMesh bus proxy (some .meshProxySvc) then
    match st.connection.dataOut with
    | none => st.crash
    | some dataOut =>
        (dataOutNotify bus st dataOut false none).closeSession
          st.connection.dataIn
  else st

def serviceRemoved (proxy : Nat) : ClientState :=
  let st :=
    if st.connection.service = some proxy then
      let st := stopService bus st proxy
      st.setConnection { st.connection with
        service := none, dataIn := none, dataOut := none }
    else st
  { st with serviceList := st.serviceList.erase proxy }

def proxyRemoved (proxy : Nat) : ClientState :=
  match bus.interface proxy with
  | .device => deviceRemoved bus st proxy
  | .adapter => adapterRemoved st proxy
  | .gattService => serviceRemoved bus st proxy
  | .gattCharacteristic => { st with charList := st.charList.erase proxy }
  | .other => st

/-! ## Received data -/

/-- The value is copied to a buffer of 256 bytes before its length is looked
at. -/
def processMeshCharacteristic (proxy : Nat) : ClientState :=
  let properties := bus.properties proxy
  match properties.uuid with
  | none => st
  | some uuid =>
      match properties.value with
      | none => st
      | some value =>
          if uuid = .meshProvDataOut || uuid = .meshProxyDataOut then
            let len : U16 := BitVec.ofNat 16 value.length
            if 256 < value.length then st.crash
            else if len = 0 ∨ 69 < len.toNat then st
            else
              let result := meshGattSar st.sar ⟨value, len⟩
              let st := { st with sar := result.nextState }
              let data := st.sar.packet result.observation
              if result.observation = 0 then st
              else if uuid = .meshProvDataOut then
                match st.nodeFindByUuid st.connection.devUuid with
                | none => st
                | some node => st.act (.provData (some node) data)
              else st.act (.netData data)
          else st

/-- One `read` of `pipe_read`. -/
def pipeRead (data : List Byte) : ClientState :=
  match st.notifyIo with
  | none => st
  | some io =>
      match io.prov with
      | none => st
      | some prov =>
          if data.length = 0 ∨ 512 < data.length then st
          else
            let result := meshGattSar st.sar
              ⟨data, BitVec.ofNat 16 data.length⟩
            let st := { st with sar := result.nextState }
            let data := st.sar.packet result.observation
            if result.observation = 0 then st
            else if prov then st.act (.provData io.node data)
            else st.act (.netData data)

/-! ## Properties -/

inductive PropertyChange where
  | connected (connected : Bool)
  | aliasName
  | serviceData
  | servicesResolved (resolved : Bool)
  | discovering (discovering : Bool)
  | value
  | other

def deviceChanged (proxy : Nat) : PropertyChange → ClientState
  | .connected true =>
      if st.connection.device.isNone then setConnectedDevice st (some proxy)
      else st
  | .connected false =>
      if st.connection.device = some proxy then
        setConnectedDevice (st.closeSession st.connection.dataIn) none
      else st
  | .aliasName =>
      if st.connection.device = some proxy then
        setConnectedDevice st (some proxy)
      else st
  | .serviceData => updateDeviceInfo bus st proxy
  | .servicesResolved true => meshSessionSetup bus st st.connection.device
  | _ => st

def adapterChanged : PropertyChange → ClientState
  | .discovering discovering => { st with discovering }
  | _ => st

def characteristicChanged (proxy : Nat) : PropertyChange → ClientState
  | .value =>
      if st.connection.type = connTypeProvision ∨
          st.connection.sessionOpen = true then
        processMeshCharacteristic bus st proxy
      else st
  | _ => st

def propertyChanged (proxy : Nat) (change : PropertyChange) : ClientState :=
  match bus.interface proxy with
  | .device =>
      if st.defaultCtrl.any (deviceIsChild bus proxy) then
        deviceChanged bus st proxy change
      else st
  | .adapter => adapterChanged st change
  | .gattCharacteristic => characteristicChanged bus st proxy change
  | _ => st

/-! ## Replies -/

def connectReply (ok : Bool) (proxy : Nat) : ClientState :=
  if ok then setConnectedDevice st (some proxy) else setConnectedDevice st none

def disconnReply (ok : Bool) (proxy : Option Nat) : ClientState :=
  if !ok then st
  else if proxy ≠ st.connection.device then st
  else setConnectedDevice st none

/-- The scan filter is set on `default_ctrl`, and the primary address read from
the node, without a check. -/
def provDisconnReply (ok : Bool) (node : Nat) : ClientState :=
  if !ok then st
  else
    let st := setConnectedDevice st none
    match st.defaultCtrl, st.nodeOfRef node with
    | some _, some node =>
        { st.setConnection { st.connection with
            type := connTypeIdentity, dataIn := none, dataOut := none
            unicast := node.primary } with
          discoverMesh := true }
    | _, _ => st.crash

def disconnectReply (ok : Bool) : Option DisconnectCb → ClientState
  | none => st
  | some (.disconnReply device) => disconnReply st ok device
  | some (.provDisconnReply node) => provDisconnReply st ok node

/-- What comes back from a call: an error, or success, for `AcquireNotify` with
or without the descriptor of a pipe. -/
inductive Reply where
  | error
  | success (pipe : Bool)

def Reply.ok : Reply → Bool
  | .error => false
  | .success _ => true

def startNotify (data : NotifyData) : ClientState :=
  if bus.accepts .startNotify then
    st.call .startNotify data.proxy (.notify data)
  else st

def acquireNotifyReply (reply : Reply) (data : NotifyData) : ClientState :=
  match reply with
  | .error => startNotify bus st data
  | .success false => startNotify bus { st with notifyIo := none } data
  | .success true =>
      match (bus.properties data.proxy).uuid with
      | none => runNotifyCb bus { st with notifyIo := none } true data
      | some uuid =>
          let prov :=
            if uuid = .meshProvDataOut then some true
            else if uuid = .meshProxyDataOut then some false
            else none
          runNotifyCb bus { st with notifyIo := some { prov, node := data.node } }
            true data

def replied (reply : Reply) : Pending → ClientState
  | .connect proxy => connectReply st reply.ok proxy
  | .disconnect cb => disconnectReply st reply.ok cb
  | .acquireNotify data => acquireNotifyReply bus st reply data
  | .notify data => runNotifyCb bus st reply.ok data

/-- The reply to the call at `index` arrives. -/
def replyReceived (index : Nat) (reply : Reply) : ClientState :=
  match st.pending[index]? with
  | none => st
  | some pending =>
      replied bus { st with pending := st.pending.eraseIdx index } reply pending

/-! ## Commands -/

/-- The arguments of `connect`, with numbers as `strtol` reads them, cut to 16
bits. -/
inductive ConnectArgs where
  | primary
  | invalid
  | network (netIdx unicast : U16)

def ConnectArgs.connection : ConnectArgs → Connection
  | .primary => { Connection.zero with netIdx := netIdxPrimary }
  | .invalid => { Connection.zero with netIdx := netIdxInvalid }
  | .network netIdx unicast =>
      { Connection.zero with
        netIdx, unicast
        type := if unicast = 0 then connTypeNetwork else connTypeIdentity }

def ConnectArgs.valid : ConnectArgs → Bool
  | .invalid => false
  | _ => true

def cmdConnect (args : ConnectArgs) : ClientState :=
  if st.defaultCtrl.isNone then st
  else
    let st := st.setConnection args.connection
    if args.valid then { st with discoverMesh := true } else st

def cmdDisconn : ClientState :=
  let st :=
    if st.connection.type = connTypeProvision then
      match st.nodeFindByUuid st.connection.devUuid with
      | none => st
      | some node => st.nodeFree node
    else st
  disconnectDevice bus st (some (.disconnReply st.connection.device))

/-- `cmd_start_prov` after it has disconnected; `found` is what the list of
unprovisioned devices has for the device. -/
def startProv (devUuid : List Byte) (found : Option Nat) : ClientState :=
  let st := st.setConnection { st.connection with devUuid }
  match (st.nodeFindByUuid devUuid).bind st.nodeOfRef with
  | none => st
  | some node =>
      if node.primary ≠ 0 then st
      else if st.defaultCtrl.isNone then st.crash
      else
        match found with
        | none =>
            st.setConnection { st.connection with
              devUuid := List.replicate 16 0 }
        | some proxy =>
            let st := st.setConnection { st.connection with
              type := connTypeProvision }
            if bus.accepts .connect then
              st.call .connect proxy (.connect proxy)
            else st

def cmdStartProv (devUuid : List Byte) (found : Option Nat) : ClientState :=
  startProv bus (disconnectDevice bus st none) devUuid found

/-- The GUI starts or stops to look for unprovisioned devices. -/
def cmdScanUnprovisioned (enable : Bool) : ClientState :=
  if st.defaultCtrl.isNone then st.crash
  else if enable then { st with discoverMesh := false }
  else st

/-- The provisioning of a node has ended, with an address or a failure. -/
def meshProvDone (node : Nat) (assigned : Option { addr : U16 // addr ≠ 0 }) :
    ClientState :=
  if (st.nodeOfRef node).isNone then st.crash
  else
    match assigned with
    | none => disconnectDevice bus (st.nodeFree node) none
    | some addr =>
        let nodes := st.nodes.map fun other =>
          if other.ref = node then { other with primary := addr.1 } else other
        disconnectDevice bus { st with nodes } (some (.provDisconnReply node))

/-! ## The machine -/

/-- What the network layer does by itself. -/
def networkDone (input : Net.NetInput) (env : Net.NetEnv) : ClientState :=
  let answer := Net.netStep env st.net input
  let st := { st with net := answer.nextState }
  if answer.observation.opened = some sessionOpenCbRef then sessionOpenCb st
  else st

end Handlers

/-- Sessions are opened and closed by the connection only. -/
def isSession : Net.NetInput → Bool
  | .sessionOpen _ _ _ => true
  | .sessionClose _ => true
  | _ => false

inductive Input where
  | connect (args : ConnectArgs)
  | disconn
  | scanUnprovisioned (enable : Bool)
  | startProv (devUuid : List Byte) (found : Option Nat)
  | provDone (node : Nat) (assigned : Option { addr : U16 // addr ≠ 0 })
  | proxyAdded (proxy : Nat)
  | proxyRemoved (proxy : Nat)
  | propertyChanged (proxy : Nat) (change : PropertyChange)
  | reply (index : Nat) (reply : Reply)
  | pipeRead (data : List Byte)
  | pipeHup
  | busLost
  | network (env : Net.NetEnv) (input : Net.NetInput)
      (own : isSession input = false)
  | nodeAdded (devUuid : List Byte) (primary : U16)
  | nodeFreed (node : Nat)

def handle (bus : Bus) (st : ClientState) : Input → ClientState
  | .connect args => cmdConnect st args
  | .disconn => cmdDisconn bus st
  | .scanUnprovisioned enable => cmdScanUnprovisioned st enable
  | .startProv devUuid found => cmdStartProv bus st devUuid found
  | .provDone node assigned => meshProvDone bus st node assigned
  | .proxyAdded proxy => proxyAdded bus st proxy
  | .proxyRemoved proxy => proxyRemoved bus st proxy
  | .propertyChanged proxy change => propertyChanged bus st proxy change
  | .reply index reply => replyReceived bus st index reply
  | .pipeRead data => pipeRead st data
  | .pipeHup => { st with notifyIo := none }
  | .busLost => { st with ctrlList := [], defaultCtrl := none }
  | .network env input _ => networkDone st input env
  | .nodeAdded devUuid primary => st.nodeNew devUuid primary
  | .nodeFreed node => st.nodeFree node

/-- What BlueZ shows can change from one input to the next. -/
def clientModel : Model ClientState (Bus × Input) Unit where
  step st input :=
    ⟨if st.crashed then st else handle input.1 st input.2, ()⟩

end Meshctl.Client
