import Meshctl.Foundation.Execution
import Meshctl.Foundation.Bytes
import Meshctl.Foundation.Hex
import Meshctl.Gui.EventChannel

/-! # Device discovery

What `main.c` keeps of the objects that D-Bus announces to it, and the events
that it sends to the GUI about devices.
-/

namespace Meshctl.Gui

open Bytes Text Execution

/-- One call of `sendEventToJava`. -/
structure SentEvent where
  key : EventKey
  str : String
deriving DecidableEq

/-- An entry of the ServiceData property as `parse_service_data` tells them
apart. For mesh proxy data it carries the answer of `parse_mesh_service_data`,
which turns on the connection that is wanted and on the network's keys. -/
inductive ServiceEntry where
  | malformed
  | provisioning (data : List Byte)
  | meshProxy (wanted : Bool)
  | other

structure ProvSvcData where
  devUuid : List Byte
  oob : U16

/-- The properties of a device object that are read, as D-Bus has them. -/
structure DeviceProperties where
  adapter : Option String
  address : Option String
  aliasName : Option String
  serviceData : List ServiceEntry

structure MeshDevice (Proxy : Type*) where
  proxy : Proxy
  devUuid : List Byte
  hide : Bool

/-- A controller, with the object path of its proxy. -/
structure Adapter (Proxy : Type*) where
  proxy : Proxy
  path : String
  meshDevices : List (MeshDevice Proxy)

structure ProvNode where
  devUuid : List Byte
  oob : U16
  primary : Nat

def ProvNode.isProvisioned (node : ProvNode) : Bool := node.primary != 0

/-- The variables of `main.c`. A proxy is a pointer, and `properties` says which
of them point to an object. After a NULL or a stale pointer has been followed
nothing more happens. -/
structure MainState (Proxy : Type*) where
  properties : Proxy → Option DeviceProperties
  ctrlList : List (Adapter Proxy)
  defaultCtrl : Option Proxy
  discovering : Bool
  discoverMesh : Bool
  nodes : List ProvNode
  crashed : Bool

/-! ## Parsing -/

def parseProvServiceData (data : List Byte) : Option ProvSvcData :=
  if data.length < 18 then none
  else some { devUuid := data.take 16, oob := getBe16 data 16 }

/-- `parse_service_data` for the mesh provisioning service. -/
def parseProvisioning : List ServiceEntry → Option ProvSvcData
  | [] => none
  | .malformed :: _ => none
  | .provisioning data :: _ => parseProvServiceData data
  | .meshProxy _ :: entries => parseProvisioning entries
  | .other :: entries => parseProvisioning entries

/-- `parse_service_data` for the mesh proxy service. -/
def parseMeshProxy : List ServiceEntry → Bool
  | [] => false
  | .malformed :: _ => false
  | .provisioning _ :: entries => parseMeshProxy entries
  | .meshProxy wanted :: _ => wanted
  | .other :: entries => parseMeshProxy entries

/-! ## Events -/

def uuidText (devUuid : List Byte) : String :=
  String.join (devUuid.map fun byte => hexText 2 byte.toNat)

def printProvService (provData : ProvSvcData) : List SentEvent :=
  [{ key := .uuid, str := uuidText provData.devUuid }]

/-- The name that the program shows for a device. -/
def DeviceProperties.name (properties : DeviceProperties) : String :=
  properties.aliasName.getD "<unknown>"

def printDevice (properties : DeviceProperties) : List SentEvent :=
  if properties.address.isNone then []
  else [{ key := .name, str := properties.name }]

section

variable {Proxy : Type*} [DecidableEq Proxy]

/-! ## Looking up -/

def findDeviceByUuid (source : List (MeshDevice Proxy)) (uuid : List Byte) :
    Option (MeshDevice Proxy) :=
  source.find? fun dev => dev.devUuid = uuid

/-- The loop's own `proxy` hides the argument, so the first device is found. -/
def findDeviceByProxy (source : List (MeshDevice Proxy)) (_proxy : Proxy) :
    Option Nat :=
  source.findIdx? fun dev =>
    let proxy := dev.proxy
    dev.proxy = proxy

def deviceIsChild (properties : DeviceProperties) (adapter : Adapter Proxy) :
    Bool :=
  properties.adapter = some adapter.path

namespace MainState

variable (st : MainState Proxy)

def findParent (properties : DeviceProperties) : Option (Adapter Proxy) :=
  st.ctrlList.find? (deviceIsChild properties)

/-- What `default_ctrl` points to. -/
def defaultAdapter : Option (Adapter Proxy) :=
  st.defaultCtrl.bind fun proxy =>
    st.ctrlList.find? fun adapter => adapter.proxy = proxy

def nodeFindByUuid (uuid : List Byte) : Option ProvNode :=
  st.nodes.find? fun node => node.devUuid = uuid

/-! ## Changing -/

def setMeshDevices (owner : Proxy) (devices : List (MeshDevice Proxy)) :
    MainState Proxy :=
  { st with
    ctrlList := st.ctrlList.map fun adapter =>
      if adapter.proxy = owner then { adapter with meshDevices := devices }
      else adapter }

def forgetMeshDevices : MainState Proxy :=
  match st.defaultCtrl with
  | none => st
  | some owner => st.setMeshDevices owner []

def setProperties (proxy : Proxy) (properties : Option DeviceProperties) :
    MainState Proxy :=
  { st with properties := Function.update st.properties proxy properties }

def nodeCreateNew (prov : ProvSvcData) : MainState Proxy :=
  if (st.nodeFindByUuid prov.devUuid).isSome then st
  else
    { st with
      nodes := st.nodes ++
        [{ devUuid := prov.devUuid, oob := prov.oob, primary := 0 }] }

end MainState

/-! ## Handlers -/

/-- A device was announced, or its service data changed. -/
def updateDeviceInfo (st : MainState Proxy) (proxy : Proxy)
    (properties : DeviceProperties) :
    StepResult (MainState Proxy) (List SentEvent) :=
  match st.findParent properties with
  | none => ⟨st, []⟩
  | some adapter =>
      if st.defaultCtrl ≠ some adapter.proxy then ⟨st, []⟩
      else if properties.address.isNone then ⟨st, []⟩
      else
        match parseProvisioning properties.serviceData with
        | some provData =>
            let found := findDeviceByUuid adapter.meshDevices provData.devUuid
            let announced :=
              if st.discovering && found.all (fun dev => !dev.hide) then
                printProvService provData
              else []
            match found with
            | some _ =>
                let index := adapter.meshDevices.findIdx fun dev =>
                  dev.devUuid = provData.devUuid
                ⟨st.setMeshDevices adapter.proxy
                  (adapter.meshDevices.modify index fun dev =>
                    { dev with proxy := proxy, hide := st.discovering }),
                  announced⟩
            | none =>
                ⟨(st.setMeshDevices adapter.proxy
                    (adapter.meshDevices ++
                      [{ proxy := proxy, devUuid := provData.devUuid,
                         hide := st.discovering }])).nodeCreateNew provData,
                  announced ++ printDevice properties⟩
        | none =>
            if parseMeshProxy properties.serviceData && st.discoverMesh then
              ⟨{ st with discoverMesh := false }.forgetMeshDevices, []⟩
            else ⟨st, []⟩

/-- A device object is gone; its proxy is freed behind the handler. -/
def deviceRemoved (st : MainState Proxy) (proxy : Proxy)
    (properties : DeviceProperties) :
    StepResult (MainState Proxy) (List SentEvent) :=
  match st.findParent properties with
  | none => ⟨st.setProperties proxy none, []⟩
  | some adapter =>
      let devices :=
        match findDeviceByProxy adapter.meshDevices proxy with
        | none => adapter.meshDevices
        | some index => adapter.meshDevices.eraseIdx index
      ⟨(st.setMeshDevices adapter.proxy devices).setProperties proxy none,
        printDevice properties⟩

def adapterAdded (st : MainState Proxy) (proxy : Proxy) (path : String) :
    MainState Proxy :=
  { st with
    ctrlList := st.ctrlList ++
      [{ proxy := proxy, path := path, meshDevices := [] }]
    defaultCtrl := st.defaultCtrl.or (some proxy) }

def adapterRemoved (st : MainState Proxy) (proxy : Proxy) : MainState Proxy :=
  { st with
    ctrlList := st.ctrlList.eraseP fun adapter => adapter.proxy = proxy
    defaultCtrl := if st.defaultCtrl = some proxy then none
      else st.defaultCtrl }

/-- The GUI's command to provision the device with this UUID. -/
def cmdStartProv (st : MainState Proxy) (uuid : List Byte) :
    StepResult (MainState Proxy) (List SentEvent) :=
  match st.nodeFindByUuid uuid with
  | none => ⟨st, []⟩
  | some node =>
      if node.isProvisioned then ⟨st, []⟩
      else
        match st.defaultAdapter with
        | none => ⟨{ st with crashed := true }, []⟩
        | some adapter =>
            match findDeviceByUuid adapter.meshDevices uuid with
            | none => ⟨st, []⟩
            | some dev =>
                match st.properties dev.proxy with
                | none => ⟨{ st with crashed := true }, []⟩
                | some properties =>
                    ⟨st.forgetMeshDevices, printDevice properties⟩

def cmdScanUnprovisioned (st : MainState Proxy) (enable : Bool) :
    MainState Proxy :=
  match st.defaultCtrl with
  | none => { st with crashed := true }
  | some _ => if enable then { st with discoverMesh := false } else st

/-- What can happen to the program: an announcement of D-Bus, with the new
properties of a device, a command of the GUI, the end of a provisioning, or
another change of the node list. -/
inductive MainInput (Proxy : Type*) where
  | deviceAdded (proxy : Proxy) (properties : DeviceProperties)
  | deviceChanged (proxy : Proxy) (name : String)
      (properties : DeviceProperties)
  | deviceRemoved (proxy : Proxy)
  | adapterAdded (proxy : Proxy) (path : String)
  | adapterRemoved (proxy : Proxy)
  | adapterDiscovering (value : Bool)
  | disconnected
  | scanUnprovisioned (enable : Bool)
  | startProv (uuid : List Byte)
  | provDisconnReply
  | nodesChanged (nodes : List ProvNode)

def handle (st : MainState Proxy) : MainInput Proxy →
    StepResult (MainState Proxy) (List SentEvent)
  | .deviceAdded proxy properties =>
      updateDeviceInfo (st.setProperties proxy (some properties)) proxy
        properties
  | .deviceChanged proxy name properties =>
      let st := st.setProperties proxy (some properties)
      if st.defaultAdapter.any (deviceIsChild properties) &&
          name == "ServiceData" then
        updateDeviceInfo st proxy properties
      else ⟨st, []⟩
  | .deviceRemoved proxy =>
      match st.properties proxy with
      | none => ⟨st, []⟩
      | some properties => deviceRemoved st proxy properties
  | .adapterAdded proxy path => ⟨adapterAdded st proxy path, []⟩
  | .adapterRemoved proxy => ⟨adapterRemoved st proxy, []⟩
  | .adapterDiscovering value => ⟨{ st with discovering := value }, []⟩
  | .disconnected => ⟨{ st with ctrlList := [], defaultCtrl := none }, []⟩
  | .scanUnprovisioned enable => ⟨cmdScanUnprovisioned st enable, []⟩
  | .startProv uuid => cmdStartProv st uuid
  | .provDisconnReply => ⟨{ st with discoverMesh := true }, []⟩
  | .nodesChanged nodes => ⟨{ st with nodes := nodes }, []⟩

def mainModel (Proxy : Type*) [DecidableEq Proxy] :
    Model (MainState Proxy) (MainInput Proxy) (List SentEvent) where
  step st input := if st.crashed then ⟨st, []⟩ else handle st input

end

/-- The program before D-Bus has announced anything to it. -/
def MainState.start (Proxy : Type*) (nodes : List ProvNode) :
    MainState Proxy where
  properties _ := none
  ctrlList := []
  defaultCtrl := none
  discovering := false
  discoverMesh := false
  nodes := nodes
  crashed := false

end Meshctl.Gui
