import Meshctl.Foundation.History
import Meshctl.Gui.DeviceDiscovery

/-! # The list of devices to provision

The GUI remembers the name that came last and gives it to the next UUID.
-/

namespace Meshctl.Gui

open Text Execution History

structure Device where
  uuid : String
  name : Option String
deriving DecidableEq

/-- The line that the list shows for a device. -/
def Device.getDetails (device : Device) : String :=
  device.name.getD "null" ++ " : " ++ device.uuid

/-- The fields of the GUI's window that the callback uses, with the devices
whose details were added to the list. -/
structure Home where
  deviceNameCallback : Option String
  devices : List Device

def Home.unprovisionedListModel (home : Home) : List String :=
  home.devices.map Device.getDetails

def Home.new : Home where
  deviceNameCallback := none
  devices := []

def discoverUnprovisionedCallback (home : Home) (event : SentEvent) : Home :=
  match event.key with
  | .name => { home with deviceNameCallback := some event.str }
  | .uuid =>
      { home with
        devices := home.devices ++
          [{ uuid := event.str, name := home.deviceNameCallback }] }
  | .noEvent | .endOfList => home

section

variable {Proxy : Type*} [DecidableEq Proxy]

/-! ## What a step announces and what it prints -/

/-- What `update_device_info` knows of a device to provision when it comes to
the decision whether to announce it. -/
structure Advertisement (Proxy : Type*) where
  properties : DeviceProperties
  provData : ProvSvcData
  known : Option (MeshDevice Proxy)
  discovering : Bool

namespace Advertisement

variable (advertisement : Advertisement Proxy)

/-- While the controller discovers, a device is announced when it is new or was
not yet seen in this session. -/
def isAnnounced : Bool :=
  advertisement.discovering && advertisement.known.all fun dev => !dev.hide

def isNew : Bool := advertisement.known.isNone

/-- The entry that the list should get for the device. -/
def device : Device where
  uuid := uuidText advertisement.provData.devUuid
  name := some advertisement.properties.name

end Advertisement

namespace MainState

variable (st : MainState Proxy)

/-- The device takes part when it is a child of the default controller, has an
address and advertises the provisioning service. -/
def advertises (properties : DeviceProperties) : Option (Advertisement Proxy) :=
  match st.findParent properties with
  | none => none
  | some adapter =>
      if st.defaultCtrl = some adapter.proxy && properties.address.isSome then
        (parseProvisioning properties.serviceData).map fun provData =>
          { properties, provData
            known := findDeviceByUuid adapter.meshDevices provData.devUuid
            discovering := st.discovering }
      else none

/-- The advertisement that a step looks at. -/
def advertised (input : MainInput Proxy) : Option (Advertisement Proxy) :=
  if st.crashed then none
  else
    match input with
    | .deviceAdded proxy properties =>
        (st.setProperties proxy (some properties)).advertises properties
    | .deviceChanged proxy name properties =>
        if st.defaultAdapter.any (deviceIsChild properties) &&
            name == "ServiceData" then
          (st.setProperties proxy (some properties)).advertises properties
        else none
    | _ => none

def announces (input : MainInput Proxy) : Option (Advertisement Proxy) :=
  (st.advertised input).filter Advertisement.isAnnounced

/-- The device that a command to provision finds. -/
def provisions (uuid : List Byte) : Option DeviceProperties :=
  if (st.nodeFindByUuid uuid).any fun node => !node.isProvisioned then
    (st.defaultAdapter.bind fun adapter =>
      findDeviceByUuid adapter.meshDevices uuid).bind fun dev =>
        st.properties dev.proxy
  else none

/-- The device whose name a step prints: it is new in the list of its
controller, or gone, or is about to be provisioned. -/
def prints (input : MainInput Proxy) : Option DeviceProperties :=
  if st.crashed then none
  else
    match input with
    | .deviceRemoved proxy =>
        (st.properties proxy).filter fun properties =>
          (st.findParent properties).isSome && properties.address.isSome
    | .startProv uuid =>
        (st.provisions uuid).filter fun properties => properties.address.isSome
    | _ =>
        ((st.advertised input).filter Advertisement.isNew).map
          Advertisement.properties

end MainState

/-! ## The events of a step -/

/-- The events of a step that announces and prints what is given. A device that
is new is announced first, and its name comes after its UUID. -/
def eventsOf (announced : Option Device) (printed : Option DeviceProperties) :
    List SentEvent :=
  announced.toList.map (fun device => { key := .uuid, str := device.uuid }) ++
    printed.toList.map fun properties => { key := .name, str := properties.name }

@[simp] theorem eventsOf_none : eventsOf none none = [] := rfl

theorem printDevice_eq (properties : DeviceProperties) :
    printDevice properties = eventsOf none
      (if properties.address.isSome then some properties else none) := by
  cases found : properties.address <;> simp [printDevice, eventsOf, found]

theorem updateDeviceInfo_events (st : MainState Proxy) (proxy : Proxy)
    (properties : DeviceProperties) :
    (updateDeviceInfo st proxy properties).observation =
      eventsOf (((st.advertises properties).filter
          Advertisement.isAnnounced).map Advertisement.device)
        (((st.advertises properties).filter Advertisement.isNew).map
          Advertisement.properties) := by
  unfold updateDeviceInfo MainState.advertises
  cases st.findParent properties with
  | none => rfl
  | some adapter =>
      by_cases default : st.defaultCtrl = some adapter.proxy
      swap
      · simp [default]
      cases address : properties.address with
      | none => simp [default]
      | some address =>
          cases parseProvisioning properties.serviceData with
          | none => cases parseMeshProxy properties.serviceData <;>
              cases st.discoverMesh <;> simp [default]
          | some provData =>
              cases known : findDeviceByUuid adapter.meshDevices
                provData.devUuid with
              | none =>
                  cases discovering : st.discovering <;>
                    simp [default, eventsOf, Option.filter_some, known, address,
                      Advertisement.isAnnounced, Advertisement.isNew,
                      Advertisement.device, printDevice, printProvService]
              | some dev =>
                  cases discovering : st.discovering <;> cases hidden : dev.hide <;>
                    simp [default, eventsOf, Option.filter_some, known, hidden,
                      Advertisement.isAnnounced, Advertisement.isNew,
                      Advertisement.device, printProvService]

theorem deviceRemoved_events (st : MainState Proxy) (proxy : Proxy)
    (properties : DeviceProperties) :
    (deviceRemoved st proxy properties).observation =
      eventsOf none ((some properties).filter fun properties =>
        (st.findParent properties).isSome && properties.address.isSome) := by
  unfold deviceRemoved
  cases parent : st.findParent properties <;>
    simp [Option.filter_some, parent, printDevice_eq]

theorem cmdStartProv_events (st : MainState Proxy) (uuid : List Byte) :
    (cmdStartProv st uuid).observation =
      eventsOf none ((st.provisions uuid).filter fun properties =>
        properties.address.isSome) := by
  unfold cmdStartProv MainState.provisions
  cases st.nodeFindByUuid uuid with
  | none => rfl
  | some node =>
      cases provisioned : node.isProvisioned with
      | true => simp [provisioned]
      | false =>
          cases default : st.defaultAdapter with
          | none => simp [provisioned]
          | some adapter =>
              cases known : findDeviceByUuid adapter.meshDevices uuid with
              | none => simp [provisioned, known]
              | some dev =>
                  cases found : st.properties dev.proxy <;>
                    simp [provisioned, known, found, printDevice_eq,
                      Option.filter_some]

/-- What a step sends to the GUI. -/
theorem step_events (st : MainState Proxy) (input : MainInput Proxy) :
    ((mainModel Proxy).step st input).observation =
      eventsOf ((st.announces input).map Advertisement.device)
        (st.prints input) := by
  cases crashed : st.crashed with
  | true => simp [mainModel, MainState.announces, MainState.prints,
      MainState.advertised, crashed]
  | false =>
      cases input with
      | deviceAdded proxy properties =>
          simp [mainModel, handle, MainState.announces, MainState.prints,
            MainState.advertised, crashed, updateDeviceInfo_events]
      | deviceChanged proxy name properties =>
          have same : (st.setProperties proxy (some properties)).defaultAdapter =
              st.defaultAdapter := rfl
          cases child : st.defaultAdapter.any (deviceIsChild properties) <;>
            by_cases service : name = "ServiceData" <;>
            simp [mainModel, handle, MainState.announces, MainState.prints,
              MainState.advertised, crashed, updateDeviceInfo_events, same, child,
              service]
      | deviceRemoved proxy =>
          cases found : st.properties proxy <;>
            simp [mainModel, handle, MainState.announces, MainState.prints,
              MainState.advertised, crashed, found, deviceRemoved_events]
      | startProv uuid =>
          simp [mainModel, handle, MainState.announces, MainState.prints,
            MainState.advertised, crashed, cmdStartProv_events]
      | _ => simp [mainModel, handle, MainState.announces, MainState.prints,
          MainState.advertised, crashed]

/-! ## Runs -/

/-- The events that a run sends, in order. -/
def sentEvents (start : MainState Proxy) (inputs : List (MainInput Proxy)) :
    List SentEvent :=
  ((mainModel Proxy).trace start inputs).flatMap Entry.observation

end

abbrev MainEntry (Proxy : Type*) :=
  Entry (MainState Proxy) (MainInput Proxy) (List SentEvent)

def Home.receive (home : Home) (events : List SentEvent) : Home :=
  events.foldl discoverUnprovisionedCallback home

theorem Home.receive_eventsOf (home : Home) (announced : Option Device)
    (printed : Option DeviceProperties) :
    home.receive (eventsOf announced printed) =
      { deviceNameCallback := (printed.map DeviceProperties.name).or
          home.deviceNameCallback
        devices := home.devices ++ announced.toList.map fun device =>
          { device with name := home.deviceNameCallback } } := by
  cases announced <;> cases printed <;>
    simp [Home.receive, eventsOf, discoverUnprovisionedCallback]

section

variable {Proxy : Type*} [DecidableEq Proxy]

/-- The devices that a history announces, each with its own name. -/
def announcedDevices (history : List (MainEntry Proxy)) : List Device :=
  (history.filterMap fun entry => entry.before.announces entry.input).map
    Advertisement.device

/-- The name of the device that a history printed last. -/
def lastPrinted (history : List (MainEntry Proxy)) : Option String :=
  (history.filterMap fun entry => entry.before.prints entry.input).getLast?.map
    DeviceProperties.name

/-- Where a device is announced, the device printed last before has the same
name. -/
def NamesakeLast (history : List (MainEntry Proxy)) (entry : MainEntry Proxy) :
    Prop :=
  ∀ advertisement, entry.before.announces entry.input = some advertisement →
    lastPrinted history = some advertisement.properties.name

theorem lastPrinted_concat (history : List (MainEntry Proxy))
    (entry : MainEntry Proxy) :
    lastPrinted (history ++ [entry]) =
      ((entry.before.prints entry.input).map DeviceProperties.name).or
        (lastPrinted history) := by
  cases printed : entry.before.prints entry.input <;>
    simp [lastPrinted, printed]

theorem announcedDevices_concat (history : List (MainEntry Proxy))
    (entry : MainEntry Proxy) :
    announcedDevices (history ++ [entry]) = announcedDevices history ++
      ((entry.before.announces entry.input).map Advertisement.device).toList := by
  cases announced : entry.before.announces entry.input <;>
    simp [announcedDevices, announced]

/-- The GUI after the events of a history whose steps send what they should:
it remembers the name printed last, has one entry for each device announced,
and each entry has its own device's name exactly when that is what the GUI
remembered. -/
theorem receive_history (history : List (MainEntry Proxy))
    (sends : ∀ entry ∈ history, entry.observation =
      eventsOf ((entry.before.announces entry.input).map Advertisement.device)
        (entry.before.prints entry.input)) :
    let home := Home.new.receive (history.flatMap Entry.observation)
    home.deviceNameCallback = lastPrinted history ∧
      home.devices.length = (announcedDevices history).length ∧
      (home.devices = announcedDevices history ↔
        Justified NamesakeLast history) := by
  induction history using List.reverseRecOn with
  | nil => exact ⟨rfl, rfl, by simp [justified_nil, Home.receive, Home.new,
      announcedDevices]⟩
  | append_singleton history entry induction =>
      have before := induction fun entry member =>
        sends entry (List.mem_append_left _ member)
      have here := sends entry (by simp)
      simp only [List.flatMap_append, List.flatMap_singleton, here, Home.receive,
        List.foldl_append] at before ⊢
      set home := (history.flatMap Entry.observation).foldl
        discoverUnprovisionedCallback Home.new
      rw [← Home.receive, Home.receive_eventsOf, lastPrinted_concat,
        announcedDevices_concat, justified_concat_iff]
      rcases before with ⟨name, sameLength, exactly⟩
      have split : ∀ added own : List Device,
          home.devices ++ added = announcedDevices history ++ own ↔
            home.devices = announcedDevices history ∧ added = own :=
        fun added own => ⟨fun same => List.append_inj same sameLength,
          fun ⟨before, last⟩ => by rw [before, last]⟩
      refine ⟨by rw [name], by simp [sameLength], ?_⟩
      rw [split, exactly, name]
      apply and_congr_right'
      cases announced : entry.before.announces entry.input with
      | none => simp [NamesakeLast, announced]
      | some advertisement =>
          simp [NamesakeLast, announced, Advertisement.device]

/-- Every entry of the list pairs a UUID with the name of the device that
advertised it exactly when every device is announced after one of the same name
was printed, and no other since. -/
theorem devices_named_iff (nodes : List ProvNode)
    (inputs : List (MainInput Proxy)) :
    (Home.new.receive
        (sentEvents (MainState.start Proxy nodes) inputs)).devices =
      announcedDevices
        ((mainModel Proxy).trace (MainState.start Proxy nodes) inputs) ↔
    Justified NamesakeLast
      ((mainModel Proxy).trace (MainState.start Proxy nodes) inputs) := by
  refine (receive_history _ fun entry member => ?_).2.2
  rw [(mainModel Proxy).entry_of_mem_trace member]
  exact step_events entry.before entry.input

end

/-! ### The first device of all -/

/-- A lamp that advertises the provisioning service. -/
def lamp : DeviceProperties where
  adapter := some "/org/bluez/hci0"
  address := some "00:11:22:33:44:55"
  aliasName := some "Lamp"
  serviceData := [.provisioning (List.replicate 18 0)]

/-- The lamp is the first device that a new session discovers. -/
def lampInputs : List (MainInput Nat) :=
  [.adapterAdded 0 "/org/bluez/hci0", .scanUnprovisioned true,
    .adapterDiscovering true, .deviceAdded 1 lamp]

theorem devices_not_always_named :
    ¬∀ (nodes : List ProvNode) (inputs : List (MainInput Nat)),
      (Home.new.receive
          (sentEvents (MainState.start Nat nodes) inputs)).devices =
        announcedDevices
          ((mainModel Nat).trace (MainState.start Nat nodes) inputs) := by
  intro always
  have named := always [] lampInputs
  have unnamed : (Home.new.receive
      (sentEvents (MainState.start Nat []) lampInputs)).devices.map Device.name =
        [none] := by
    decide +kernel
  have own : (announcedDevices ((mainModel Nat).trace
      (MainState.start Nat []) lampInputs)).map Device.name = [some "Lamp"] := by
    decide +kernel
  rw [named, own] at unnamed
  simp at unnamed

end Meshctl.Gui
