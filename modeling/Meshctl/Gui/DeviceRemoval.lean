import Meshctl.Gui.DeviceDiscovery

/-! # Removing a device

Which entry of the list of mesh devices goes when a device is gone.
-/

namespace Meshctl.Gui

variable {Proxy : Type*} [DecidableEq Proxy]

/-! ## The search -/

/-- The search returns the entry with the proxy, or none where there is none. -/
def FindsDevice (devices : List (MeshDevice Proxy)) (proxy : Proxy) : Prop :=
  (findDeviceByProxy devices proxy).bind (fun index => devices[index]?) =
    devices.find? fun dev => dev.proxy = proxy

/-- What `device_removed` makes of the list of the adapter. -/
def devicesLeft (devices : List (MeshDevice Proxy)) (proxy : Proxy) :
    List (MeshDevice Proxy) :=
  match findDeviceByProxy devices proxy with
  | none => devices
  | some index => devices.eraseIdx index

/-- The first device has the proxy, if there is one. -/
def AtHead (devices : List (MeshDevice Proxy)) (proxy : Proxy) : Prop :=
  ∀ dev, devices.head? = some dev → dev.proxy = proxy

theorem findDeviceByProxy_cons (dev : MeshDevice Proxy)
    (rest : List (MeshDevice Proxy)) (proxy : Proxy) :
    findDeviceByProxy (dev :: rest) proxy = some 0 := by
  rw [findDeviceByProxy, List.findIdx?_cons]
  simp

theorem findsDevice_iff {devices : List (MeshDevice Proxy)} {proxy : Proxy} :
    FindsDevice devices proxy ↔ AtHead devices proxy := by
  cases devices with
  | nil =>
      refine iff_of_true rfl fun dev isHead => ?_
      cases isHead
  | cons first rest =>
      have found : (findDeviceByProxy (first :: rest) proxy).bind
          (fun index => (first :: rest)[index]?) = some first := by
        rw [findDeviceByProxy_cons]
        rfl
      rw [FindsDevice, found]
      constructor
      · intro same dev isHead
        cases isHead
        simpa using List.find?_some same.symm
      · intro atHead
        rw [List.find?_cons_of_pos (by simpa using atHead first rfl)]

/-- Of devices with distinct proxies, all but the one with the proxy are kept, in their
order, exactly when that one is the first. -/
theorem devicesLeft_eq_iff {devices : List (MeshDevice Proxy)}
    (distinct : (devices.map MeshDevice.proxy).Nodup) {proxy : Proxy} :
    devicesLeft devices proxy = devices.filter (fun dev => dev.proxy ≠ proxy) ↔
      AtHead devices proxy := by
  cases devices with
  | nil =>
      refine iff_of_true rfl fun dev isHead => ?_
      cases isHead
  | cons first rest =>
      have left : devicesLeft (first :: rest) proxy = rest := by
        rw [devicesLeft, findDeviceByProxy_cons]
        rfl
      rw [List.map_cons, List.nodup_cons] at distinct
      rw [left]
      constructor
      · intro same dev isHead
        cases isHead
        by_contra other
        rw [List.filter_cons_of_pos (by simpa using other)] at same
        have again : first ∈ rest := same ▸ List.mem_cons_self
        exact distinct.1 (List.mem_map_of_mem again)
      · intro atHead
        have isFirst := atHead first rfl
        rw [List.filter_cons_of_neg (by simpa using isFirst)]
        refine (List.filter_eq_self.mpr fun dev member => ?_).symm
        have apart : dev.proxy ≠ proxy := fun same =>
          distinct.1 (isFirst.trans same.symm ▸ List.mem_map_of_mem member)
        simpa using apart

/-! ## The handler -/

/-- The adapter of the device keeps all of its devices but the one with the proxy. -/
def RemovesDevice (st : MainState Proxy) (adapter : Adapter Proxy) (proxy : Proxy)
    (properties : DeviceProperties) : Prop :=
  (deviceRemoved st proxy properties).nextState.ctrlList =
    (st.setMeshDevices adapter.proxy
      (adapter.meshDevices.filter fun dev => dev.proxy ≠ proxy)).ctrlList

theorem removesDevice_iff {st : MainState Proxy} {adapter : Adapter Proxy}
    {proxy : Proxy} {properties : DeviceProperties}
    (parent : st.findParent properties = some adapter) :
    RemovesDevice st adapter proxy properties ↔
      devicesLeft adapter.meshDevices proxy =
        adapter.meshDevices.filter fun dev => dev.proxy ≠ proxy := by
  have isAdapter : adapter ∈ st.ctrlList := List.mem_of_find?_eq_some parent
  have next : (deviceRemoved st proxy properties).nextState.ctrlList =
      (st.setMeshDevices adapter.proxy (devicesLeft adapter.meshDevices proxy)).ctrlList := by
    unfold deviceRemoved
    rw [parent]
    rfl
  rw [RemovesDevice, next]
  refine ⟨fun same => ?_, fun same => by rw [same]⟩
  have atAdapter := List.map_inj_left.mp same adapter isAdapter
  simpa using atAdapter

/-- Of devices with distinct proxies the right one is found and removed, if and only if
it is the first of its adapter or the adapter has no devices. -/
theorem device_removal_iff (st : MainState Proxy) {adapter : Adapter Proxy} (proxy : Proxy)
    {properties : DeviceProperties} (parent : st.findParent properties = some adapter)
    (distinct : (adapter.meshDevices.map MeshDevice.proxy).Nodup) :
    FindsDevice adapter.meshDevices proxy ∧ RemovesDevice st adapter proxy properties ↔
      AtHead adapter.meshDevices proxy := by
  rw [findsDevice_iff, removesDevice_iff parent, devicesLeft_eq_iff distinct, and_self_iff]

/-! ### Two devices -/

def twoDevices : List (MeshDevice Nat) :=
  [{ proxy := 1, devUuid := List.replicate 16 1, hide := false },
    { proxy := 2, devUuid := List.replicate 16 2, hide := false }]

def twoDeviceAdapter : Adapter Nat where
  proxy := 0
  path := "/org/bluez/hci0"
  meshDevices := twoDevices

def childProperties : DeviceProperties where
  adapter := some "/org/bluez/hci0"
  address := some "00:00:00:00:00:01"
  aliasName := none
  serviceData := []

theorem device_removal_first :
    FindsDevice twoDevices 1 ∧
      RemovesDevice { MainState.start Nat [] with ctrlList := [twoDeviceAdapter] }
        twoDeviceAdapter 1 childProperties :=
  (device_removal_iff { MainState.start Nat [] with ctrlList := [twoDeviceAdapter] } 1
    (by rfl : _ = some twoDeviceAdapter) (by decide)).mpr
      fun dev isFirst => by cases isFirst; rfl

theorem device_not_always_found :
    ¬∀ (devices : List (MeshDevice Nat)) (proxy : Nat),
      (devices.map MeshDevice.proxy).Nodup → FindsDevice devices proxy := by
  intro finds
  have atHead := findsDevice_iff.mp (finds twoDevices 2 (by decide))
  exact absurd (atHead _ rfl) (by decide)

end Meshctl.Gui
