import Meshctl.Gui.DeviceSelection

/-! # Discovery sessions

A device is hidden from a session when it was seen while the controller discovered, also
when that was in an earlier session.
-/

namespace Meshctl.Gui

open Text Execution Db

/-! ## Events of the default controller -/

/-- A device object of the controller that has an address and the provisioning service. -/
structure ProvDevice (path : String) where
  properties : DeviceProperties
  provData : ProvSvcData
  isChild : properties.adapter = some path
  hasAddress : properties.address.isSome = true
  advertises : parseProvisioning properties.serviceData = some provData

/-- The Discovering property changes, or a device object is added or has new service
data. -/
inductive DiscoveryEvent (Proxy : Type*) (path : String) where
  | discovering (value : Bool)
  | advertised (added : Bool) (proxy : Proxy) (device : ProvDevice path)

namespace DiscoveryEvent

variable {Proxy : Type*} {path : String}

def input : DiscoveryEvent Proxy path → MainInput Proxy
  | .discovering value => .adapterDiscovering value
  | .advertised true proxy device => .deviceAdded proxy device.properties
  | .advertised false proxy device => .deviceChanged proxy "ServiceData" device.properties

def IsOf (devUuid : List Byte) : DiscoveryEvent Proxy path → Prop
  | .discovering _ => False
  | .advertised _ _ device => device.provData.devUuid = devUuid

instance (devUuid : List Byte) (event : DiscoveryEvent Proxy path) :
    Decidable (event.IsOf devUuid) :=
  match event with
  | .discovering _ => inferInstanceAs (Decidable False)
  | .advertised _ _ device => inferInstanceAs (Decidable (device.provData.devUuid = devUuid))

@[simp] theorem isOf_discovering (devUuid : List Byte) (value : Bool) :
    (DiscoveryEvent.discovering value : DiscoveryEvent Proxy path).IsOf devUuid ↔ False :=
  Iff.rfl

@[simp] theorem isOf_advertised (devUuid : List Byte) (added : Bool) (proxy : Proxy)
    (device : ProvDevice path) :
    (DiscoveryEvent.advertised added proxy device).IsOf devUuid ↔
      device.provData.devUuid = devUuid :=
  Iff.rfl

end DiscoveryEvent

/-! ## Sessions -/

/-- What matters of the events so far: whether the controller discovers, and of which
devices it did when they were seen last. -/
structure Seen where
  discovering : Bool
  hidden : List Byte → Bool

def Seen.start : Seen where
  discovering := false
  hidden _ := false

section Sessions

variable {Proxy : Type*} {path : String}

def Seen.next (seen : Seen) : DiscoveryEvent Proxy path → Seen
  | .discovering value => { seen with discovering := value }
  | .advertised _ _ device =>
      { seen with
        hidden := Function.update seen.hidden device.provData.devUuid seen.discovering }

def Seen.after (seen : Seen) (events : List (DiscoveryEvent Proxy path)) : Seen :=
  events.foldl Seen.next seen

/-- A session begins when the controller starts to discover and lasts until it stops. -/
structure DiscoverySession (events before during : List (DiscoveryEvent Proxy path)) :
    Prop where
  idle : (Seen.start.after before).discovering = false
  stays : ∀ event ∈ during, event ≠ .discovering false
  within : events = before ++ .discovering true :: during ∨
    ∃ after, events = before ++ .discovering true :: during ++ .discovering false :: after

/-- A device that advertises in a session was not seen before, or last while the
controller did not discover. -/
def SeenBetween (events : List (DiscoveryEvent Proxy path)) : Prop :=
  ∀ before during, DiscoverySession events before during →
    ∀ devUuid, (∃ event ∈ during, event.IsOf devUuid) →
      (Seen.start.after before).hidden devUuid = false

end Sessions

section Runs

variable {Proxy : Type*} {path : String}

/-! ## The list of devices -/

/-- The state of the program with its first controller. -/
def MainState.withController (nodes : List ProvNode) (controller : Proxy) (path : String) :
    MainState Proxy :=
  adapterAdded (MainState.start Proxy nodes) controller path

/-- The flags of the devices of the default controller, which no other one has. -/
structure Shows (controller : Proxy) (path : String) (seen : Seen) (st : MainState Proxy) :
    Prop where
  running : st.crashed = false
  isDefault : st.defaultCtrl = some controller
  discovering : st.discovering = seen.discovering
  devices : ∃ devices, st.ctrlList = [⟨controller, path, devices⟩] ∧
    ∀ devUuid, (findDeviceByUuid devices devUuid).any MeshDevice.hide = seen.hidden devUuid

theorem shows_withController (nodes : List ProvNode) (controller : Proxy) (path : String) :
    Shows controller path Seen.start (MainState.withController nodes controller path) :=
  ⟨rfl, rfl, rfl, [], rfl, fun _ => rfl⟩

/-- The device that was found is brought up to date, or a new one is added. -/
def recordDevice (devices : List (MeshDevice Proxy)) (proxy : Proxy) (devUuid : List Byte)
    (hide : Bool) : List (MeshDevice Proxy) :=
  match findDeviceByUuid devices devUuid with
  | some _ =>
      devices.modify (devices.findIdx fun dev => dev.devUuid = devUuid) fun dev =>
        { dev with proxy := proxy, hide := hide }
  | none => devices ++ [{ proxy := proxy, devUuid := devUuid, hide := hide }]

/-- Only the flag of the device changes. -/
theorem hide_recordDevice (devices : List (MeshDevice Proxy)) (proxy : Proxy)
    (devUuid : List Byte) (hide : Bool) (other : List Byte) :
    (findDeviceByUuid (recordDevice devices proxy devUuid hide) other).any MeshDevice.hide =
      Function.update
        (fun uuid => (findDeviceByUuid devices uuid).any MeshDevice.hide) devUuid hide
        other := by
  rw [recordDevice]
  cases found : findDeviceByUuid devices devUuid with
  | none =>
      dsimp only
      rw [findDeviceByUuid, List.find?_append]
      by_cases same : other = devUuid
      · subst same
        rw [findDeviceByUuid] at found
        simp [found]
      · have notLast : ¬devUuid = other := fun equal => same equal.symm
        simp [Function.update_of_ne same, notLast, findDeviceByUuid]
  | some dev =>
      dsimp only
      induction devices with
      | nil => cases found
      | cons first rest induction =>
          by_cases here : first.devUuid = devUuid
          · have atHead : (first :: rest).findIdx (fun dev => dev.devUuid = devUuid) = 0 := by
              simp [List.findIdx_cons, here]
            rw [atHead, List.modify_zero_cons]
            by_cases same : other = devUuid
            · simp [same, findDeviceByUuid, here]
            · have notFirst : ¬devUuid = other := fun equal => same equal.symm
              simp [Function.update_of_ne same, findDeviceByUuid, here, notFirst]
          · have later : (first :: rest).findIdx (fun dev => dev.devUuid = devUuid) =
                rest.findIdx (fun dev => dev.devUuid = devUuid) + 1 := by
              simp [List.findIdx_cons, here]
            have foundLater : findDeviceByUuid rest devUuid = some dev := by
              rwa [findDeviceByUuid, List.find?_cons_of_neg (by simpa using here)] at found
            have rests := induction foundLater
            rw [later, List.modify_succ_cons]
            by_cases isFirst : first.devUuid = other
            · have notDevice : other ≠ devUuid := isFirst ▸ here
              simp [Function.update_of_ne notDevice, findDeviceByUuid, isFirst]
            · have skip : ∀ devices, findDeviceByUuid (first :: devices) other =
                  findDeviceByUuid devices other :=
                fun devices => List.find?_cons_of_neg (by simpa using isFirst)
              rw [skip, rests]
              by_cases same : other = devUuid
              · rw [same, Function.update_self, Function.update_self]
              · rw [Function.update_of_ne same, Function.update_of_ne same, skip]

variable [DecidableEq Proxy]

/-! ## Announcements -/

def MainState.afterEvents (st : MainState Proxy)
    (events : List (DiscoveryEvent Proxy path)) : MainState Proxy :=
  (mainModel Proxy).finalState st (events.map DiscoveryEvent.input)

/-- How often the provisioning service of a device is announced while the events are
handled. -/
def announcements (devUuid : List Byte) (st : MainState Proxy)
    (events : List (DiscoveryEvent Proxy path)) : Nat :=
  (sentEvents st (events.map DiscoveryEvent.input)).count
    { key := .uuid, str := uuidText devUuid }

/-- In each session a device that advertises is announced once. -/
def AnnouncedOnce (start : MainState Proxy) (events : List (DiscoveryEvent Proxy path)) :
    Prop :=
  ∀ before during, DiscoverySession events before during →
    ∀ devUuid, (∃ event ∈ during, event.IsOf devUuid) →
      announcements devUuid
        (start.afterEvents (before ++ [DiscoveryEvent.discovering true])) during = 1

/-! ## One event -/

/-- What handling an advertisement makes of the list, and whether it is announced. -/
theorem updateDeviceInfo_recorded (st : MainState Proxy) {controller : Proxy}
    {devices : List (MeshDevice Proxy)} (isDefault : st.defaultCtrl = some controller)
    (isList : st.ctrlList = [⟨controller, path, devices⟩]) (proxy : Proxy)
    (device : ProvDevice path) :
    let result := updateDeviceInfo st proxy device.properties
    result.nextState.crashed = st.crashed ∧
      result.nextState.defaultCtrl = some controller ∧
      result.nextState.discovering = st.discovering ∧
      result.nextState.ctrlList = [⟨controller, path,
        recordDevice devices proxy device.provData.devUuid st.discovering⟩] := by
  have isParent : st.findParent device.properties = some ⟨controller, path, devices⟩ := by
    simp [MainState.findParent, isList, deviceIsChild, device.isChild]
  have notUnknown : device.properties.address.isNone = false := by
    rw [← Option.not_isSome, device.hasAddress]
    rfl
  have set : ∀ changed, (st.setMeshDevices controller changed).ctrlList =
      [⟨controller, path, changed⟩] := by
    simp [MainState.setMeshDevices, isList]
  intro result
  simp only [result, updateDeviceInfo, isParent, isDefault, notUnknown, device.advertises,
    ne_eq, not_true_eq_false, if_false, Bool.false_eq_true, recordDevice]
  cases found : findDeviceByUuid devices device.provData.devUuid with
  | some dev => exact ⟨rfl, isDefault, rfl, set _⟩
  | none =>
      dsimp only
      rw [MainState.nodeCreateNew]
      split
      · exact ⟨rfl, isDefault, rfl, set _⟩
      · exact ⟨rfl, isDefault, rfl, set _⟩

theorem count_eventsOf (announced : Option Device) (printed : Option DeviceProperties)
    (uuid : String) :
    (eventsOf announced printed).count { key := .uuid, str := uuid } =
      if announced.map Device.uuid = some uuid then 1 else 0 := by
  cases announced <;> cases printed <;> simp [eventsOf, List.count_cons]

/-- Different UUIDs are written differently. -/
theorem uuidText_injective : Function.Injective uuidText := by
  intro first second same
  rw [← hexBytes_hexPairs first, ← hexBytes_hexPairs second, ← toList_uuidText, same,
    toList_uuidText]

section Step

variable {controller : Proxy} {seen : Seen} {st : MainState Proxy}
  (shows : Shows controller path seen st)
include shows

/-- Both kinds of announcements of D-Bus come to `update_device_info`. -/
theorem step_advertised (added : Bool) (proxy : Proxy) (device : ProvDevice path) :
    (mainModel Proxy).step st (DiscoveryEvent.advertised added proxy device).input =
      updateDeviceInfo (st.setProperties proxy (some device.properties)) proxy
        device.properties := by
  rcases shows.devices with ⟨devices, isList, _⟩
  cases added with
  | true => simp [mainModel, shows.running, DiscoveryEvent.input, handle]
  | false =>
      have isChild : (st.setProperties proxy (some device.properties)).defaultAdapter.any
          (deviceIsChild device.properties) = true := by
        simp [MainState.defaultAdapter, MainState.setProperties, shows.isDefault, isList,
          deviceIsChild, device.isChild]
      simp [mainModel, shows.running, DiscoveryEvent.input, handle, isChild]

/-- The list of devices follows what was seen. -/
theorem shows_step (event : DiscoveryEvent Proxy path) :
    Shows controller path (seen.next event)
      ((mainModel Proxy).step st event.input).nextState := by
  rcases shows.devices with ⟨devices, isList, flags⟩
  cases event with
  | discovering value =>
      simp only [mainModel, shows.running, Bool.false_eq_true, if_false,
        DiscoveryEvent.input, handle]
      exact ⟨rfl, shows.isDefault, rfl, devices, isList, flags⟩
  | advertised added proxy device =>
      rw [step_advertised shows]
      rcases updateDeviceInfo_recorded (st.setProperties proxy (some device.properties))
        shows.isDefault isList proxy device with ⟨running, isDefault, discovering, isNext⟩
      refine ⟨running.trans shows.running, isDefault, discovering.trans shows.discovering,
        _, isNext, fun devUuid => ?_⟩
      rw [hide_recordDevice]
      simp only [Seen.next, flags]
      rw [show (st.setProperties proxy (some device.properties)).discovering =
        seen.discovering from shows.discovering]

/-- A device is announced when it advertises while the controller discovers, unless it is
hidden. -/
theorem count_step (event : DiscoveryEvent Proxy path) (devUuid : List Byte) :
    ((mainModel Proxy).step st event.input).observation.count
        { key := .uuid, str := uuidText devUuid } =
      if event.IsOf devUuid ∧ seen.discovering = true ∧ seen.hidden devUuid = false
        then 1 else 0 := by
  rcases shows.devices with ⟨devices, isList, flags⟩
  cases event with
  | discovering value =>
      simp [mainModel, shows.running, DiscoveryEvent.input, handle, DiscoveryEvent.IsOf]
  | advertised added proxy device =>
      have isAdvertised : (st.setProperties proxy (some device.properties)).advertises
          device.properties = some
            { properties := device.properties, provData := device.provData
              known := findDeviceByUuid devices device.provData.devUuid
              discovering := st.discovering } := by
        simp [MainState.advertises, MainState.findParent, MainState.setProperties, isList,
          deviceIsChild, device.isChild, shows.isDefault, device.hasAddress,
          device.advertises]
      have notHidden : ∀ known : Option (MeshDevice Proxy),
          known.all (fun dev => !dev.hide) = !known.any MeshDevice.hide := by
        rintro (_ | dev) <;> rfl
      rw [step_advertised shows, updateDeviceInfo_events, isAdvertised, count_eventsOf,
        Option.filter_some]
      simp only [Advertisement.isAnnounced, notHidden, flags, shows.discovering]
      refine if_congr ?_ rfl rfl
      change _ ↔ device.provData.devUuid = devUuid ∧ _
      split
      · next announced =>
          rw [Bool.and_eq_true, Bool.not_eq_true'] at announced
          change some (uuidText device.provData.devUuid) = _ ↔ _
          rw [Option.some_inj, uuidText_injective.eq_iff]
          constructor
          · rintro rfl
            exact ⟨rfl, announced⟩
          · exact And.left
      · next notAnnounced =>
          refine iff_of_false (Option.some_ne_none _).symm fun announced => ?_
          rw [announced.1, announced.2.1, announced.2.2] at notAnnounced
          exact notAnnounced rfl

end Step

/-! ## Runs -/

section Run

variable {controller : Proxy}

theorem shows_afterEvents {seen : Seen} {st : MainState Proxy}
    (shows : Shows controller path seen st) (events : List (DiscoveryEvent Proxy path)) :
    Shows controller path (seen.after events) (st.afterEvents events) := by
  induction events generalizing seen st with
  | nil => exact shows
  | cons event events induction => exact induction (shows_step shows event)

theorem announcements_cons (devUuid : List Byte) (st : MainState Proxy)
    (event : DiscoveryEvent Proxy path) (events : List (DiscoveryEvent Proxy path)) :
    announcements devUuid st (event :: events) =
      ((mainModel Proxy).step st event.input).observation.count
          { key := .uuid, str := uuidText devUuid } +
        announcements devUuid ((mainModel Proxy).step st event.input).nextState events := by
  rw [announcements, announcements, ← List.count_append]
  rfl

/-- While the controller discovers, the first advertisement of a device that is not hidden
is announced, and hides it. -/
theorem announcements_during {seen : Seen} {st : MainState Proxy}
    (shows : Shows controller path seen st) (isOn : seen.discovering = true)
    {during : List (DiscoveryEvent Proxy path)}
    (stays : ∀ event ∈ during, event ≠ .discovering false) (devUuid : List Byte) :
    announcements devUuid st during =
      if (∃ event ∈ during, event.IsOf devUuid) ∧ seen.hidden devUuid = false
        then 1 else 0 := by
  induction during generalizing seen st with
  | nil => simp [announcements, sentEvents]
  | cons event during induction =>
      rw [List.forall_mem_cons] at stays
      rw [announcements_cons, count_step shows]
      have next := shows_step shows event
      cases event with
      | discovering value =>
          have isTrue : value = true := by
            cases value with
            | true => rfl
            | false => exact absurd rfl stays.1
          rw [induction next isTrue stays.2]
          simp only [DiscoveryEvent.isOf_discovering, false_and, if_false, Nat.zero_add]
          exact if_congr (by simp [Seen.next]) rfl rfl
      | advertised added proxy device =>
          rw [induction next isOn stays.2]
          by_cases same : device.provData.devUuid = devUuid
          · simp [Seen.next, same, isOn]
          · have others : ¬devUuid = device.provData.devUuid := fun equal => same equal.symm
            simp [Seen.next, same, Function.update_of_ne others]

/-- Each session announces what advertises in it exactly when nothing of it was seen last
while the controller discovered before. -/
theorem announced_once_iff (nodes : List ProvNode) (controller : Proxy)
    (events : List (DiscoveryEvent Proxy path)) :
    AnnouncedOnce (MainState.withController nodes controller path) events ↔
      SeenBetween events := by
  refine forall₂_congr fun before during => forall_congr' fun session =>
    forall₂_congr fun devUuid advertised => ?_
  have shows := shows_afterEvents (shows_withController nodes controller path)
    (before ++ [DiscoveryEvent.discovering true])
  have isOn : (Seen.start.after
      (before ++ [DiscoveryEvent.discovering true])).discovering = true := by
    rw [Seen.after, List.foldl_append]
    rfl
  have same : (Seen.start.after (before ++ [DiscoveryEvent.discovering true])).hidden =
      (Seen.start.after before).hidden := by
    rw [Seen.after, List.foldl_append]
    rfl
  rw [announcements_during shows isOn session.stays]
  simp [same, advertised]

end Run

end Runs

/-! ### Two sessions -/

/-- The lamp of the first controller. -/
def lampDevice : ProvDevice "/org/bluez/hci0" where
  properties := lamp
  provData := { devUuid := List.replicate 16 0, oob := 0 }
  isChild := rfl
  hasAddress := rfl
  advertises := rfl

/-- The lamp advertises in one session and again in the next one. -/
def lampSessions : List (DiscoveryEvent Nat "/org/bluez/hci0") :=
  [.discovering true, .advertised true 1 lampDevice, .discovering false,
    .discovering true, .advertised false 1 lampDevice]

theorem not_always_announced_once :
    ¬∀ (nodes : List ProvNode) (controller : Nat) (path : String)
      (events : List (DiscoveryEvent Nat path)),
        AnnouncedOnce (MainState.withController nodes controller path) events := by
  intro always
  have once := always [] 0 _ lampSessions (lampSessions.take 3) (lampSessions.drop 4)
    ⟨rfl, by simp [lampSessions], Or.inl rfl⟩ (List.replicate 16 0)
    ⟨_, List.mem_singleton_self _, rfl⟩
  exact absurd once (by decide)

end Meshctl.Gui
