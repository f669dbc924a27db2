import Meshctl.Client.ConnectionChanges

/-! # Connections are asked for

Each call of `Connect` answers one request, and goes to a device that advertises
what was asked for.
-/

namespace Meshctl.Client

open Execution

/-! ## Counting -/

def Action.isConnect : Action → Bool
  | .called .connect _ => true
  | _ => false

/-- How often `Connect` was called. -/
def ClientState.connects (st : ClientState) : Nat :=
  st.actions.countP Action.isConnect

/-- The input asks for a connection: a search is begun by the user or after a
provisioning, or a device is to be provisioned. -/
def begins (st : ClientState) : Input → Bool
  | .connect args => st.defaultCtrl.isSome && args.valid
  | .startProv _ _ => true
  | .reply index (.success _) =>
      match st.pending[index]? with
      | some (.disconnect (some (.provDisconnReply _))) => true
      | _ => false
  | _ => false

/-- A device is found that advertises what is searched for. -/
structure Finds (bus : Bus) (st : ClientState) (input : Input) (proxy : Nat)
    (data : List Byte) : Prop where
  announced : input = .proxyAdded proxy ∨
    input = .propertyChanged proxy .serviceData
  advertised : .meshProxy data ∈ (bus.properties proxy).serviceData
  wanted : parseMeshServiceData bus st data = true

/-- `Connect` is not called, and no search begun. -/
structure Unasked (st after : ClientState) : Prop where
  connects : after.connects = st.connects
  searching : after.discoverMesh = true → st.discoverMesh = true

/-- What a step may do about connecting. -/
inductive ConnectStep (bus : Bus) (st : ClientState) (input : Input)
    (after : ClientState) : Prop where
  | unasked (unasked : Unasked st after)
  | searched (begun : begins st input = true)
      (connects : after.connects = st.connects)
  | provisioned (begun : begins st input = true)
      (isProvision : ∃ devUuid found, input = .startProv devUuid found)
      (connects : after.connects = st.connects + 1)
      (searching : after.discoverMesh = true → st.discoverMesh = true)
  | found {proxy : Nat} {data : List Byte} (finds : Finds bus st input proxy data)
      (searching : st.discoverMesh = true)
      (connects : after.connects ≤ st.connects + 1)
      (done : after.discoverMesh = false)

section Steps

variable {st after : ClientState}

theorem connects_concat {action : Action} (notConnect : action.isConnect = false)
    (actions : after.actions = st.actions ++ [action]) :
    after.connects = st.connects := by
  rw [ClientState.connects, actions, List.countP_append, List.countP_singleton,
    notConnect]
  rfl

theorem Unasked.same (actions : after.actions = st.actions)
    (searching : after.discoverMesh = st.discoverMesh) : Unasked st after :=
  ⟨congrArg (List.countP Action.isConnect) actions,
    fun still => searching.symm.trans still⟩

theorem Unasked.concat {action : Action} (notConnect : action.isConnect = false)
    (actions : after.actions = st.actions ++ [action])
    (searching : after.discoverMesh = st.discoverMesh) : Unasked st after :=
  ⟨connects_concat notConnect actions, fun still => searching.symm.trans still⟩

theorem Unasked.trans {before : ClientState} (first : Unasked st before)
    (second : Unasked before after) : Unasked st after :=
  ⟨second.connects.trans first.connects,
    fun still => first.searching (second.searching still)⟩

theorem Asks.unasked {Awaits : Pending → Prop} (asks : Asks Awaits st after) :
    Unasked st after := by
  cases asks with
  | nothing => exact .same rfl rfl
  | pipe => exact .same rfl rfl
  | @call method proxy reply notConnect awaits =>
      refine .concat ?_ rfl rfl
      cases method with
      | connect => exact absurd rfl notConnect
      | _ => rfl
  | @both method proxy reply notConnect awaits =>
      refine .concat ?_ rfl rfl
      cases method with
      | connect => exact absurd rfl notConnect
      | _ => rfl

variable (bus : Bus) (st)

theorem disconnectDevice_unasked (cb : Option DisconnectCb) :
    Unasked st (disconnectDevice bus st cb) := by
  have closed : Unasked st (st.closeSession st.connection.dataIn) :=
    .concat rfl rfl rfl
  exact closed.trans (disconnectDevice_asks st bus cb).unasked

theorem notifyProvOutCb_unasked (ok : Bool) (node : Option Nat) :
    Unasked st (notifyProvOutCb bus st ok node) := by
  rw [notifyProvOutCb]
  split
  · exact .same rfl rfl
  · split
    · exact .same rfl rfl
    · cases st.connection.dataIn with
      | none => exact .same rfl rfl
      | some dataIn =>
          cases node with
          | none => exact .same rfl rfl
          | some node =>
              dsimp only
              split
              · exact .same rfl rfl
              · have opened : Unasked st (st.act (.provOpened node dataIn)) :=
                  .concat rfl rfl rfl
                split
                · exact opened
                · have freed : Unasked (st.act (.provOpened node dataIn))
                      ((st.act (.provOpened node dataIn)).nodeFree node) :=
                    .same rfl rfl
                  exact opened.trans
                    (freed.trans (disconnectDevice_unasked _ bus none))

theorem notifyProxyOutCb_unasked (ok : Bool) :
    Unasked st (notifyProxyOutCb st ok) := by
  rw [notifyProxyOutCb]
  split
  · exact .same rfl rfl
  · split
    · exact .same rfl rfl
    · cases st.connection.dataIn with
      | none => exact .same rfl rfl
      | some dataIn => exact .concat rfl rfl rfl

theorem runNotifyCb_unasked (ok : Bool) (data : NotifyData) :
    Unasked st (runNotifyCb bus st ok data) := by
  rw [runNotifyCb]
  cases data.cb with
  | none => exact .same rfl rfl
  | some cb =>
      cases cb with
      | notifyProvOut => exact notifyProvOutCb_unasked st bus ok data.node
      | notifyProxyOut => exact notifyProxyOutCb_unasked st ok
      | discNotify cb => exact (disconnect_asks st bus cb).unasked

theorem startNotify_unasked (data : NotifyData) :
    Unasked st (startNotify bus st data) := by
  rw [startNotify]
  split
  · exact .concat rfl rfl rfl
  · exact .same rfl rfl

theorem acquireNotifyReply_unasked (reply : Reply) (data : NotifyData) :
    Unasked st (acquireNotifyReply bus st reply data) := by
  cases reply with
  | error => exact startNotify_unasked st bus data
  | success pipe =>
      cases pipe with
      | false =>
          have noPipe : Unasked st { st with notifyIo := none } := .same rfl rfl
          exact noPipe.trans (startNotify_unasked _ bus data)
      | true =>
          rw [acquireNotifyReply]
          cases (bus.properties data.proxy).uuid with
          | none =>
              have noPipe : Unasked st { st with notifyIo := none } :=
                .same rfl rfl
              exact noPipe.trans (runNotifyCb_unasked _ bus true data)
          | some uuid =>
              dsimp only
              generalize isPiped :
                ({ st with notifyIo := some _ } : ClientState) = piped
              have same : piped.actions = st.actions ∧
                  piped.discoverMesh = st.discoverMesh := by
                rw [← isPiped]
                exact ⟨rfl, rfl⟩
              exact (Unasked.same same.1 same.2).trans
                (runNotifyCb_unasked piped bus true data)

theorem findSessionChars_unasked (device : Option Nat) (dataIn dataOut : Uuid)
    (cb : NotifyCb) :
    Unasked st (findSessionChars bus st device dataIn dataOut cb) := by
  rw [findSessionChars]
  dsimp only
  split
  · exact .same rfl rfl
  · generalize isNext : ClientState.setConnection _ _ = next
    have same : Unasked st next := by
      rw [← isNext]
      exact .same rfl rfl
    cases next.connection.dataOut with
    | none => exact same
    | some dataOut =>
        exact same.trans (dataOutNotify_asks next bus dataOut cb).unasked

theorem meshSessionSetup_unasked (device : Option Nat) :
    Unasked st (meshSessionSetup bus st device) := by
  rw [meshSessionSetup]
  split
  · exact findSessionChars_unasked st bus device _ _ _
  · split
    · exact findSessionChars_unasked st bus device _ _ _
    · exact .same rfl rfl

theorem processMeshCharacteristic_unasked (proxy : Nat) :
    Unasked st (processMeshCharacteristic bus st proxy) := by
  rw [processMeshCharacteristic]
  dsimp only
  cases (bus.properties proxy).uuid with
  | none => exact .same rfl rfl
  | some uuid =>
      dsimp only
      cases (bus.properties proxy).value with
      | none => exact .same rfl rfl
      | some value =>
          dsimp only
          split
          · split
            · exact .same rfl rfl
            · split
              · exact .same rfl rfl
              · split
                · exact .same rfl rfl
                · split
                  · split
                    · exact .same rfl rfl
                    · exact .concat rfl rfl rfl
                  · exact .concat rfl rfl rfl
          · exact .same rfl rfl

theorem pipeRead_unasked (data : List Byte) : Unasked st (pipeRead st data) := by
  rw [pipeRead]
  cases st.notifyIo with
  | none => exact .same rfl rfl
  | some io =>
      dsimp only
      cases io.prov with
      | none => exact .same rfl rfl
      | some prov =>
          dsimp only
          split
          · exact .same rfl rfl
          · split
            · exact .same rfl rfl
            · split
              · exact .concat rfl rfl rfl
              · exact .concat rfl rfl rfl

theorem networkDone_unasked (env : Net.NetEnv) (input : Net.NetInput) :
    Unasked st (networkDone st input env) := by
  rw [networkDone]
  split
  · rw [sessionOpenCb]
    split
    · exact .concat rfl rfl rfl
    · exact .same rfl rfl
  · exact .same rfl rfl

theorem stopService_unasked (proxy : Nat) :
    Unasked st (stopService bus st proxy) := by
  rw [stopService]
  split
  · cases st.connection.dataOut with
    | none => exact .same rfl rfl
    | some dataOut =>
        have notified : Unasked st (dataOutNotify bus st dataOut false none) := by
          rw [dataOutNotify, meshGattNotify, if_neg (by exact Bool.false_ne_true)]
          split
          · exact .same rfl rfl
          · split
            · exact .concat rfl rfl rfl
            · exact .same rfl rfl
        exact notified.trans (.concat rfl rfl rfl)
  · exact .same rfl rfl

theorem proxyRemoved_unasked (proxy : Nat) :
    Unasked st (proxyRemoved bus st proxy) := by
  rw [proxyRemoved]
  cases bus.interface proxy with
  | device =>
      dsimp only
      rw [deviceRemoved]
      split
      · exact .same rfl rfl
      · split
        · exact .same rfl rfl
        · exact .same rfl rfl
  | adapter =>
      dsimp only
      rw [adapterRemoved]
      split
      · exact .same rfl rfl
      · dsimp only
        split
        · exact .same rfl rfl
        · exact .same rfl rfl
  | gattService =>
      dsimp only
      rw [serviceRemoved]
      dsimp only
      split
      · exact (stopService_unasked st bus proxy).trans (.same rfl rfl)
      · exact .same rfl rfl
  | gattCharacteristic => exact .same rfl rfl
  | other => exact .same rfl rfl

/-- An entry of the service data that is taken for the wanted proxy. -/
theorem exists_wanted {entries : List ServiceData}
    (isWanted : Gui.parseMeshProxy (entries.map (serviceEntry bus st)) = true) :
    ∃ data, .meshProxy data ∈ entries ∧
      parseMeshServiceData bus st data = true := by
  induction entries with
  | nil => cases isWanted
  | cons entry entries induction =>
      cases entry with
      | malformed => cases isWanted
      | provisioning data =>
          rcases induction isWanted with ⟨found, member, wanted⟩
          exact ⟨found, List.mem_cons_of_mem _ member, wanted⟩
      | meshProxy data => exact ⟨data, List.mem_cons_self, isWanted⟩
      | other =>
          rcases induction isWanted with ⟨found, member, wanted⟩
          exact ⟨found, List.mem_cons_of_mem _ member, wanted⟩

theorem connects_call (proxy : Nat) :
    (st.call .connect proxy (.connect proxy)).connects = st.connects + 1 := by
  rw [ClientState.connects, ClientState.connects]
  change (st.actions ++ [Action.called .connect proxy]).countP _ = _
  rw [List.countP_append]
  rfl

theorem updateDeviceInfo_connects {input : Input} (proxy : Nat)
    (announced : input = .proxyAdded proxy ∨
      input = .propertyChanged proxy .serviceData) :
    ConnectStep bus st input (updateDeviceInfo bus st proxy) := by
  have same : ConnectStep bus st input st := .unasked (.same rfl rfl)
  rw [updateDeviceInfo]
  dsimp only
  cases findParent bus st proxy with
  | none => exact same
  | some adapter =>
      dsimp only
      split
      · exact same
      · split
        · exact same
        · split
          · exact same
          · split
            next found =>
              rw [Bool.and_eq_true] at found
              rcases exists_wanted st bus found.1 with ⟨data, member, wanted⟩
              have finds : Finds bus st input proxy data :=
                ⟨announced, member, wanted⟩
              split
              · exact .found finds found.2
                  (Nat.le_of_eq (connects_call { st with discoverMesh := false }
                    proxy)) rfl
              · exact .found finds found.2 (Nat.le_succ _) rfl
            next => exact same

theorem deviceChanged_connects {proxy : Nat} (change : PropertyChange) :
    ConnectStep bus st (.propertyChanged proxy change)
      (deviceChanged bus st proxy change) := by
  cases change with
  | connected connected =>
      apply ConnectStep.unasked
      cases connected with
      | true =>
          rw [deviceChanged]
          split
          · exact .same rfl rfl
          · exact .same rfl rfl
      | false =>
          rw [deviceChanged]
          split
          · exact .concat rfl rfl rfl
          · exact .same rfl rfl
  | aliasName =>
      apply ConnectStep.unasked
      rw [deviceChanged]
      split
      · exact .same rfl rfl
      · exact .same rfl rfl
  | serviceData => exact updateDeviceInfo_connects st bus proxy (Or.inr rfl)
  | servicesResolved resolved =>
      cases resolved with
      | true => exact .unasked (meshSessionSetup_unasked st bus _)
      | false => exact .unasked (.same rfl rfl)
  | discovering => exact .unasked (.same rfl rfl)
  | value => exact .unasked (.same rfl rfl)
  | other => exact .unasked (.same rfl rfl)

theorem propertyChanged_connects (proxy : Nat) (change : PropertyChange) :
    ConnectStep bus st (.propertyChanged proxy change)
      (propertyChanged bus st proxy change) := by
  rw [propertyChanged]
  cases bus.interface proxy with
  | device =>
      dsimp only
      split
      · exact deviceChanged_connects st bus change
      · exact .unasked (.same rfl rfl)
  | adapter =>
      cases change with
      | discovering => exact .unasked (.same rfl rfl)
      | _ => exact .unasked (.same rfl rfl)
  | gattCharacteristic =>
      cases change with
      | value =>
          dsimp only
          rw [characteristicChanged]
          split
          · exact .unasked (processMeshCharacteristic_unasked st bus proxy)
          · exact .unasked (.same rfl rfl)
      | _ => exact .unasked (.same rfl rfl)
  | gattService => exact .unasked (.same rfl rfl)
  | other => exact .unasked (.same rfl rfl)

theorem replyReceived_connects (index : Nat) (reply : Reply) :
    ConnectStep bus st (.reply index reply) (replyReceived bus st index reply) := by
  rw [replyReceived]
  cases isPending : st.pending[index]? with
  | none => exact .unasked (.same rfl rfl)
  | some pending =>
      dsimp only
      have dropped : Unasked st
          { st with pending := st.pending.eraseIdx index } := .same rfl rfl
      generalize isNext :
        ({ st with pending := _ } : ClientState) = next at dropped
      have connects : next.connects = st.connects := dropped.connects
      cases pending with
      | connect proxy =>
          cases reply with
          | error => exact .unasked (dropped.trans (.same rfl rfl))
          | success pipe => exact .unasked (dropped.trans (.same rfl rfl))
      | acquireNotify data =>
          exact .unasked (dropped.trans
            (acquireNotifyReply_unasked next bus reply data))
      | notify data =>
          exact .unasked (dropped.trans
            (runNotifyCb_unasked next bus reply.ok data))
      | disconnect cb =>
          cases cb with
          | none => exact .unasked dropped
          | some cb =>
              cases cb with
              | disconnReply device =>
                  apply ConnectStep.unasked
                  refine dropped.trans ?_
                  change Unasked next (disconnReply next reply.ok device)
                  rw [disconnReply]
                  split
                  · exact .same rfl rfl
                  · split
                    · exact .same rfl rfl
                    · exact .same rfl rfl
              | provDisconnReply node =>
                  cases reply with
                  | error => exact .unasked dropped
                  | success pipe =>
                      refine .searched ?_ ?_
                      · rw [begins, isPending]
                      · change (provDisconnReply next true node).connects = _
                        rw [provDisconnReply, Bool.not_true,
                          if_neg Bool.false_ne_true]
                        dsimp only
                        split
                        · exact connects
                        · exact connects

theorem cmdStartProv_connects (devUuid : List Byte) (found : Option Nat) :
    ConnectStep bus st (.startProv devUuid found)
      (cmdStartProv bus st devUuid found) := by
  have disconnected := disconnectDevice_unasked st bus none
  rw [cmdStartProv]
  generalize disconnectDevice bus st none = next at disconnected
  have same : ∀ after : ClientState, after.actions = next.actions →
      after.discoverMesh = next.discoverMesh →
        ConnectStep bus st (.startProv devUuid found) after :=
    fun after actions searching =>
      .unasked (disconnected.trans (.same actions searching))
  unfold startProv
  dsimp only
  split
  · exact same _ rfl rfl
  · split
    · exact same _ rfl rfl
    · split
      · exact same _ rfl rfl
      · cases found with
        | none => exact same _ rfl rfl
        | some proxy =>
            dsimp only
            split
            · refine .provisioned rfl ⟨_, _, rfl⟩ ?_ disconnected.searching
              rw [← disconnected.connects]
              exact connects_call (next.setConnection _) proxy
            · exact same _ rfl rfl

/-- What any input does about connecting. -/
theorem handle_connects (input : Input) :
    ConnectStep bus st input (handle bus st input) := by
  cases input with
  | connect args =>
      rw [handle, cmdConnect]
      cases controller : st.defaultCtrl with
      | none => exact .unasked (.same rfl rfl)
      | some adapter =>
          rw [Option.isNone_some, if_neg Bool.false_ne_true]
          dsimp only
          split
          next valid =>
            refine .searched ?_ rfl
            rw [begins, controller, valid]
            rfl
          next => exact .unasked (.same rfl rfl)
  | disconn =>
      apply ConnectStep.unasked
      rw [handle, cmdDisconn]
      split
      · split
        · exact disconnectDevice_unasked st bus _
        next node _ =>
          have freed : Unasked st (st.nodeFree node) := .same rfl rfl
          exact freed.trans (disconnectDevice_unasked _ bus _)
      · exact disconnectDevice_unasked st bus _
  | scanUnprovisioned enable =>
      apply ConnectStep.unasked
      rw [handle, cmdScanUnprovisioned]
      split
      · exact .same rfl rfl
      · split
        · exact ⟨rfl, fun still => by cases still⟩
        · exact .same rfl rfl
  | startProv devUuid found => exact cmdStartProv_connects st bus devUuid found
  | provDone node assigned =>
      apply ConnectStep.unasked
      rw [handle]
      unfold meshProvDone
      split
      · exact .same rfl rfl
      · cases assigned with
        | none =>
            have freed : Unasked st (st.nodeFree node) := .same rfl rfl
            exact freed.trans (disconnectDevice_unasked _ bus none)
        | some addr =>
            dsimp only
            generalize isAssigned :
              ({ st with nodes := _ } : ClientState) = next
            have same : Unasked st next := by
              rw [← isAssigned]
              exact .same rfl rfl
            exact same.trans (disconnectDevice_unasked _ bus _)
  | proxyAdded proxy =>
      rw [handle, proxyAdded]
      split
      · exact updateDeviceInfo_connects st bus proxy (Or.inl rfl)
      · exact .unasked (.same rfl rfl)
      · split
        · exact .unasked (.same rfl rfl)
        · exact .unasked (.same rfl rfl)
      · split
        · exact .unasked (.same rfl rfl)
        · exact .unasked (.same rfl rfl)
      · exact .unasked (.same rfl rfl)
  | proxyRemoved proxy => exact .unasked (proxyRemoved_unasked st bus proxy)
  | propertyChanged proxy change => exact propertyChanged_connects st bus proxy change
  | reply index reply => exact replyReceived_connects st bus index reply
  | pipeRead data => exact .unasked (pipeRead_unasked st data)
  | pipeHup => exact .unasked (.same rfl rfl)
  | busLost => exact .unasked (.same rfl rfl)
  | network env input own => exact .unasked (networkDone_unasked st env input)
  | nodeAdded devUuid primary => exact .unasked (.same rfl rfl)
  | nodeFreed node => exact .unasked (.same rfl rfl)

end Steps

/-! ## Runs -/

abbrev ClientEntry := Entry ClientState (Bus × Input) Unit

def ClientEntry.asks (entry : ClientEntry) : Bool :=
  !entry.before.crashed && begins entry.before entry.input.2

/-- A search that goes on may still lead to a call. -/
def ClientState.budget (st : ClientState) : Nat :=
  st.connects + st.discoverMesh.toNat

/-- The step lemma: only what is asked for adds to the budget. -/
theorem budget_step (st : ClientState) (input : Bus × Input) :
    (clientModel.step st input).nextState.budget ≤
      st.budget + (ClientEntry.asks (clientModel.entry st input)).toNat := by
  rw [ClientEntry.asks, Model.entry_before, Model.entry_input, clientModel]
  dsimp only
  cases isCrashed : st.crashed with
  | true => exact Nat.le_add_right _ _
  | false =>
      rw [if_neg Bool.false_ne_true, Bool.not_false, Bool.true_and]
      generalize isAfter : handle input.1 st input.2 = after
      have step := handle_connects st input.1 input.2
      rw [isAfter] at step
      have bit : ∀ value : Bool, value.toNat ≤ 1 := Bool.toNat_le
      have before := bit st.discoverMesh
      have next := bit after.discoverMesh
      rw [ClientState.budget, ClientState.budget]
      have kept : (after.discoverMesh = true → st.discoverMesh = true) →
          after.discoverMesh.toNat ≤ st.discoverMesh.toNat := by
        intro still
        cases isNext : after.discoverMesh with
        | false => exact Nat.zero_le _
        | true => rw [still isNext]
      cases step with
      | unasked unasked =>
          have searching := kept unasked.searching
          have connects := unasked.connects
          omega
      | searched begun connects =>
          rw [begun, Bool.toNat_true]
          omega
      | provisioned begun isProvision connects searching =>
          have searching := kept searching
          rw [begun, Bool.toNat_true]
          omega
      | found finds searching connects done =>
          rw [searching, done, Bool.toNat_true, Bool.toNat_false]
          omega

/-- The run lemma. -/
theorem budget_run (st : ClientState) (inputs : List (Bus × Input)) :
    (clientModel.finalState st inputs).budget ≤
      st.budget + (clientModel.trace st inputs).countP ClientEntry.asks := by
  induction inputs generalizing st with
  | nil => exact Nat.le_refl _
  | cons input inputs induction =>
      have first := budget_step st input
      have rest := induction (clientModel.step st input).nextState
      rw [Model.finalState_cons, Model.trace_cons, List.countP_cons]
      have isBit : (if ClientEntry.asks (clientModel.entry st input) = true then 1
          else 0) = (ClientEntry.asks (clientModel.entry st input)).toNat := by
        cases ClientEntry.asks (clientModel.entry st input) with
        | true => rfl
        | false => rfl
      rw [isBit]
      omega

end Meshctl.Client
