import Meshctl.Client.ConnectionChanges
import Meshctl.Net.BeaconSafety

/-! # Which session the connection has

The network layer writes its packets to the characteristic that the session was
opened with. That should be the one of the connection.
-/

namespace Meshctl.Client

open Execution

/-! ## The network layer by itself -/

section Network

variable {env : Net.NetEnv} {st : Net.NetState}

theorem proxyIn_of_run {Fresh : Net.MeshSarMsg → Prop} {after : Net.NetState}
    (run : Net.TxRun Fresh st after) : after.proxyIn = st.proxyIn := by
  rcases run.frame with ⟨_, _, _, _, _, _, _, _, equal⟩
  rw [equal]

/-- Only sessions touch the characteristic that is written to. -/
theorem netStep_proxyIn (input : Net.NetInput) (own : isSession input = false) :
    (Net.netStep env st input).nextState.proxyIn = st.proxyIn := by
  cases input with
  | beacon data size =>
      rcases @Net.processBeacon_cases env data size st with
        same | ⟨_, _, windows, passed, sent⟩
      · exact congrArg Net.NetState.proxyIn same
      · rcases Net.enforceWindows_eq passed with ⟨ivUpdState, isWindows⟩
        rcases Net.takeOver_eq (Net.recognizedIvUpdate data st)
          (Net.beaconIvIndex data) windows with ⟨_, _, taken⟩
        refine (proxyIn_of_run sent).trans ?_
        rw [taken, isWindows]
  | accessSend ttl src dst appIdx buf len =>
      rcases @Net.netAccessLayerSend_cases env ttl src dst appIdx buf len st with
        same | ⟨_, _, _, _, _, _, _, sent⟩
      · exact congrArg Net.NetState.proxyIn same
      · refine (congrArg Net.NetState.proxyIn sent).trans ?_
        rcases @Net.sendAccessRecord_cases env (fun _ => True) _ trivial st with
          ⟨_, after, run, same⟩ | ⟨_, run⟩
        · have kept := proxyIn_of_run run
          rw [same]
          exact kept
        · exact proxyIn_of_run run
  | ctlSend ttl src dst buf len =>
      exact proxyIn_of_run (Net.netCtlMsgSend_run _ _ _ _ _ _)
  | ack src dst obo seq0 ackFlags =>
      change (Net.ackRxed env src dst obo seq0 ackFlags st).2.proxyIn = _
      rcases @Net.ackRxed_cases env src dst obo seq0 ackFlags st with
        ⟨_, same⟩ | ⟨sar, _, ⟨_, flushed⟩ | ⟨_, sent⟩⟩
      · rw [same]
      · rw [flushed]
        rfl
      · have kept := proxyIn_of_run sent
        exact kept
  | ackTimeout dst =>
      rcases @Net.sarOutAckTimeout_cases env dst st with same | ⟨sar, _, sent⟩
      · exact congrArg Net.NetState.proxyIn same
      · have kept := proxyIn_of_run sent
        exact kept
  | msgTimeout dst => rfl
  | writeReply index success =>
      exact proxyIn_of_run (Net.acquireWriteReply_run index success st)
  | sessionOpen => cases own
  | sessionClose => cases own

end Network

/-! ## What a step does to the session -/

/-- The input has the connection forget its characteristic, or take one that it
finds, while the session is not closed. -/
inductive Forgets (bus : Bus) (st : ClientState) : Input → Option Nat → Prop
    where
  | connect {args : ConnectArgs} (controller : st.defaultCtrl.isNone = false) :
      Forgets bus st (.connect args) none
  | deviceRemoved {proxy : Nat} (interface : bus.interface proxy = .device)
      (known : (findParent bus st proxy).isNone = false)
      (connected : st.connection.device = some proxy) :
      Forgets bus st (.proxyRemoved proxy) none
  | adapterRemoved {proxy : Nat} (interface : bus.interface proxy = .adapter)
      (known : st.ctrlList.contains proxy = true)
      (default : st.defaultCtrl = some proxy) :
      Forgets bus st (.proxyRemoved proxy) none
  | connectFailed {index proxy : Nat}
      (pending : st.pending[index]? = some (.connect proxy)) :
      Forgets bus st (.reply index .error) none
  | disconnected {index : Nat} {pipe : Bool}
      (pending : st.pending[index]? =
        some (.disconnect (some (.disconnReply st.connection.device)))) :
      Forgets bus st (.reply index (.success pipe)) none
  | provDisconnected {index node : Nat} {pipe : Bool}
      (pending : st.pending[index]? =
        some (.disconnect (some (.provDisconnReply node)))) :
      Forgets bus st (.reply index (.success pipe)) none
  | setup {proxy : Nat} (interface : bus.interface proxy = .device)
      (child : st.defaultCtrl.any (deviceIsChild bus proxy) = true)
      (looking : st.connection.type ≠ connTypeInvalid) :
      Forgets bus st (.propertyChanged proxy (.servicesResolved true))
        (getCharacteristic bus st st.connection.device
          (if st.connection.type = connTypeProvision then .meshProvDataIn
            else .meshProxyDataIn))

/-- The session stays, is closed, or is opened with the characteristic of the
connection. -/
inductive Tidy (st after : ClientState) : Prop where
  | kept (proxyIn : after.net.proxyIn = st.net.proxyIn)
      (dataIn : after.connection.dataIn = st.connection.dataIn)
  | closed (proxyIn : after.net.proxyIn =
        if st.net.proxyIn = st.connection.dataIn then none
        else st.net.proxyIn)
      (dataIn : after.connection.dataIn = st.connection.dataIn ∨
        after.connection.dataIn = none)
  | opened (idle : st.net.proxyIn = none)
      (proxyIn : after.net.proxyIn = st.connection.dataIn)
      (dataIn : after.connection.dataIn = st.connection.dataIn)

/-- The session after a step that forgets a characteristic. -/
structure Forgotten (st after : ClientState) (dataIn : Option Nat) : Prop where
  proxyIn : after.net.proxyIn = st.net.proxyIn
  isDataIn : after.connection.dataIn = dataIn

/-! ## One handler at a time -/

section Steps

variable {bus : Bus} {st : ClientState}

theorem Tidy.same {after : ClientState} (net : after.net = st.net)
    (connection : after.connection = st.connection) : Tidy st after :=
  .kept (congrArg Net.NetState.proxyIn net)
    (congrArg Connection.dataIn connection)

theorem Tidy.asks {Awaits : Pending → Prop} {after : ClientState}
    (asks : Asks Awaits st after) : Tidy st after :=
  .same asks.net asks.connection

/-- It does not matter what else has changed before. -/
theorem Tidy.of_same {before after : ClientState} (tidy : Tidy before after)
    (net : before.net = st.net) (connection : before.connection = st.connection) :
    Tidy st after := by
  cases tidy with
  | kept proxyIn dataIn =>
      rw [net] at proxyIn
      rw [connection] at dataIn
      exact .kept proxyIn dataIn
  | closed proxyIn dataIn =>
      rw [net, connection] at proxyIn
      rw [connection] at dataIn
      exact .closed proxyIn dataIn
  | opened idle proxyIn dataIn =>
      rw [net] at idle
      rw [connection] at proxyIn dataIn
      exact .opened idle proxyIn dataIn

variable (bus st)

theorem disconnectDevice_tidy (cb : Option DisconnectCb) :
    Tidy st (disconnectDevice bus st cb) := by
  have asks := disconnectDevice_asks st bus cb
  refine .closed ?_ (Or.inl ?_)
  · rw [asks.net]
    rfl
  · rw [asks.connection]
    rfl

theorem updateDeviceInfo_tidy (proxy : Nat) :
    Tidy st (updateDeviceInfo bus st proxy) := by
  rw [updateDeviceInfo]
  dsimp only
  cases findParent bus st proxy with
  | none => exact .same rfl rfl
  | some adapter =>
      dsimp only
      split
      · exact .same rfl rfl
      · split
        · exact .same rfl rfl
        · split
          · exact .same rfl rfl
          · split
            · split
              · exact .same rfl rfl
              · exact .same rfl rfl
            · exact .same rfl rfl

theorem notifyProvOutCb_tidy (ok : Bool) (node : Option Nat) :
    Tidy st (notifyProvOutCb bus st ok node) := by
  rw [notifyProvOutCb]
  split
  · exact .same rfl rfl
  · split
    · exact .same rfl rfl
    · cases st.connection.dataIn with
      | none => exact .same rfl rfl
      | some dataIn =>
          cases node with
          | none => exact .same rfl rfl
          | some node =>
              dsimp only
              split
              · exact .same rfl rfl
              · split
                · exact .same rfl rfl
                · exact (disconnectDevice_tidy bus _ none).of_same rfl rfl

theorem notifyProxyOutCb_tidy (ok : Bool) : Tidy st (notifyProxyOutCb st ok) := by
  rw [notifyProxyOutCb]
  split
  · exact .same rfl rfl
  · split
    · exact .same rfl rfl
    · cases isDataIn : st.connection.dataIn with
      | none => exact .same rfl rfl
      | some dataIn =>
          dsimp only
          rw [Net.netSessionOpen]
          cases isProxyIn : st.net.proxyIn with
          | none => exact .opened isProxyIn isDataIn.symm rfl
          | some other => exact .kept rfl rfl

theorem runNotifyCb_tidy (ok : Bool) (data : NotifyData) :
    Tidy st (runNotifyCb bus st ok data) := by
  rw [runNotifyCb]
  cases data.cb with
  | none => exact .same rfl rfl
  | some cb =>
      cases cb with
      | notifyProvOut => exact notifyProvOutCb_tidy bus st ok data.node
      | notifyProxyOut => exact notifyProxyOutCb_tidy st ok
      | discNotify cb => exact .asks (disconnect_asks st bus cb)

theorem startNotify_tidy (data : NotifyData) :
    Tidy st (startNotify bus st data) := by
  rw [startNotify]
  split
  · exact .same rfl rfl
  · exact .same rfl rfl

theorem acquireNotifyReply_tidy (reply : Reply) (data : NotifyData) :
    Tidy st (acquireNotifyReply bus st reply data) := by
  cases reply with
  | error => exact startNotify_tidy bus st data
  | success pipe =>
      cases pipe with
      | false => exact (startNotify_tidy bus _ data).of_same rfl rfl
      | true =>
          rw [acquireNotifyReply]
          cases (bus.properties data.proxy).uuid with
          | none => exact (runNotifyCb_tidy bus _ true data).of_same rfl rfl
          | some uuid => exact (runNotifyCb_tidy bus _ true data).of_same rfl rfl

theorem processMeshCharacteristic_tidy (proxy : Nat) :
    Tidy st (processMeshCharacteristic bus st proxy) := by
  rw [processMeshCharacteristic]
  dsimp only
  cases (bus.properties proxy).uuid with
  | none => exact .same rfl rfl
  | some uuid =>
      dsimp only
      cases (bus.properties proxy).value with
      | none => exact .same rfl rfl
      | some value =>
          dsimp only
          split
          · split
            · exact .same rfl rfl
            · split
              · exact .same rfl rfl
              · split
                · exact .same rfl rfl
                · split
                  · split
                    · exact .same rfl rfl
                    · exact .same rfl rfl
                  · exact .same rfl rfl
          · exact .same rfl rfl

theorem pipeRead_tidy (data : List Byte) : Tidy st (pipeRead st data) := by
  rw [pipeRead]
  cases st.notifyIo with
  | none => exact .same rfl rfl
  | some io =>
      dsimp only
      cases io.prov with
      | none => exact .same rfl rfl
      | some prov =>
          dsimp only
          split
          · exact .same rfl rfl
          · split
            · exact .same rfl rfl
            · split
              · exact .same rfl rfl
              · exact .same rfl rfl

theorem networkDone_tidy (env : Net.NetEnv) (input : Net.NetInput)
    (own : isSession input = false) : Tidy st (networkDone st input env) := by
  have proxyIn := @netStep_proxyIn env st.net input own
  rw [networkDone]
  split
  · rw [sessionOpenCb]
    split
    · exact .kept proxyIn rfl
    · exact .kept proxyIn rfl
  · exact .kept proxyIn rfl

theorem findSessionChars_forgotten (device : Option Nat) (dataIn dataOut : Uuid)
    (cb : NotifyCb) :
    Forgotten st (findSessionChars bus st device dataIn dataOut cb)
      (getCharacteristic bus st device dataIn) := by
  rw [findSessionChars]
  dsimp only
  split
  · exact ⟨rfl, rfl⟩
  · generalize isNext : ClientState.setConnection _ _ = next
    have net : next.net = st.net := by rw [← isNext]; rfl
    have isDataIn : next.connection.dataIn =
        getCharacteristic bus st device dataIn := by rw [← isNext]; rfl
    cases next.connection.dataOut with
    | none => exact ⟨congrArg Net.NetState.proxyIn net, isDataIn⟩
    | some dataOut =>
        have asks := dataOutNotify_asks next bus dataOut cb
        exact ⟨congrArg Net.NetState.proxyIn (asks.net.trans net),
          (congrArg Connection.dataIn asks.connection).trans isDataIn⟩

/-- The handler does forget the characteristic, or takes another. -/
theorem Forgets.forgotten {input : Input} {dataIn : Option Nat}
    (forgets : Forgets bus st input dataIn) :
    Forgotten st (handle bus st input) dataIn := by
  cases forgets with
  | @connect args controller =>
      rw [handle, cmdConnect, controller, if_neg Bool.false_ne_true]
      cases args with
      | primary => exact ⟨rfl, rfl⟩
      | invalid => exact ⟨rfl, rfl⟩
      | network netIdx unicast => exact ⟨rfl, rfl⟩
  | deviceRemoved interface known connected =>
      rw [handle, proxyRemoved, interface, Client.deviceRemoved, known,
        if_neg Bool.false_ne_true, if_pos connected]
      exact ⟨rfl, rfl⟩
  | adapterRemoved interface known default =>
      rw [handle, proxyRemoved, interface, Client.adapterRemoved, known,
        Bool.not_true, if_neg Bool.false_ne_true, if_pos default]
      exact ⟨rfl, rfl⟩
  | connectFailed pending =>
      rw [handle, replyReceived, pending]
      exact ⟨rfl, rfl⟩
  | disconnected pending =>
      rw [handle, replyReceived, pending]
      dsimp only [replied, disconnectReply]
      rw [disconnReply, Reply.ok, Bool.not_true, if_neg Bool.false_ne_true,
        if_neg (not_not.mpr rfl)]
      exact ⟨rfl, rfl⟩
  | @provDisconnected index node pipe pending =>
      rw [handle, replyReceived, pending]
      dsimp only [replied, disconnectReply]
      rw [provDisconnReply, Reply.ok, Bool.not_true, if_neg Bool.false_ne_true]
      dsimp only
      split
      · exact ⟨rfl, rfl⟩
      · exact ⟨rfl, rfl⟩
  | setup interface child looking =>
      rw [handle, propertyChanged, interface]
      dsimp only
      rw [if_pos child]
      change Forgotten st (meshSessionSetup bus st st.connection.device) _
      rw [meshSessionSetup]
      by_cases provision : st.connection.type = connTypeProvision
      · rw [if_pos provision, if_pos provision]
        exact findSessionChars_forgotten bus st _ _ _ _
      · rw [if_neg provision, if_neg provision, if_pos looking]
        exact findSessionChars_forgotten bus st _ _ _ _

theorem deviceRemoved_session {proxy : Nat}
    (interface : bus.interface proxy = .device) :
    Tidy st (deviceRemoved bus st proxy) ∨
      ∃ dataIn, Forgets bus st (.proxyRemoved proxy) dataIn := by
  rw [deviceRemoved]
  cases known : (findParent bus st proxy).isNone with
  | true => exact Or.inl (.same rfl rfl)
  | false =>
      rw [if_neg Bool.false_ne_true]
      by_cases connected : st.connection.device = some proxy
      · exact Or.inr ⟨none, .deviceRemoved interface known connected⟩
      · rw [if_neg connected]
        exact Or.inl (.same rfl rfl)

theorem adapterRemoved_session {proxy : Nat}
    (interface : bus.interface proxy = .adapter) :
    Tidy st (adapterRemoved st proxy) ∨
      ∃ dataIn, Forgets bus st (.proxyRemoved proxy) dataIn := by
  rw [adapterRemoved]
  cases known : st.ctrlList.contains proxy with
  | false => exact Or.inl (.same rfl rfl)
  | true =>
      rw [Bool.not_true, if_neg Bool.false_ne_true]
      by_cases default : st.defaultCtrl = some proxy
      · exact Or.inr ⟨none, .adapterRemoved interface known default⟩
      · rw [if_neg default]
        exact Or.inl (.same rfl rfl)

theorem proxyRemoved_session (noService : st.connection.service = none)
    (proxy : Nat) :
    Tidy st (proxyRemoved bus st proxy) ∨
      ∃ dataIn, Forgets bus st (.proxyRemoved proxy) dataIn := by
  rw [proxyRemoved]
  cases interface : bus.interface proxy with
  | device => exact deviceRemoved_session bus st interface
  | adapter => exact adapterRemoved_session bus st interface
  | gattService =>
      dsimp only
      rw [serviceRemoved, noService, if_neg (by exact Option.some_ne_none proxy ∘ Eq.symm)]
      exact Or.inl (.same rfl rfl)
  | gattCharacteristic => exact Or.inl (.same rfl rfl)
  | other => exact Or.inl (.same rfl rfl)

theorem deviceChanged_session {proxy : Nat} (change : PropertyChange)
    (interface : bus.interface proxy = .device)
    (child : st.defaultCtrl.any (deviceIsChild bus proxy) = true) :
    Tidy st (deviceChanged bus st proxy change) ∨
      ∃ dataIn, Forgets bus st (.propertyChanged proxy change) dataIn := by
  cases change with
  | connected connected =>
      left
      cases connected with
      | true =>
          rw [deviceChanged]
          split
          · exact .kept rfl rfl
          · exact .same rfl rfl
      | false =>
          rw [deviceChanged]
          split
          · exact .closed rfl (Or.inr rfl)
          · exact .same rfl rfl
  | aliasName =>
      left
      rw [deviceChanged]
      split
      · exact .kept rfl rfl
      · exact .same rfl rfl
  | serviceData => exact Or.inl (updateDeviceInfo_tidy bus st proxy)
  | servicesResolved resolved =>
      cases resolved with
      | false => exact Or.inl (.same rfl rfl)
      | true =>
          by_cases looking : st.connection.type = connTypeInvalid
          · left
            change Tidy st (meshSessionSetup bus st st.connection.device)
            rw [meshSessionSetup, if_neg (by rw [looking]; decide),
              if_neg (not_not.mpr looking)]
            exact .same rfl rfl
          · exact Or.inr ⟨_, .setup interface child looking⟩
  | discovering => exact Or.inl (.same rfl rfl)
  | value => exact Or.inl (.same rfl rfl)
  | other => exact Or.inl (.same rfl rfl)

theorem propertyChanged_session (proxy : Nat) (change : PropertyChange) :
    Tidy st (propertyChanged bus st proxy change) ∨
      ∃ dataIn, Forgets bus st (.propertyChanged proxy change) dataIn := by
  rw [propertyChanged]
  cases interface : bus.interface proxy with
  | device =>
      dsimp only
      by_cases child : st.defaultCtrl.any (deviceIsChild bus proxy) = true
      · rw [if_pos child]
        exact deviceChanged_session bus st change interface child
      · rw [if_neg child]
        exact Or.inl (.same rfl rfl)
  | adapter =>
      cases change with
      | discovering => exact Or.inl (.same rfl rfl)
      | _ => exact Or.inl (.same rfl rfl)
  | gattCharacteristic =>
      cases change with
      | value =>
          dsimp only
          rw [characteristicChanged]
          split
          · exact Or.inl (processMeshCharacteristic_tidy bus st proxy)
          · exact Or.inl (.same rfl rfl)
      | _ => exact Or.inl (.same rfl rfl)
  | gattService => exact Or.inl (.same rfl rfl)
  | other => exact Or.inl (.same rfl rfl)

theorem disconnectReply_session {index : Nat} {cb : Option DisconnectCb}
    (reply : Reply) (pending : st.pending[index]? = some (.disconnect cb)) :
    (∀ before : ClientState, before.net = st.net →
      before.connection = st.connection →
        Tidy st (disconnectReply before reply.ok cb)) ∨
      ∃ dataIn, Forgets bus st (.reply index reply) dataIn := by
  cases cb with
  | none => exact Or.inl fun before net connection => .same net connection
  | some cb =>
      cases reply with
      | error =>
          left
          intro before net connection
          cases cb with
          | disconnReply device => exact .same net connection
          | provDisconnReply node => exact .same net connection
      | success pipe =>
          cases cb with
          | provDisconnReply node => exact Or.inr ⟨none, .provDisconnected pending⟩
          | disconnReply device =>
              by_cases isDevice : device = st.connection.device
              · rw [isDevice] at pending
                exact Or.inr ⟨none, .disconnected pending⟩
              · left
                intro before net connection
                change Tidy st (disconnReply before true device)
                rw [disconnReply, Bool.not_true, if_neg Bool.false_ne_true,
                  connection, if_pos isDevice]
                exact .same net connection

theorem replyReceived_session (index : Nat) (reply : Reply) :
    Tidy st (replyReceived bus st index reply) ∨
      ∃ dataIn, Forgets bus st (.reply index reply) dataIn := by
  rw [replyReceived]
  cases isPending : st.pending[index]? with
  | none => exact Or.inl (.same rfl rfl)
  | some pending =>
      cases pending with
      | connect proxy =>
          cases reply with
          | error => exact Or.inr ⟨none, .connectFailed isPending⟩
          | success pipe => exact Or.inl (.kept rfl rfl)
      | disconnect cb =>
          rcases disconnectReply_session bus st reply isPending with
            tidy | forgets
          · exact Or.inl (tidy _ rfl rfl)
          · exact Or.inr forgets
      | acquireNotify data =>
          exact Or.inl
            ((acquireNotifyReply_tidy bus _ reply data).of_same rfl rfl)
      | notify data =>
          exact Or.inl ((runNotifyCb_tidy bus _ reply.ok data).of_same rfl rfl)

theorem startProv_same (devUuid : List Byte) (found : Option Nat) :
    (startProv bus st devUuid found).net = st.net ∧
      (startProv bus st devUuid found).connection.dataIn =
        st.connection.dataIn := by
  unfold startProv
  dsimp only
  split
  · exact ⟨rfl, rfl⟩
  · split
    · exact ⟨rfl, rfl⟩
    · split
      · exact ⟨rfl, rfl⟩
      · cases found with
        | none => exact ⟨rfl, rfl⟩
        | some proxy =>
            dsimp only
            split
            · exact ⟨rfl, rfl⟩
            · exact ⟨rfl, rfl⟩

theorem cmdStartProv_tidy (devUuid : List Byte) (found : Option Nat) :
    Tidy st (cmdStartProv bus st devUuid found) := by
  rw [cmdStartProv]
  rcases startProv_same bus (disconnectDevice bus st none) devUuid found with
    ⟨net, connection⟩
  cases disconnectDevice_tidy bus st none with
  | kept proxyIn dataIn =>
      exact .kept (net ▸ proxyIn) (connection.trans dataIn)
  | closed proxyIn dataIn => exact .closed (net ▸ proxyIn) (connection ▸ dataIn)
  | opened idle proxyIn dataIn =>
      exact .opened idle (net ▸ proxyIn) (connection.trans dataIn)

theorem cmdDisconn_tidy : Tidy st (cmdDisconn bus st) := by
  rw [cmdDisconn]
  split
  · split
    · exact disconnectDevice_tidy bus st _
    · exact (disconnectDevice_tidy bus _ _).of_same rfl rfl
  · exact disconnectDevice_tidy bus st _

theorem meshProvDone_tidy (node : Nat)
    (assigned : Option { addr : U16 // addr ≠ 0 }) :
    Tidy st (meshProvDone bus st node assigned) := by
  unfold meshProvDone
  split
  · exact .same rfl rfl
  · cases assigned with
    | none => exact (disconnectDevice_tidy bus _ none).of_same rfl rfl
    | some addr => exact (disconnectDevice_tidy bus _ _).of_same rfl rfl

/-- What any input does to the session. -/
theorem handle_session (noService : st.connection.service = none)
    (input : Input) :
    Tidy st (handle bus st input) ∨ ∃ dataIn, Forgets bus st input dataIn := by
  cases input with
  | connect args =>
      cases controller : st.defaultCtrl.isNone with
      | false => exact Or.inr ⟨none, .connect controller⟩
      | true =>
          rw [handle, cmdConnect, if_pos controller]
          exact Or.inl (.same rfl rfl)
  | disconn => exact Or.inl (cmdDisconn_tidy bus st)
  | scanUnprovisioned enable =>
      left
      rw [handle, cmdScanUnprovisioned]
      split
      · exact .same rfl rfl
      · split
        · exact .same rfl rfl
        · exact .same rfl rfl
  | startProv devUuid found => exact Or.inl (cmdStartProv_tidy bus st devUuid found)
  | provDone node assigned => exact Or.inl (meshProvDone_tidy bus st node assigned)
  | proxyAdded proxy =>
      left
      rw [handle, proxyAdded]
      split
      · exact updateDeviceInfo_tidy bus st proxy
      · exact .same rfl rfl
      · split
        · exact .same rfl rfl
        · exact .same rfl rfl
      · split
        · exact .same rfl rfl
        · exact .same rfl rfl
      · exact .same rfl rfl
  | proxyRemoved proxy => exact proxyRemoved_session bus st noService proxy
  | propertyChanged proxy change => exact propertyChanged_session bus st proxy change
  | reply index reply => exact replyReceived_session bus st index reply
  | pipeRead data => exact Or.inl (pipeRead_tidy st data)
  | pipeHup => exact Or.inl (.same rfl rfl)
  | busLost => exact Or.inl (.same rfl rfl)
  | network env input own => exact Or.inl (networkDone_tidy st env input own)
  | nodeAdded devUuid primary => exact Or.inl (.same rfl rfl)
  | nodeFreed node => exact Or.inl (.same rfl rfl)

end Steps

/-! ## Runs -/

/-- The network layer writes to the characteristic of the connection. -/
def Owned (st : ClientState) : Prop :=
  ∀ dataIn, st.net.proxyIn = some dataIn → st.connection.dataIn = some dataIn

/-- If the input has the connection forget its characteristic, no session is
open; if it takes another, that is the one of the session. -/
def KeepsSession (bus : Bus) (st : ClientState) (input : Input) : Prop :=
  st.crashed = false → ∀ dataIn, Forgets bus st input dataIn →
    ∀ proxyIn, st.net.proxyIn = some proxyIn → dataIn = some proxyIn

theorem Tidy.owned {st after : ClientState} (tidy : Tidy st after)
    (owned : Owned st) : Owned after := by
  intro proxyIn isOpen
  cases tidy with
  | kept sameIn sameData =>
      rw [sameData]
      exact owned proxyIn (sameIn.symm.trans isOpen)
  | closed isClosed dataIn =>
      rw [isClosed] at isOpen
      split at isOpen
      · cases isOpen
      · next other => exact absurd (isOpen.trans (owned proxyIn isOpen).symm) other
  | opened idle sameIn sameData => exact sameData.trans (sameIn.symm.trans isOpen)

/-- A step leaves the session to the connection exactly under the condition. -/
theorem owned_step_iff {bus : Bus} {st : ClientState} {input : Input}
    (noService : st.connection.service = none) (owned : Owned st) :
    Owned (clientModel.step st (bus, input)).nextState ↔
      KeepsSession bus st input := by
  rw [clientModel]
  dsimp only
  cases isCrashed : st.crashed with
  | true =>
      refine ⟨fun _ running => ?_, fun _ => owned⟩
      rw [isCrashed] at running
      cases running
  | false =>
      rw [if_neg Bool.false_ne_true]
      constructor
      · intro still running dataIn forgets proxyIn isOpen
        have forgotten := forgets.forgotten
        rw [← forgotten.isDataIn]
        exact still proxyIn (forgotten.proxyIn.trans isOpen)
      · intro keeps
        rcases handle_session bus st noService input with
          tidy | ⟨dataIn, forgets⟩
        · exact tidy.owned owned
        · have forgotten := forgets.forgotten
          intro proxyIn isOpen
          rw [forgotten.proxyIn] at isOpen
          rw [forgotten.isDataIn]
          exact keeps isCrashed dataIn forgets proxyIn isOpen

/-- In every run the session belongs to the connection in all states exactly if
no input has the connection forget or replace the characteristic of an open
session. -/
theorem session_owned_iff (net : Net.NetState) (idle : net.proxyIn = none)
    (inputs : List (Bus × Input)) :
    (∀ st ∈ clientModel.reached (ClientState.start net) inputs, Owned st) ↔
      ∀ entry ∈ clientModel.trace (ClientState.start net) inputs,
        KeepsSession entry.input.1 entry.before entry.input.2 := by
  have initial : SoundConnection (ClientState.start net).connection ∧
      Owned (ClientState.start net) := by
    refine ⟨sound_start, fun dataIn isOpen => ?_⟩
    change net.proxyIn = some dataIn at isOpen
    rw [idle] at isOpen
    cases isOpen
  rw [clientModel.forall_reached_iff, and_iff_right initial.2]
  refine clientModel.forall_trace_iff
    (fun st => SoundConnection st.connection ∧ Owned st) _ _ ?_ ?_ inputs initial
  · rintro st ⟨bus, input⟩ ⟨sound, owned⟩ keeps
    exact ⟨sound_step bus st input sound,
      (owned_step_iff sound.service owned).mpr keeps⟩
  · rintro st ⟨bus, input⟩ ⟨sound, owned⟩
    exact owned_step_iff sound.service owned

/-! ## Sessions without a connection -/

/-- A session is open with a characteristic that is not that of the
connection. -/
structure Stranded (proxyIn : Nat) (st : ClientState) : Prop where
  isOpen : st.net.proxyIn = some proxyIn
  apart : st.connection.dataIn ≠ some proxyIn

/-- No other session can be opened. -/
theorem Stranded.refuses {proxyIn : Nat} {st : ClientState}
    (stranded : Stranded proxyIn st) (dataIn : Nat) (provisioner : Bool)
    (cb : Option Nat) :
    Net.netSessionOpen dataIn provisioner cb st.net = (false, st.net) := by
  rw [Net.netSessionOpen, stranded.isOpen]

/-- The services of a device are resolved, and it has the characteristic. -/
def FindsAgain (proxyIn : Nat) (bus : Bus) (st : ClientState) (input : Input) :
    Prop :=
  st.crashed = false ∧ Forgets bus st input (some proxyIn)

theorem Forgets.isSetup {bus : Bus} {st : ClientState} {input : Input}
    {dataIn : Option Nat} (forgets : Forgets bus st input dataIn) :
    dataIn = none ∨
      (∃ proxy, input = .propertyChanged proxy (.servicesResolved true)) ∧
      dataIn = getCharacteristic bus st st.connection.device
        (if st.connection.type = connTypeProvision then .meshProvDataIn
          else .meshProxyDataIn) := by
  cases forgets with
  | setup => exact Or.inr ⟨⟨_, rfl⟩, rfl⟩
  | _ => exact Or.inl rfl

theorem Tidy.stranded {proxyIn : Nat} {st after : ClientState}
    (tidy : Tidy st after) (stranded : Stranded proxyIn st) :
    Stranded proxyIn after := by
  have isOpen := stranded.isOpen
  have apart := stranded.apart
  cases tidy with
  | kept sameIn sameData =>
      exact ⟨sameIn.trans isOpen, fun same => apart (sameData.symm.trans same)⟩
  | closed isClosed dataIn =>
      rw [isOpen, if_neg (Ne.symm apart)] at isClosed
      refine ⟨isClosed, fun same => ?_⟩
      rcases dataIn with sameData | forgotten
      · exact apart (sameData.symm.trans same)
      · rw [forgotten] at same
        cases same
  | opened idle sameIn sameData =>
      rw [isOpen] at idle
      cases idle

/-- Nothing but finding the characteristic again ends this. -/
theorem stranded_step_iff {bus : Bus} {st : ClientState} {input : Input}
    {proxyIn : Nat} (noService : st.connection.service = none)
    (stranded : Stranded proxyIn st) :
    Stranded proxyIn (clientModel.step st (bus, input)).nextState ↔
      ¬FindsAgain proxyIn bus st input := by
  rw [clientModel]
  dsimp only
  cases isCrashed : st.crashed with
  | true =>
      refine ⟨fun _ finds => ?_, fun _ => stranded⟩
      rw [FindsAgain, isCrashed] at finds
      cases finds.1
  | false =>
      rw [if_neg Bool.false_ne_true]
      constructor
      · intro still finds
        exact still.apart finds.2.forgotten.isDataIn
      · intro notFound
        rcases handle_session bus st noService input with
          tidy | ⟨dataIn, forgets⟩
        · exact tidy.stranded stranded
        · have forgotten := forgets.forgotten
          refine ⟨forgotten.proxyIn.trans stranded.isOpen, fun same => ?_⟩
          rw [forgotten.isDataIn] at same
          exact notFound ⟨isCrashed, same ▸ forgets⟩

/-- Once the session is open with a characteristic that the connection does not
have, it stays so, whatever happens, exactly until a device is found to have that
characteristic. -/
theorem stranded_session_iff (net : Net.NetState) (proxyIn : Nat)
    (before : List (Bus × Input))
    (stranded : Stranded proxyIn
      (clientModel.finalState (ClientState.start net) before))
    (inputs : List (Bus × Input)) :
    (∀ st ∈ clientModel.reached
        (clientModel.finalState (ClientState.start net) before) inputs,
      Stranded proxyIn st) ↔
      ∀ entry ∈ clientModel.trace
          (clientModel.finalState (ClientState.start net) before) inputs,
        ¬FindsAgain proxyIn entry.input.1 entry.before entry.input.2 := by
  have sound : SoundConnection
      (clientModel.finalState (ClientState.start net) before).connection :=
    clientModel.invariant_finalState (fun st => SoundConnection st.connection)
      (fun _ => True)
      (fun st input sound _ => sound_step input.1 st input.2 sound) sound_start
      fun _ _ => trivial
  rw [clientModel.forall_reached_iff, and_iff_right stranded]
  refine clientModel.forall_trace_iff
    (fun st => SoundConnection st.connection ∧ Stranded proxyIn st) _ _ ?_ ?_
    inputs ⟨sound, stranded⟩
  · rintro st ⟨bus, input⟩ ⟨sound, stranded⟩ notFound
    exact ⟨sound_step bus st input sound,
      (stranded_step_iff sound.service stranded).mpr notFound⟩
  · rintro st ⟨bus, input⟩ ⟨sound, stranded⟩
    exact stranded_step_iff sound.service stranded

/-! ### Two proxies -/

/-- Two devices with the mesh proxy service, of one adapter. -/
def twoProxies : Bus where
  properties
    | 0 => { plainProxy with interface := .adapter, path := "a" }
    | 1 => { plainProxy with
        interface := .device, path := "d1", adapter := some "a" }
    | 2 => { plainProxy with
        interface := .gattService, path := "s1", device := some "d1"
        uuid := some .meshProxySvc }
    | 3 => { plainProxy with
        interface := .gattCharacteristic, service := some "s1"
        uuid := some .meshProxyDataIn }
    | 4 => { plainProxy with
        interface := .gattCharacteristic, service := some "s1"
        uuid := some .meshProxyDataOut }
    | 11 => { plainProxy with
        interface := .device, path := "d2", adapter := some "a" }
    | 12 => { plainProxy with
        interface := .gattService, path := "s2", device := some "d2"
        uuid := some .meshProxySvc }
    | 13 => { plainProxy with
        interface := .gattCharacteristic, service := some "s2"
        uuid := some .meshProxyDataIn }
    | 14 => { plainProxy with
        interface := .gattCharacteristic, service := some "s2"
        uuid := some .meshProxyDataOut }
    | _ => plainProxy
  accepts _ := true
  provOpens := true
  netKey := none
  identityCheck _ _ _ := false

/-- A session is opened with the first proxy. -/
def firstSession : List (Bus × Input) :=
  [.proxyAdded 0, .proxyAdded 2, .proxyAdded 3, .proxyAdded 4, .proxyAdded 12,
    .proxyAdded 13, .proxyAdded 14, .propertyChanged 1 (.connected true),
    .propertyChanged 1 (.servicesResolved true),
    .reply 0 (.success true)].map fun input => (twoProxies, input)

/-- Then the user asks for another connection. -/
def secondSearch : List (Bus × Input) :=
  firstSession ++ [(twoProxies, .connect .primary)]

/-- The second proxy is connected instead. -/
def secondSession : List (Bus × Input) :=
  [.propertyChanged 1 (.connected false), .propertyChanged 11 (.connected true),
    .propertyChanged 11 (.servicesResolved true),
    .reply 0 (.success true)].map fun input => (twoProxies, input)

/-- The session of the first proxy is lost with the second search. -/
theorem session_owned_iff_two_proxies :
    ¬∀ st ∈ clientModel.reached (ClientState.start Net.NetState.zero)
      secondSearch, Owned st := by
  rw [session_owned_iff Net.NetState.zero rfl secondSearch]
  intro keeps
  have last := keeps _ (clientModel.entry_mem_trace_concat _ firstSession _)
  have lost := last (by decide +kernel) none (.connect (by decide +kernel)) 3
    (by decide +kernel)
  cases lost

/-- It stays open while the second proxy is connected. -/
theorem stranded_session_iff_two_proxies :
    Stranded 3
      (clientModel.finalState (ClientState.start Net.NetState.zero)
        secondSearch) ∧
      ∀ st ∈ clientModel.reached
        (clientModel.finalState (ClientState.start Net.NetState.zero)
          secondSearch) secondSession, Stranded 3 st := by
  have stranded : Stranded 3
      (clientModel.finalState (ClientState.start Net.NetState.zero)
        secondSearch) :=
    ⟨by decide +kernel, by decide +kernel⟩
  have elsewhere : ∀ entry ∈ clientModel.trace
      (clientModel.finalState (ClientState.start Net.NetState.zero) secondSearch)
      secondSession, some 3 ≠ getCharacteristic entry.input.1 entry.before
        entry.before.connection.device
        (if entry.before.connection.type = connTypeProvision then
          .meshProvDataIn else .meshProxyDataIn) := by
    decide +kernel
  refine ⟨stranded, (stranded_session_iff Net.NetState.zero 3 secondSearch
    stranded secondSession).mpr ?_⟩
  rintro entry member ⟨_, forgets⟩
  rcases forgets.isSetup with none | ⟨_, found⟩
  · cases none
  · exact elsewhere entry member found

end Meshctl.Client
