import Meshctl.Client.Handlers

/-! # How the connection changes

Everything that a handler can make of the variables of the connection.
-/

namespace Meshctl.Client

open Execution

/-- A connection that nothing is known of. -/
def Connection.closed : Connection :=
  { Connection.zero with type := connTypeInvalid }

/-- The node that a connection is to be made to after it was provisioned. -/
def identityConnection (unicast : U16) : Connection :=
  { Connection.zero with type := connTypeIdentity, unicast }

/-- The input starts the search for a network or a node, or the provisioning of
a device. -/
inductive Begins (bus : Bus) (st : ClientState) : Input → Connection → Prop where
  | connect {args : ConnectArgs} (controller : st.defaultCtrl.isNone = false) :
      Begins bus st (.connect args) args.connection
  | provisioned {index : Nat} {pipe : Bool} {node : MeshNode}
      (known : st.nodeOfRef node.ref = some node)
      (pending : st.pending[index]? =
        some (.disconnect (some (.provDisconnReply node.ref)))) :
      Begins bus st (.reply index (.success pipe))
        (identityConnection node.primary)
  | startProv {devUuid : List Byte} {found : Option Nat} :
      Begins bus st (.startProv devUuid found)
        { st.connection with devUuid, type := connTypeProvision }

/-- What a handler does to the connection. -/
inductive Changes (bus : Bus) (st : ClientState) (input : Input) :
    Connection → Prop where
  | same : Changes bus st input st.connection
  | device (proxy : Nat) :
      Changes bus st input { st.connection with device := some proxy }
  | closed : Changes bus st input Connection.closed
  | chars (looking : st.connection.type ≠ connTypeInvalid)
      (dataIn dataOut : Option Nat) :
      Changes bus st input { st.connection with dataIn, dataOut }
  | opened (proxy : st.connection.type = connTypeIdentity ∨
        st.connection.type = connTypeNetwork) :
      Changes bus st input { st.connection with sessionOpen := true }
  | uuid (devUuid : List Byte) :
      Changes bus st input { st.connection with devUuid }
  | unused :
      Changes bus st input
        { st.connection with service := none, dataIn := none, dataOut := none }
  | begins {connection : Connection} (begins : Begins bus st input connection) :
      Changes bus st input connection

section Changes

variable {bus : Bus} {st : ClientState} {input : Input}

theorem Changes.of_eq {after : ClientState}
    (same : after.connection = st.connection) :
    Changes bus st input after.connection := same ▸ .same

theorem disconnectDevice_connection (bus : Bus) (st : ClientState)
    (cb : Option DisconnectCb) :
    (disconnectDevice bus st cb).connection = st.connection :=
  (disconnectDevice_asks st bus cb).connection

theorem updateDeviceInfo_connection (bus : Bus) (st : ClientState)
    (proxy : Nat) :
    (updateDeviceInfo bus st proxy).connection = st.connection := by
  rw [updateDeviceInfo]
  dsimp only
  cases findParent bus st proxy with
  | none => rfl
  | some adapter =>
      dsimp only
      split
      · rfl
      · split
        · rfl
        · split
          · rfl
          · split
            · split
              · rfl
              · rfl
            · rfl

theorem notifyProvOutCb_connection (bus : Bus) (st : ClientState) (ok : Bool)
    (node : Option Nat) :
    (notifyProvOutCb bus st ok node).connection = st.connection := by
  rw [notifyProvOutCb]
  split
  · rfl
  · split
    · rfl
    · cases st.connection.dataIn with
      | none => rfl
      | some dataIn =>
          cases node with
          | none => rfl
          | some node =>
              dsimp only
              split
              · rfl
              · split
                · rfl
                · exact disconnectDevice_connection bus _ none

theorem processMeshCharacteristic_connection (bus : Bus) (st : ClientState)
    (proxy : Nat) :
    (processMeshCharacteristic bus st proxy).connection = st.connection := by
  rw [processMeshCharacteristic]
  dsimp only
  cases (bus.properties proxy).uuid with
  | none => rfl
  | some uuid =>
      dsimp only
      cases (bus.properties proxy).value with
      | none => rfl
      | some value =>
          dsimp only
          split
          · split
            · rfl
            · split
              · rfl
              · split
                · rfl
                · split
                  · split
                    · rfl
                    · rfl
                  · rfl
          · rfl

theorem pipeRead_connection (st : ClientState) (data : List Byte) :
    (pipeRead st data).connection = st.connection := by
  rw [pipeRead]
  cases st.notifyIo with
  | none => rfl
  | some io =>
      dsimp only
      cases io.prov with
      | none => rfl
      | some prov =>
          dsimp only
          split
          · rfl
          · split
            · rfl
            · split
              · rfl
              · rfl

theorem networkDone_connection (st : ClientState) (env : Net.NetEnv)
    (input : Net.NetInput) :
    (networkDone st input env).connection = st.connection := by
  rw [networkDone]
  split
  · rw [sessionOpenCb]
    split
    · rfl
    · rfl
  · rfl

theorem runNotifyCb_changes {before : ClientState}
    (same : before.connection = st.connection) (ok : Bool) (data : NotifyData) :
    Changes bus st input (runNotifyCb bus before ok data).connection := by
  rw [runNotifyCb]
  cases data.cb with
  | none => exact .of_eq same
  | some cb =>
      cases cb with
      | notifyProvOut =>
          exact .of_eq ((notifyProvOutCb_connection bus before ok _).trans same)
      | discNotify cb =>
          exact .of_eq ((disconnect_asks before bus cb).connection.trans same)
      | notifyProxyOut =>
          dsimp only
          rw [notifyProxyOutCb]
          split
          · exact .of_eq same
          · split
            next => exact .of_eq same
            next typed =>
              cases before.connection.dataIn with
              | none => exact .of_eq same
              | some dataIn =>
                  dsimp only [ClientState.act]
                  rw [same]
                  rw [same] at typed
                  refine .opened ?_
                  by_contra other
                  exact typed (not_or.mp other)

theorem startNotify_connection (bus : Bus) (st : ClientState)
    (data : NotifyData) :
    (startNotify bus st data).connection = st.connection := by
  rw [startNotify]
  split
  · rfl
  · rfl

theorem replied_changes {before : ClientState} {index : Nat} (reply : Reply)
    {pending : Pending} (isPending : st.pending[index]? = some pending)
    (same : before.connection = st.connection) (nodes : before.nodes = st.nodes) :
    Changes bus st (.reply index reply)
      (replied bus before reply pending).connection := by
  cases pending with
  | connect proxy =>
      cases reply with
      | error => exact .closed
      | success pipe =>
          change Changes bus st _ { before.connection with device := some proxy }
          rw [same]
          exact .device proxy
  | disconnect cb =>
      cases cb with
      | none => exact .of_eq same
      | some cb =>
          cases reply with
          | error =>
              cases cb with
              | disconnReply device => exact .of_eq same
              | provDisconnReply node => exact .of_eq same
          | success pipe =>
              cases cb with
              | disconnReply device =>
                  change Changes bus st _
                    (disconnReply before true device).connection
                  rw [disconnReply, Bool.not_true, if_neg Bool.false_ne_true]
                  split
                  · exact .of_eq same
                  · exact .closed
              | provDisconnReply node =>
                  change Changes bus st _
                    (provDisconnReply before true node).connection
                  rw [provDisconnReply, Bool.not_true, if_neg Bool.false_ne_true]
                  dsimp only
                  split
                  next _ found _ isFound =>
                    have known : st.nodeOfRef node = some found := by
                      rw [← isFound, ClientState.nodeOfRef, ← nodes]
                      rfl
                    have isRef : found.ref = node := by
                      have hit := List.find?_some known
                      exact of_decide_eq_true hit
                    refine .begins (.provisioned ?_ ?_)
                    · rw [isRef]
                      exact known
                    · rw [isRef]
                      exact isPending
                  next => exact .closed
  | acquireNotify data =>
      cases reply with
      | error => exact .of_eq ((startNotify_connection bus before data).trans same)
      | success pipe =>
          cases pipe with
          | false => exact .of_eq ((startNotify_connection bus _ data).trans same)
          | true =>
              dsimp only [replied]
              rw [acquireNotifyReply]
              cases (bus.properties data.proxy).uuid with
              | none =>
                  have kept : ({ before with notifyIo := none } :
                      ClientState).connection = st.connection := same
                  exact runNotifyCb_changes kept true data
              | some uuid =>
                  dsimp only
                  generalize isPiped :
                    ({ before with notifyIo := some _ } : ClientState) = piped
                  have kept : piped.connection = st.connection := by
                    rw [← isPiped]
                    exact same
                  exact runNotifyCb_changes kept true data
  | notify data => exact runNotifyCb_changes same reply.ok data

theorem meshSessionSetup_changes (device : Option Nat) :
    Changes bus st input (meshSessionSetup bus st device).connection := by
  have found : st.connection.type ≠ connTypeInvalid →
      ∀ dataIn dataOut cb, Changes bus st input
        (findSessionChars bus st device dataIn dataOut cb).connection := by
    intro looking dataIn dataOut cb
    rw [findSessionChars]
    dsimp only
    split
    · exact .chars looking _ _
    · generalize isNext : ClientState.setConnection _ _ = next
      have changes : Changes bus st input next.connection := by
        rw [← isNext]
        exact .chars looking _ _
      cases next.connection.dataOut with
      | none => exact changes
      | some dataOut =>
          dsimp only
          rw [(dataOutNotify_asks next bus dataOut cb).connection]
          exact changes
  rw [meshSessionSetup]
  by_cases provision : st.connection.type = connTypeProvision
  · rw [if_pos provision]
    exact found (by rw [provision]; decide) _ _ _
  · rw [if_neg provision]
    by_cases looking : st.connection.type ≠ connTypeInvalid
    · rw [if_pos looking]
      exact found looking _ _ _
    · rw [if_neg looking]
      exact .same

theorem propertyChanged_changes (proxy : Nat) (change : PropertyChange) :
    Changes bus st input (propertyChanged bus st proxy change).connection := by
  rw [propertyChanged]
  cases bus.interface proxy with
  | device =>
      dsimp only
      split
      next =>
        cases change with
        | connected connected =>
            cases connected with
            | true =>
                rw [deviceChanged]
                split
                · exact .device proxy
                · exact .same
            | false =>
                rw [deviceChanged]
                split
                · exact .closed
                · exact .same
        | aliasName =>
            rw [deviceChanged]
            split
            · exact .device proxy
            · exact .same
        | serviceData => exact .of_eq (updateDeviceInfo_connection bus st proxy)
        | servicesResolved resolved =>
            cases resolved with
            | true => exact meshSessionSetup_changes st.connection.device
            | false => exact .same
        | discovering => exact .same
        | value => exact .same
        | other => exact .same
      next => exact .same
  | adapter =>
      cases change with
      | discovering => exact .same
      | _ => exact .same
  | gattCharacteristic =>
      cases change with
      | value =>
          dsimp only
          rw [characteristicChanged]
          split
          · exact .of_eq (processMeshCharacteristic_connection bus st proxy)
          · exact .same
      | _ => exact .same
  | gattService => exact .same
  | other => exact .same

theorem stopService_connection (bus : Bus) (st : ClientState) (proxy : Nat) :
    (stopService bus st proxy).connection = st.connection := by
  rw [stopService]
  split
  · cases st.connection.dataOut with
    | none => rfl
    | some dataOut =>
        change (dataOutNotify bus st dataOut false none).connection = _
        rw [dataOutNotify, meshGattNotify, if_neg (by exact Bool.false_ne_true)]
        split
        · rfl
        · split
          · rfl
          · rfl
  · rfl

theorem proxyRemoved_changes (proxy : Nat) :
    Changes bus st input (proxyRemoved bus st proxy).connection := by
  rw [proxyRemoved]
  cases bus.interface proxy with
  | device =>
      dsimp only
      rw [deviceRemoved]
      split
      · exact .same
      · split
        · exact .closed
        · exact .same
  | adapter =>
      dsimp only
      rw [adapterRemoved]
      split
      · exact .same
      · dsimp only
        split
        · exact .closed
        · exact .same
  | gattService =>
      dsimp only
      rw [serviceRemoved]
      dsimp only
      split
      · dsimp only [ClientState.setConnection]
        rw [stopService_connection]
        exact .unused
      · exact .same
  | gattCharacteristic => exact .same
  | other => exact .same

theorem startProv_changes {before : ClientState} {devUuid : List Byte}
    {found : Option Nat} (same : before.connection = st.connection) :
    Changes bus st (.startProv devUuid found)
      (startProv bus before devUuid found).connection := by
  have uuid : ∀ other, Changes bus st (.startProv devUuid found)
      { before.connection with devUuid := other } := by
    intro other
    rw [same]
    exact .uuid other
  unfold startProv
  dsimp only
  split
  · exact uuid devUuid
  · split
    · exact uuid devUuid
    · split
      · exact uuid devUuid
      · cases found with
        | none => exact uuid _
        | some proxy =>
            have begun : Changes bus st (.startProv devUuid (some proxy))
                { before.connection with
                  devUuid, type := connTypeProvision } := by
              rw [same]
              exact .begins .startProv
            dsimp only
            split
            · exact begun
            · exact begun

/-- Everything that an input can make of the connection. -/
theorem handle_changes (bus : Bus) (st : ClientState) (input : Input) :
    Changes bus st input (handle bus st input).connection := by
  cases input with
  | connect args =>
      rw [handle, cmdConnect]
      cases controller : st.defaultCtrl.isNone with
      | true => exact .same
      | false =>
          rw [if_neg Bool.false_ne_true]
          dsimp only
          split
          · exact .begins (.connect controller)
          · exact .begins (.connect controller)
  | disconn =>
      apply Changes.of_eq
      rw [handle, cmdDisconn, disconnectDevice_connection]
      split
      · split
        · rfl
        · rfl
      · rfl
  | scanUnprovisioned enable =>
      apply Changes.of_eq
      rw [handle, cmdScanUnprovisioned]
      split
      · rfl
      · split
        · rfl
        · rfl
  | startProv devUuid found =>
      exact startProv_changes (disconnectDevice_connection bus st none)
  | provDone node assigned =>
      apply Changes.of_eq
      rw [handle]
      unfold meshProvDone
      split
      · rfl
      · cases assigned with
        | none => exact disconnectDevice_connection bus _ none
        | some addr => exact disconnectDevice_connection bus _ _
  | proxyAdded proxy =>
      apply Changes.of_eq
      rw [handle, proxyAdded]
      split
      · exact updateDeviceInfo_connection bus st proxy
      · rfl
      · split
        · rfl
        · rfl
      · split
        · rfl
        · rfl
      · rfl
  | proxyRemoved proxy => exact proxyRemoved_changes proxy
  | propertyChanged proxy change => exact propertyChanged_changes proxy change
  | reply index reply =>
      rw [handle, replyReceived]
      cases isPending : st.pending[index]? with
      | none => exact .same
      | some pending => exact replied_changes reply isPending rfl rfl
  | pipeRead data => exact .of_eq (pipeRead_connection st data)
  | pipeHup => exact .same
  | busLost => exact .same
  | network env input own => exact .of_eq (networkDone_connection st env input)
  | nodeAdded devUuid primary => exact .same
  | nodeFreed node => exact .same

end Changes

/-! ## Over a run -/

/-- What holds of the connection of every state that can be reached. -/
structure SoundConnection (connection : Connection) : Prop where
  service : connection.service = none
  kind : connection.type = connTypeNetwork ∨
    connection.type = connTypeIdentity ∨
    connection.type = connTypeProvision ∨
    connection.type = connTypeInvalid
  silent : connection.type = connTypeInvalid →
    connection.dataIn = none ∧ connection.dataOut = none ∧
    connection.sessionOpen = false ∧ connection.unicast = 0 ∧
    connection.netIdx = 0

theorem Begins.sound {bus : Bus} {st : ClientState} {input : Input}
    {connection : Connection} (sound : SoundConnection st.connection)
    (begins : Begins bus st input connection) : SoundConnection connection := by
  cases begins with
  | @connect args controller =>
      cases args with
      | primary => exact ⟨rfl, Or.inl rfl, fun invalid => by cases invalid⟩
      | invalid => exact ⟨rfl, Or.inl rfl, fun invalid => by cases invalid⟩
      | network netIdx unicast =>
          by_cases noUnicast : unicast = 0
          · have isType : (ConnectArgs.network netIdx unicast).connection.type =
                connTypeNetwork := if_pos noUnicast
            refine ⟨rfl, Or.inl isType, fun invalid => ?_⟩
            rw [isType] at invalid
            cases invalid
          · have isType : (ConnectArgs.network netIdx unicast).connection.type =
                connTypeIdentity := if_neg noUnicast
            refine ⟨rfl, Or.inr (Or.inl isType), fun invalid => ?_⟩
            rw [isType] at invalid
            cases invalid
  | provisioned =>
      exact ⟨rfl, Or.inr (Or.inl rfl), fun invalid => by cases invalid⟩
  | startProv =>
      exact ⟨sound.service, Or.inr (Or.inr (Or.inl rfl)),
        fun invalid => by cases invalid⟩

theorem Changes.sound {bus : Bus} {st : ClientState} {input : Input}
    {connection : Connection} (sound : SoundConnection st.connection)
    (changes : Changes bus st input connection) :
    SoundConnection connection := by
  cases changes with
  | same => exact sound
  | device proxy => exact ⟨sound.service, sound.kind, sound.silent⟩
  | closed =>
      exact ⟨rfl, Or.inr (Or.inr (Or.inr rfl)),
        fun _ => ⟨rfl, rfl, rfl, rfl, rfl⟩⟩
  | chars looking dataIn dataOut =>
      exact ⟨sound.service, sound.kind, fun invalid => absurd invalid looking⟩
  | opened proxy =>
      refine ⟨sound.service, sound.kind, fun invalid => ?_⟩
      change st.connection.type = connTypeInvalid at invalid
      rw [invalid] at proxy
      rcases proxy with identity | network
      · cases identity
      · cases network
  | uuid devUuid => exact ⟨sound.service, sound.kind, sound.silent⟩
  | unused =>
      exact ⟨rfl, sound.kind, fun invalid =>
        ⟨rfl, rfl, (sound.silent invalid).2.2⟩⟩
  | begins begins => exact begins.sound sound

/-- A step of the machine, unless memory was misused before. -/
theorem clientModel_step (bus : Bus) (st : ClientState) (input : Input) :
    (clientModel.step st (bus, input)).nextState = st ∨
      (clientModel.step st (bus, input)).nextState = handle bus st input := by
  rw [clientModel]
  dsimp only
  split
  · exact Or.inl rfl
  · exact Or.inr rfl

theorem sound_step (bus : Bus) (st : ClientState) (input : Input)
    (sound : SoundConnection st.connection) :
    SoundConnection
      (clientModel.step st (bus, input)).nextState.connection := by
  rcases clientModel_step bus st input with same | handled
  · rw [same]
    exact sound
  · rw [handled]
    exact (handle_changes bus st input).sound sound

theorem sound_start : SoundConnection Connection.zero :=
  ⟨rfl, Or.inl rfl, fun invalid => by cases invalid⟩

end Meshctl.Client
