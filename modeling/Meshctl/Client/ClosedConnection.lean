import Meshctl.Client.SessionOwnership

/-! # A closed connection

After a disconnection BlueZ cannot make the program connect, open a session,
provision a device or take data, until the user asks for it.
-/

namespace Meshctl.Client

open Execution

/-! ## Rest -/

def Pending.isAcquire : Pending → Bool
  | .acquireNotify _ => true
  | _ => false

/-- The connection is closed, no pipe is open and none was asked for. -/
structure Quiet (st : ClientState) : Prop where
  closed : st.connection.type = connTypeInvalid
  pipe : st.notifyIo = none
  pending : ∀ reply ∈ st.pending, reply.isAcquire = false

/-- What may be done meanwhile. -/
inductive Harmless : Action → Prop where
  | disconnect (device : Nat) : Harmless (.called .disconnect device)
  | sessionClosed : Harmless (.sessionClosed none)

structure Rests (st after : ClientState) : Prop where
  pipe : st.notifyIo = none → after.notifyIo = none
  pending : ∀ reply ∈ after.pending, reply ∈ st.pending ∨
    reply.isAcquire = false
  actions : ∃ done, after.actions = st.actions ++ done ∧
    ∀ action ∈ done, Harmless action

section Rests

variable {st after : ClientState}

theorem Rests.same (pipe : after.notifyIo = st.notifyIo)
    (pending : after.pending = st.pending)
    (actions : after.actions = st.actions) : Rests st after := by
  refine ⟨fun none => pipe.trans none, fun reply member => ?_, [], ?_, ?_⟩
  · rw [pending] at member
    exact Or.inl member
  · rw [actions, List.append_nil]
  · intro action member
    cases member

/-- It does not matter which replies were dropped before. -/
theorem Rests.of_fewer {before : ClientState} (rests : Rests before after)
    (pipe : before.notifyIo = st.notifyIo)
    (pending : ∀ reply ∈ before.pending, reply ∈ st.pending)
    (actions : before.actions = st.actions) : Rests st after := by
  refine ⟨fun none => rests.pipe (pipe.trans none), fun reply member => ?_, ?_⟩
  · exact (rests.pending reply member).imp_left (pending reply)
  · rw [← actions]
    exact rests.actions

theorem Rests.trans {before : ClientState} (first : Rests st before)
    (second : Rests before after) : Rests st after := by
  rcases first.actions with ⟨earlier, isEarlier, firstHarmless⟩
  rcases second.actions with ⟨later, isLater, secondHarmless⟩
  refine ⟨fun none => second.pipe (first.pipe none), fun reply member => ?_,
    earlier ++ later, ?_, ?_⟩
  · rcases second.pending reply member with before | other
    · exact first.pending reply before
    · exact Or.inr other
  · rw [isLater, isEarlier, List.append_assoc]
  · intro action member
    rcases List.mem_append.mp member with inEarlier | inLater
    · exact firstHarmless action inEarlier
    · exact secondHarmless action inLater

variable (bus : Bus) (st)

theorem disconnect_rests (cb : Option DisconnectCb) :
    Rests st (disconnect bus st cb) := by
  rw [disconnect]
  cases st.connection.device with
  | none => exact .same rfl rfl rfl
  | some device =>
      dsimp only
      split
      · refine ⟨fun none => none, fun reply member => ?_, [_], rfl, ?_⟩
        · rcases List.mem_append.mp member with before | new
          · exact Or.inl before
          · rw [List.mem_singleton.mp new]
            exact Or.inr rfl
        · intro action member
          rw [List.mem_singleton.mp member]
          exact .disconnect device
      · exact .same rfl rfl rfl

theorem disconnectDevice_rests (cb : Option DisconnectCb)
    (noData : st.connection.dataIn = none ∧ st.connection.dataOut = none) :
    Rests st (disconnectDevice bus st cb) := by
  have isDataOut : (st.closeSession none).connection.dataOut = none := noData.2
  rw [disconnectDevice, noData.1]
  dsimp only
  rw [isDataOut]
  refine Rests.trans ?_ (disconnect_rests _ bus cb)
  refine ⟨fun none => none, fun reply member => Or.inl member, [_], rfl, ?_⟩
  intro action member
  rw [List.mem_singleton.mp member]
  exact .sessionClosed

end Rests

/-! ## One input at a time -/

section Steps

variable {bus : Bus} {st : ClientState}

/-- No device is looked for. -/
theorem parseMeshServiceData_closed
    (closed : st.connection.type = connTypeInvalid) (data : List Byte) :
    parseMeshServiceData bus st data = false := by
  rw [parseMeshServiceData]
  split
  next => rfl
  next wellFormed =>
    split
    next => rfl
    next isType =>
      exfalso
      rw [not_not, closed] at isType
      rw [isType] at wellFormed
      simp [connTypeNetwork, connTypeIdentity, connTypeInvalid] at wellFormed

theorem parseMeshProxy_closed (closed : st.connection.type = connTypeInvalid)
    (entries : List ServiceData) :
    Gui.parseMeshProxy (entries.map (serviceEntry bus st)) = false := by
  induction entries with
  | nil => rfl
  | cons entry entries induction =>
      cases entry with
      | malformed => rfl
      | provisioning data => exact induction
      | meshProxy data => exact parseMeshServiceData_closed closed data
      | other => exact induction

theorem updateDeviceInfo_closed (closed : st.connection.type = connTypeInvalid)
    (proxy : Nat) : updateDeviceInfo bus st proxy = st := by
  rw [updateDeviceInfo]
  dsimp only
  cases findParent bus st proxy with
  | none => rfl
  | some adapter =>
      dsimp only
      split
      · rfl
      · split
        · rfl
        · split
          · rfl
          · rw [parseMeshProxy_closed closed, Bool.false_and,
              if_neg Bool.false_ne_true]

theorem meshSessionSetup_closed (closed : st.connection.type = connTypeInvalid)
    (device : Option Nat) : meshSessionSetup bus st device = st := by
  rw [meshSessionSetup, if_neg (by rw [closed]; decide),
    if_neg (not_not.mpr closed)]

theorem runNotifyCb_rests (closed : st.connection.type = connTypeInvalid)
    (ok : Bool) (data : NotifyData) : Rests st (runNotifyCb bus st ok data) := by
  rw [runNotifyCb]
  cases data.cb with
  | none => exact .same rfl rfl rfl
  | some cb =>
      cases cb with
      | notifyProvOut =>
          dsimp only
          rw [notifyProvOutCb, closed, if_pos (by decide : connTypeInvalid ≠ _),
            ite_self]
          exact .same rfl rfl rfl
      | notifyProxyOut =>
          dsimp only
          rw [notifyProxyOutCb, closed, if_pos (by decide :
            connTypeInvalid ≠ connTypeIdentity ∧ connTypeInvalid ≠ _), ite_self]
          exact .same rfl rfl rfl
      | discNotify cb => exact disconnect_rests st bus cb

theorem disconnectReply_rests (ok : Bool) (cb : Option DisconnectCb)
    (notBegun : ∀ node, cb = some (.provDisconnReply node) → ok = true →
      st.defaultCtrl.isNone = true ∨ st.nodeOfRef node = none) :
    Rests st (disconnectReply st ok cb) := by
  cases cb with
  | none => exact .same rfl rfl rfl
  | some cb =>
      cases cb with
      | disconnReply device =>
          change Rests st (disconnReply st ok device)
          rw [disconnReply]
          split
          · exact .same rfl rfl rfl
          · split
            · exact .same rfl rfl rfl
            · exact .same rfl rfl rfl
      | provDisconnReply node =>
          change Rests st (provDisconnReply st ok node)
          rw [provDisconnReply]
          cases ok with
          | false => exact .same rfl rfl rfl
          | true =>
              rw [Bool.not_true, if_neg Bool.false_ne_true]
              dsimp only
              split
              next _ found isCtrl isFound =>
                exfalso
                change st.defaultCtrl = some _ at isCtrl
                change st.nodeOfRef node = some found at isFound
                rcases notBegun node rfl rfl with noCtrl | noNode
                · rw [isCtrl] at noCtrl
                  cases noCtrl
                · rw [isFound] at noNode
                  cases noNode
              next => exact .same rfl rfl rfl

theorem replyReceived_rests (quiet : Quiet st) (index : Nat) (reply : Reply)
    (notBegun : ∀ connection, ¬Begins bus st (.reply index reply) connection) :
    Rests st (replyReceived bus st index reply) := by
  rw [replyReceived]
  cases isPending : st.pending[index]? with
  | none => exact .same rfl rfl rfl
  | some pending =>
      have fewer : ∀ other ∈ st.pending.eraseIdx index, other ∈ st.pending :=
        fun other member => List.mem_of_mem_eraseIdx member
      cases pending with
      | connect proxy =>
          cases reply with
          | error => exact (Rests.same rfl rfl rfl).of_fewer rfl fewer rfl
          | success pipe => exact (Rests.same rfl rfl rfl).of_fewer rfl fewer rfl
      | disconnect cb =>
          refine (disconnectReply_rests reply.ok cb ?_).of_fewer rfl fewer rfl
          intro node isCb isOk
          by_contra begun
          rcases not_or.mp begun with ⟨hasCtrl, hasNode⟩
          rcases Option.ne_none_iff_exists'.mp hasNode with ⟨found, isFound⟩
          have isRef : found.ref = node := by
            have hit := List.find?_some isFound
            exact of_decide_eq_true hit
          cases reply with
          | error => cases isOk
          | success pipe =>
              apply notBegun (identityConnection found.primary)
              refine .provisioned ?_ ?_
              · rw [isRef]
                exact isFound
              · rw [isRef, isPending, isCb]
      | acquireNotify data =>
          have acquires := quiet.pending _ (List.mem_of_getElem? isPending)
          cases acquires
      | notify data =>
          have closed : ({ st with pending := st.pending.eraseIdx index } :
              ClientState).connection.type = connTypeInvalid := quiet.closed
          exact (runNotifyCb_rests closed reply.ok data).of_fewer rfl fewer rfl

theorem propertyChanged_rests (quiet : Quiet st)
    (silent : st.connection.dataIn = none ∧ st.connection.sessionOpen = false)
    (proxy : Nat) (change : PropertyChange) :
    Rests st (propertyChanged bus st proxy change) := by
  rw [propertyChanged]
  cases bus.interface proxy with
  | device =>
      dsimp only
      split
      next =>
        cases change with
        | connected connected =>
            cases connected with
            | true =>
                rw [deviceChanged]
                split
                · exact .same rfl rfl rfl
                · exact .same rfl rfl rfl
            | false =>
                rw [deviceChanged, silent.1]
                split
                · refine ⟨fun none => none, fun reply member => Or.inl member,
                    [_], rfl, fun action member => ?_⟩
                  rw [List.mem_singleton.mp member]
                  exact .sessionClosed
                · exact .same rfl rfl rfl
        | aliasName =>
            rw [deviceChanged]
            split
            · exact .same rfl rfl rfl
            · exact .same rfl rfl rfl
        | serviceData =>
            change Rests st (updateDeviceInfo bus st proxy)
            rw [updateDeviceInfo_closed quiet.closed]
            exact .same rfl rfl rfl
        | servicesResolved resolved =>
            cases resolved with
            | true =>
                change Rests st (meshSessionSetup bus st _)
                rw [meshSessionSetup_closed quiet.closed]
                exact .same rfl rfl rfl
            | false => exact .same rfl rfl rfl
        | discovering => exact .same rfl rfl rfl
        | value => exact .same rfl rfl rfl
        | other => exact .same rfl rfl rfl
      next => exact .same rfl rfl rfl
  | adapter =>
      cases change with
      | discovering => exact .same rfl rfl rfl
      | _ => exact .same rfl rfl rfl
  | gattCharacteristic =>
      cases change with
      | value =>
          have notTaken : ¬(st.connection.type = connTypeProvision ∨
              st.connection.sessionOpen = true) := by
            rw [quiet.closed, silent.2]
            decide
          dsimp only
          rw [characteristicChanged, if_neg notTaken]
          exact .same rfl rfl rfl
      | _ => exact .same rfl rfl rfl
  | gattService => exact .same rfl rfl rfl
  | other => exact .same rfl rfl rfl

theorem proxyRemoved_rests (noService : st.connection.service = none)
    (proxy : Nat) : Rests st (proxyRemoved bus st proxy) := by
  rw [proxyRemoved]
  cases bus.interface proxy with
  | device =>
      dsimp only
      rw [deviceRemoved]
      split
      · exact .same rfl rfl rfl
      · split
        · exact .same rfl rfl rfl
        · exact .same rfl rfl rfl
  | adapter =>
      dsimp only
      rw [adapterRemoved]
      split
      · exact .same rfl rfl rfl
      · dsimp only
        split
        · exact .same rfl rfl rfl
        · exact .same rfl rfl rfl
  | gattService =>
      dsimp only
      rw [serviceRemoved, noService,
        if_neg (by exact Option.some_ne_none proxy ∘ Eq.symm)]
      exact .same rfl rfl rfl
  | gattCharacteristic => exact .same rfl rfl rfl
  | other => exact .same rfl rfl rfl

/-- What an input can do that does not begin anything. -/
theorem handle_rests (sound : SoundConnection st.connection) (quiet : Quiet st)
    (input : Input) (notBegun : ∀ connection, ¬Begins bus st input connection) :
    Rests st (handle bus st input) := by
  rcases sound.silent quiet.closed with ⟨noIn, noOut, notOpen, _⟩
  cases input with
  | connect args =>
      cases controller : st.defaultCtrl.isNone with
      | false => exact absurd (.connect controller) (notBegun _)
      | true =>
          rw [handle, cmdConnect, if_pos controller]
          exact .same rfl rfl rfl
  | disconn =>
      rw [handle, cmdDisconn, quiet.closed, if_neg (by decide)]
      exact disconnectDevice_rests st bus _ ⟨noIn, noOut⟩
  | scanUnprovisioned enable =>
      rw [handle, cmdScanUnprovisioned]
      split
      · exact .same rfl rfl rfl
      · split
        · exact .same rfl rfl rfl
        · exact .same rfl rfl rfl
  | startProv devUuid found => exact absurd .startProv (notBegun _)
  | provDone node assigned =>
      rw [handle]
      unfold meshProvDone
      split
      · exact .same rfl rfl rfl
      · cases assigned with
        | none =>
            exact (disconnectDevice_rests (st.nodeFree node) bus none
              ⟨noIn, noOut⟩).of_fewer rfl (fun _ member => member) rfl
        | some addr =>
            dsimp only
            generalize isAssigned :
              ({ st with nodes := _ } : ClientState) = next
            have same : next.connection = st.connection ∧
                next.notifyIo = st.notifyIo ∧ next.pending = st.pending ∧
                next.actions = st.actions := by
              rw [← isAssigned]
              exact ⟨rfl, rfl, rfl, rfl⟩
            refine (disconnectDevice_rests next bus _ ?_).of_fewer same.2.1
              (fun _ member => same.2.2.1 ▸ member) same.2.2.2
            rw [same.1]
            exact ⟨noIn, noOut⟩
  | proxyAdded proxy =>
      rw [handle, proxyAdded]
      split
      · rw [updateDeviceInfo_closed quiet.closed]
        exact .same rfl rfl rfl
      · exact .same rfl rfl rfl
      · split
        · exact .same rfl rfl rfl
        · exact .same rfl rfl rfl
      · split
        · exact .same rfl rfl rfl
        · exact .same rfl rfl rfl
      · exact .same rfl rfl rfl
  | proxyRemoved proxy => exact proxyRemoved_rests sound.service proxy
  | propertyChanged proxy change =>
      exact propertyChanged_rests quiet ⟨noIn, notOpen⟩ proxy change
  | reply index reply => exact replyReceived_rests quiet index reply notBegun
  | pipeRead data =>
      rw [handle, pipeRead, quiet.pipe]
      exact .same rfl rfl rfl
  | pipeHup =>
      exact ⟨fun _ => rfl, fun reply member => Or.inl member, [],
        (List.append_nil _).symm, fun action member => by cases member⟩
  | busLost => exact .same rfl rfl rfl
  | network env input own =>
      rw [handle, networkDone]
      split
      · rw [sessionOpenCb, if_neg]
        · exact .same rfl rfl rfl
        · change st.connection.type ≠ connTypeIdentity
          rw [quiet.closed]
          decide
      · exact .same rfl rfl rfl
  | nodeAdded devUuid primary => exact .same rfl rfl rfl
  | nodeFreed node => exact .same rfl rfl rfl

/-- Only what begins something changes the type of a closed connection. -/
theorem Changes.closed_type {connection : Connection} {input : Input}
    (closed : st.connection.type = connTypeInvalid)
    (changes : Changes bus st input connection)
    (notBegun : ∀ other, ¬Begins bus st input other) :
    connection.type = connTypeInvalid := by
  cases changes with
  | same => exact closed
  | device proxy => exact closed
  | closed => rfl
  | chars looking dataIn dataOut => exact absurd closed looking
  | opened proxy =>
      rw [closed] at proxy
      rcases proxy with identity | network
      · cases identity
      · cases network
  | uuid devUuid => exact closed
  | unused => exact closed
  | begins begins => exact absurd begins (notBegun _)

end Steps

/-! ## Runs -/

/-- A quiet state that was reached. -/
structure Resting (st : ClientState) : Prop where
  sound : SoundConnection st.connection
  quiet : Quiet st

theorem Rests.quiet {st after : ClientState} (rests : Rests st after)
    (quiet : Quiet st) (closed : after.connection.type = connTypeInvalid) :
    Quiet after := by
  refine ⟨closed, rests.pipe quiet.pipe, fun reply member => ?_⟩
  rcases rests.pending reply member with before | other
  · exact quiet.pending reply before
  · exact other

/-- The step lemma. -/
theorem Resting.step {bus : Bus} {st : ClientState} {input : Input}
    (resting : Resting st)
    (notBegun : ∀ connection, ¬Begins bus st input connection) :
    Resting (clientModel.step st (bus, input)).nextState ∧
      Rests st (clientModel.step st (bus, input)).nextState := by
  rcases clientModel_step bus st input with same | handled
  · rw [same]
    exact ⟨resting, .same rfl rfl rfl⟩
  · have rests := handle_rests resting.sound resting.quiet input notBegun
    have changes := handle_changes bus st input
    rw [handled]
    exact ⟨⟨changes.sound resting.sound, rests.quiet resting.quiet
      (changes.closed_type resting.quiet.closed notBegun)⟩, rests⟩

/-- The run lemma. -/
theorem Resting.run {st : ClientState} (resting : Resting st)
    (inputs : List (Bus × Input))
    (notBegun : ∀ entry ∈ clientModel.trace st inputs, ∀ connection,
      ¬Begins entry.input.1 entry.before entry.input.2 connection) :
    Resting (clientModel.finalState st inputs) ∧
      Rests st (clientModel.finalState st inputs) := by
  induction inputs generalizing st with
  | nil => exact ⟨resting, .same rfl rfl rfl⟩
  | cons input inputs induction =>
      rcases List.forall_mem_cons.mp notBegun with ⟨first, later⟩
      rcases resting.step first with ⟨next, rests⟩
      rcases induction next later with ⟨final, restsLater⟩
      exact ⟨final, rests.trans restsLater⟩

/-- Whatever BlueZ announces, answers or sends, a closed connection stays closed
until the user asks for one or a node that was provisioned has been disconnected;
meanwhile nothing is done but to disconnect, and to close a session that is not
there. -/
theorem closed_connection_rests (net : Net.NetState)
    (before : List (Bus × Input))
    (quiet : Quiet (clientModel.finalState (ClientState.start net) before))
    (inputs : List (Bus × Input))
    (notBegun : ∀ entry ∈ clientModel.trace
        (clientModel.finalState (ClientState.start net) before) inputs,
      ∀ connection,
        ¬Begins entry.input.1 entry.before entry.input.2 connection) :
    let closed := clientModel.finalState (ClientState.start net) before
    let final := clientModel.finalState closed inputs
    Quiet final ∧ final.connection.dataIn = none ∧
      final.connection.sessionOpen = false ∧
      ∃ done, final.actions = closed.actions ++ done ∧
        ∀ action ∈ done, Harmless action := by
  intro closed final
  have sound : SoundConnection closed.connection :=
    clientModel.invariant_finalState (fun st => SoundConnection st.connection)
      (fun _ => True)
      (fun st input sound _ => sound_step input.1 st input.2 sound) sound_start
      fun _ _ => trivial
  have resting : Resting closed := ⟨sound, quiet⟩
  rcases resting.run inputs notBegun with ⟨still, rests⟩
  rcases still.sound.silent still.quiet.closed with ⟨noIn, _, notOpen, _⟩
  exact ⟨still.quiet, noIn, notOpen, rests.actions⟩

/-! ### The first proxy goes away -/

/-- The session with the first proxy ends, and the second one is connected. -/
def afterDisconnection : List (Bus × Input) :=
  [.propertyChanged 11 (.connected true),
    .propertyChanged 11 (.servicesResolved true),
    .propertyChanged 4 .value].map fun input => (twoProxies, input)

theorem closed_connection_rests_first_proxy :
    let closed := clientModel.finalState (ClientState.start Net.NetState.zero)
      (firstSession ++ [(twoProxies, .propertyChanged 1 (.connected false))])
    let final := clientModel.finalState closed afterDisconnection
    Quiet final ∧ final.connection.dataIn = none ∧
      final.connection.sessionOpen = false ∧
      ∃ done, final.actions = closed.actions ++ done ∧
        ∀ action ∈ done, Harmless action := by
  refine closed_connection_rests Net.NetState.zero _
    ⟨by decide +kernel, by rfl, ?_⟩ afterDisconnection ?_
  · decide +kernel
  · intro entry member connection begins
    have isInput := clientModel.input_of_mem_trace member
    rcases List.mem_map.mp isInput with ⟨input, isOne, isEntry⟩
    rw [← isEntry] at begins
    simp only [List.mem_cons, List.not_mem_nil, or_false] at isOne
    rcases isOne with rfl | rfl | rfl
    · cases begins
    · cases begins
    · cases begins

end Meshctl.Client
