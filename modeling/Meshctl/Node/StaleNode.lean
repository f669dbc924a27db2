import Meshctl.Node.ConfigClient

/-! # The node that is written after a message was delivered

The handler finds the record of the source before it delivers a message, and
writes to it afterwards. A model may have freed the record in between.
-/

namespace Meshctl.Node

open Net

variable {World : Type*}

/-! ## Delivering -/

section Deliver

variable {behaviour : Behaviour World} {registered : RecvRef → RecvFunction}
  {message : AccessMessage} {store : Store World}

/-- The receive functions of the models that are bound to the key of a
message. -/
def offeredTo (message : AccessMessage) (models : List MeshModel) :
    List RecvRef :=
  models.filterMap fun model =>
    if model.bindings.contains message.appIdx then model.recv else none

/-- The first one that consumes a message sees the state from before. -/
theorem deliverModelData_eq (models : List MeshModel) :
    deliverModelData (modelCallbacks behaviour registered) message models store =
      match (offeredTo message models).find? fun recv =>
          (msgRecvd behaviour (registered recv) message.src message.data
            message.len store).1 with
      | none => (false, store)
      | some recv => msgRecvd behaviour (registered recv) message.src
          message.data message.len store := by
  induction models with
  | nil => rfl
  | cons model rest induction =>
      rw [deliverModelData]
      by_cases bound : message.appIdx ∈ model.bindings
      · rw [if_pos bound]
        cases registration : model.recv with
        | none =>
            rw [offeredTo, List.filterMap_cons_none (by
              rw [if_pos (List.contains_iff_mem.mpr bound), registration])]
            exact induction
        | some recv =>
            rw [offeredTo, List.filterMap_cons_some (by
              rw [if_pos (List.contains_iff_mem.mpr bound), registration])]
            cases consumed : (msgRecvd behaviour (registered recv) message.src
                message.data message.len store).1 with
            | false =>
                rw [List.find?_cons_of_neg (by simp [consumed])]
                simp only [modelCallbacks, consumed, Bool.false_eq_true,
                  if_false, msgRecvd_not_consumed consumed]
                exact induction
            | true =>
                rw [List.find?_cons_of_pos (by exact consumed)]
                simp only [modelCallbacks, consumed, if_true]
                exact Prod.ext consumed.symm rfl
      · rw [if_neg bound, offeredTo,
          List.filterMap_cons_none (by
            rw [if_neg (mt List.contains_iff_mem.mp bound)])]
        exact induction

/-- Without a reset status, every node is still there after a delivery. -/
theorem deliverModelData_sameNodes
    (noReset : ∀ node,
      ¬IsReset store.table message.src message.data message.len node)
    (models : List MeshModel) :
    SameNodes store.table (deliverModelData (modelCallbacks behaviour registered)
      message models store).2.table := by
  rw [deliverModelData_eq]
  split
  next => exact ⟨rfl, rfl⟩
  next recv _ => exact msgRecvd_sameNodes noReset (registered recv)

section Reset

variable {node : MeshNode}
  (reset : IsReset store.table message.src message.data message.len node)
  (isLocal : store.table.localRecord.isSome)
include reset isLocal

/-- A reset status goes to the configuration client, or to no model. -/
theorem consumes_reset_iff (recv : RecvRef) :
    (msgRecvd behaviour (registered recv) message.src message.data message.len
      store).1 = true ↔ registered recv = .configClient := by
  constructor
  · intro consumed
    by_contra other
    rw [msgRecvd_reset other reset isLocal] at consumed
    cases consumed
  · intro isClient
    rw [isClient, msgRecvd, clientMsgRecvd_reset reset]

theorem deliverModelData_reset {models : List MeshModel} :
    deliverModelData (modelCallbacks behaviour registered) message models store =
      if ∃ recv ∈ offeredTo message models, registered recv = .configClient then
        (true, releaseNode behaviour node store)
      else
        (false, store) := by
  rw [deliverModelData_eq]
  split
  next nobody =>
    rw [if_neg]
    rintro ⟨recv, offered, isClient⟩
    exact List.find?_eq_none.mp nobody recv offered
      ((consumes_reset_iff reset isLocal recv).mpr isClient)
  next recv found =>
    have consumed : (msgRecvd behaviour (registered recv) message.src
        message.data message.len store).1 = true := by
      simpa using List.find?_some found
    have isClient := (consumes_reset_iff reset isLocal recv).mp consumed
    rw [if_pos ⟨recv, List.mem_of_find?_eq_some found, isClient⟩, isClient,
      msgRecvd, clientMsgRecvd_reset reset]

end Reset

end Deliver

/-! ## Dispatching -/

/-- The handler delivers a message to the models of an element, and saves its
pair if one of them consumes it. The table has the record of the source. -/
structure Dispatched (store : Store World) (message : AccessMessage)
    (remote : MeshNode) (table : NodeTable) (element : MeshElement) : Prop where
  narrow : ¬0xffffff < message.seqNum
  toElement : ∃ localNode, store.table.localRecord = some localNode ∧
    remoteNode store.table localNode message.src = some (remote, table) ∧
    isLoopback localNode message.src = false ∧
    isReplayed remote message.ivIndex message.seqNum = false ∧
    addressedElement localNode message.dst = some element

section Dispatch

variable {callbacks : Callbacks World} {store : Store World}
  {message : AccessMessage} {remote : MeshNode} {table : NodeTable}
  {element : MeshElement}

/-- A source that is not known gets a record with a fresh pointer. -/
theorem remoteNode_cases {localNode : MeshNode}
    (source : remoteNode store.table localNode message.src =
      some (remote, table)) :
    (store.table.nodeFindByAddr message.src = some remote ∧
        table = store.table) ∨
      store.table.nodeFindByAddr message.src = none ∧
        remote.ref = store.table.freshRef ∧
        table = { store.table with nodes := store.table.nodes.append remote } := by
  rw [remoteNode] at source
  cases known : store.table.nodeFindByAddr message.src with
  | some node =>
      rw [known] at source
      cases source
      exact Or.inl ⟨rfl, rfl⟩
  | none =>
      rw [known] at source
      dsimp only at source
      split at source
      next => cases source
      next =>
        cases source
        exact Or.inr ⟨rfl, rfl, rfl⟩

theorem lt_freshRef {nodes : NodeTable} {node : MeshNode}
    (member : node ∈ nodes.nodes.records) : node.ref < nodes.freshRef :=
  Nat.lt_succ_of_le (List.le_sum_of_mem (List.mem_map_of_mem member))

/-- Finding the source of a message again finds its record. -/
theorem remoteNode_known {localNode node : MeshNode}
    (source : remoteNode store.table localNode message.src =
      some (remote, table))
    (known : table.nodeFindByAddr message.src = some node) : node = remote := by
  rcases remoteNode_cases source with ⟨found, same⟩ | ⟨unknown, _, appended⟩
  · subst same
    exact Option.some.inj (known.symm.trans found)
  · subst appended
    by_contra other
    have member := NodeTable.nodeFindByAddr_mem known
    rcases (KeyedList.mem_append _ _ _).mp member with ⟨old, _⟩ | new
    · rw [NodeTable.nodeFindByAddr] at known unknown
      split at known
      next unicast =>
        rw [if_pos unicast] at unknown
        have matched : matchNodeUnicast node message.src = true := by
          simpa using List.find?_some known
        exact List.find?_eq_none.mp unknown node old matched
      next => cases known
    · exact other new

theorem remoteNode_local {localNode : MeshNode}
    (isLocal : store.table.localRecord = some localNode)
    (source : remoteNode store.table localNode message.src =
      some (remote, table)) : table.localRecord = some localNode := by
  rcases remoteNode_cases source with ⟨_, same⟩ | ⟨_, isFresh, appended⟩
  · rw [same]
    exact isLocal
  · subst appended
    rw [NodeTable.localRecord] at isLocal ⊢
    rcases Option.bind_eq_some_iff.mp isLocal with ⟨ref, isRef, found⟩
    have older := lt_freshRef (KeyedList.mem_of_find found)
    rw [KeyedList.key_of_find found] at older
    rw [isRef]
    show (store.table.nodes.append remote).find ref = some localNode
    have apart : ref ≠ remote.ref := by
      rw [isFresh]
      exact Nat.ne_of_lt older
    rw [KeyedList.find_append_ne _ apart, found]

theorem remoteNode_mem {localNode : MeshNode}
    (source : remoteNode store.table localNode message.src =
      some (remote, table)) : remote ∈ table.nodes.records := by
  rcases remoteNode_cases source with ⟨found, same⟩ | ⟨_, _, appended⟩
  · rw [same]
    exact NodeTable.nodeFindByAddr_mem found
  · rw [appended]
    exact (KeyedList.mem_append _ _ _).mpr (Or.inr rfl)

theorem setIvSeq_refs (table : NodeTable) (ref : NodeRef)
    (ivIndex seqNumber : U32) :
    (table.setIvSeq ref ivIndex seqNumber).nodes.records.map MeshNode.ref =
      table.nodes.records.map MeshNode.ref := by
  rw [NodeTable.setIvSeq, KeyedList.update, List.map_map]
  apply List.map_congr_left
  intro node _
  show (if node.ref = ref then _ else node).ref = node.ref
  split <;> rfl

/-- What the handler does with a message that it dispatches. -/
theorem Dispatched.handler (dispatched : Dispatched store message remote table
    element) :
    let delivered := deliverModelData callbacks message element.models
      { store with table }
    let result := nodeLocalDataHandler callbacks store message
    result.1.remote = some remote.ref ∧
      (result.1.saved.isSome ↔ delivered.1 = true) ∧
      result.2.table.nodes.records.map MeshNode.ref =
        delivered.2.table.nodes.records.map MeshNode.ref := by
  rcases dispatched with
    ⟨narrow, localNode, isLocal, source, remoteSource, newer, toElement⟩
  simp only [nodeLocalDataHandler, isLocal, if_neg narrow, source, remoteSource,
    newer, toElement, Bool.not_false, Bool.and_false, Bool.false_eq_true,
    if_false, Bool.and_true]
  cases consumed : (deliverModelData callbacks message element.models
      { store with table }).1 with
  | false => exact ⟨rfl, by simp [Delivery.dropped], rfl⟩
  | true => exact ⟨rfl, by simp, setIvSeq_refs _ _ _ _⟩

/-- A pair is saved only for a message that was dispatched. -/
theorem exists_dispatched
    (saved : (nodeLocalDataHandler callbacks store message).1.saved.isSome) :
    ∃ remote table element, Dispatched store message remote table element := by
  rw [nodeLocalDataHandler] at saved
  cases isLocal : store.table.localRecord with
  | none =>
      rw [isLocal] at saved
      cases saved
  | some localNode =>
      rw [isLocal] at saved
      by_cases wide : 0xffffff < message.seqNum
      · dsimp only at saved
        rw [if_pos wide] at saved
        cases saved
      dsimp only at saved
      rw [if_neg wide] at saved
      cases source : remoteNode store.table localNode message.src with
      | none =>
          rw [source] at saved
          cases saved
      | some found =>
          rcases found with ⟨remote, table⟩
          rw [source] at saved
          dsimp only at saved
          split at saved
          next => cases saved
          next accepted =>
            cases toElement : addressedElement localNode message.dst with
            | none =>
                rw [toElement] at saved
                cases saved
            | some element =>
                rw [toElement] at saved
                dsimp only at saved
                split at saved
                next saves =>
                  simp only [Bool.and_eq_true, Bool.not_eq_true'] at saves
                  simp only [saves.2, Bool.not_false, Bool.true_and,
                    Bool.not_eq_true] at accepted
                  exact ⟨remote, table, element, wide, localNode, isLocal,
                    source, saves.2, accepted, toElement⟩
                next => cases saved

end Dispatch

/-! ## The node that is written -/

/-- The node that the handler writes to after a delivery is in the list. -/
def WritesMember (callbacks : Callbacks World) (store : Store World)
    (message : AccessMessage) : Prop :=
  let handled := nodeLocalDataHandler callbacks store message
  ∀ ref, handled.1.remote = some ref → handled.1.saved.isSome →
    ref ∈ handled.2.table.nodes.records.map MeshNode.ref

/-- The message is the reset status of a remote node that reaches the
configuration client. -/
def ResetsSource (registered : RecvRef → RecvFunction) (store : Store World)
    (message : AccessMessage) : Prop :=
  ∃ remote table element, Dispatched store message remote table element ∧
    IsReset table message.src message.data message.len remote ∧
    ∃ recv ∈ offeredTo message element.models, registered recv = .configClient

/-- The handler writes only to members of the node list, except after the reset
status of the source. -/
theorem writesMember_iff (behaviour : Behaviour World)
    (registered : RecvRef → RecvFunction) (store : Store World)
    (message : AccessMessage) :
    WritesMember (modelCallbacks behaviour registered) store message ↔
      ¬ResetsSource registered store message := by
  constructor
  · rintro member ⟨remote, table, element, dispatched, reset, client⟩
    rcases dispatched.handler with ⟨isRemote, saved, refs⟩
    rcases dispatched.toElement with ⟨localNode, isLocal, source, _⟩
    have isSome : table.localRecord.isSome := by
      rw [remoteNode_local isLocal source]
      rfl
    have delivered := @deliverModelData_reset World behaviour registered message
      { store with table } remote reset isSome element.models
    rw [if_pos client] at delivered
    have stays := member remote.ref isRemote (saved.mpr (by rw [delivered]))
    rw [refs, delivered] at stays
    rcases List.mem_map.mp stays with ⟨node, remains, isRef⟩
    exact ((KeyedList.mem_remove _ _ _).mp remains).2 isRef
  · intro noReset ref isRef saves
    rcases exists_dispatched saves with ⟨remote, table, element, dispatched⟩
    rcases @Dispatched.handler World (modelCallbacks behaviour registered) _ _ _
      _ _ dispatched with ⟨isRemote, saved, refs⟩
    rcases dispatched.toElement with ⟨localNode, isLocal, source, _⟩
    have same : ref = remote.ref := Option.some.inj (isRef.symm.trans isRemote)
    have present := List.mem_map_of_mem (f := MeshNode.ref)
      (remoteNode_mem source)
    rw [same, refs]
    by_cases reset : ∃ node, IsReset table message.src message.data message.len node
    · rcases reset with ⟨node, reset⟩
      have isSource := remoteNode_known source reset.known
      subst isSource
      have isSome : table.localRecord.isSome := by
        rw [remoteNode_local isLocal source]
        rfl
      have delivered := @deliverModelData_reset World behaviour registered
        message { store with table } node reset isSome element.models
      rw [if_neg fun client =>
        noReset ⟨node, table, element, dispatched, reset, client⟩] at delivered
      have consumed := saved.mp saves
      rw [delivered] at consumed
      cases consumed
    · have kept := (@deliverModelData_sameNodes World behaviour registered
        message { store with table } (not_exists.mp reset) element.models).2
      have sameRefs := congrArg (List.map NodeIdentity.ref) kept
      rw [List.map_map, List.map_map] at sameRefs
      exact sameRefs ▸ present

/-! ### A node that was reset -/

/-- Models that configure nothing. -/
def noBehaviour : Behaviour Unit where
  configure _ _ store := store
  respond _ store := store
  netReleaseAddress _ _ world := world
  configureLocalNode _ _ _ := rfl
  configureIdentities _ _ _ := rfl
  respondLocalNode _ _ := rfl
  respondIdentities _ _ := rfl

/-- A provisioner at address 1, with a configuration client, and a remote node
at address 0x100. -/
def provisionerStore : Store Unit where
  table :=
    { nodes := (KeyedList.empty.append
        { ref := 0, ivIndex := 0, seqNumber := 0, primaryNetIdx := 0
          primary := 1, devKey := 0, numEle := 1, provisioner := true
          elements := [{ index := 0, models :=
            [{ id := 0xffff0001, bindings := [appIdxDev], recv := some 0 }] }] }).append
        { ref := 1, ivIndex := 0, seqNumber := 0, primaryNetIdx := 0
          primary := 0x100, devKey := 0, numEle := 1, provisioner := false
          elements := [] }
      localNode := some 0 }
  world := ()

def resetStatus : AccessMessage where
  src := 0x100
  dst := 1
  ivIndex := 0
  seqNum := 1
  appIdx := appIdxDev
  data := [0x80, 0x4a]
  len := 2

theorem reset_node_is_written :
    ¬WritesMember (modelCallbacks noBehaviour fun _ => .configClient)
      provisionerStore resetStatus := by
  intro member
  have stays := member 1 (by decide +kernel) (by decide +kernel)
  revert stays
  decide +kernel

end Meshctl.Node
