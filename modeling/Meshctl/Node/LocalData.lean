import Meshctl.Node.NodeTable

/-! # Delivering access messages to local models

`node_local_data_handler` and what it calls. The receive functions of the
models are registered by other files; they are a parameter.
-/

namespace Meshctl.Node

open Net

/-- The program state: the node table and everything else. -/
structure Store (World : Type*) where
  table : NodeTable
  world : World

/-- The fields of a node that decide whether and where a message is delivered.
Outside the handler they are written only while a node is provisioned or loaded
from the database. -/
structure NodeIdentity where
  ref : NodeRef
  ivIndex : U32
  seqNumber : U32
  primary : U16
  numEle : Byte
  provisioner : Bool

def MeshNode.identity (node : MeshNode) : NodeIdentity where
  ref := node.ref
  ivIndex := node.ivIndex
  seqNumber := node.seqNumber
  primary := node.primary
  numEle := node.numEle
  provisioner := node.provisioner

/-- The receive functions. One may send, bind keys, change the composition of
a node or free a node, but no node moves to another address and no replay pair
changes. -/
structure Callbacks (World : Type*) where
  recv : RecvRef → U16 → List Byte → U16 → Store World → Bool × Store World
  keepsLocalNode : ∀ function src data len store,
    (recv function src data len store).2.table.localNode =
      store.table.localNode
  keepsIdentities : ∀ function src data len store,
    ((recv function src data len store).2.table.nodes.records.map
      MeshNode.identity).Sublist
        (store.table.nodes.records.map MeshNode.identity)

structure AccessMessage where
  src : U16
  dst : U32
  ivIndex : U32
  seqNum : U32
  appIdx : U16
  data : List Byte
  len : U16

/-- What the handler did with a message: the node that its source address
belongs to, whether that is the local node, whether the models saw the message,
whether one of them consumed it and the pair that was saved for the node. -/
structure Delivery where
  remote : Option NodeRef
  loopback : Bool
  dispatched : Bool
  consumed : Bool
  saved : Option (U32 × U32)

def Delivery.dropped : Delivery where
  remote := none
  loopback := false
  dispatched := false
  consumed := false
  saved := none

variable {World : Type*}

def deliverModelData (callbacks : Callbacks World) (message : AccessMessage) :
    List MeshModel → Store World → Bool × Store World
  | [], store => (false, store)
  | model :: rest, store =>
      if message.appIdx ∈ model.bindings then
        match model.recv with
        | none => deliverModelData callbacks message rest store
        | some recv =>
            let (res, store) :=
              callbacks.recv recv message.src message.data message.len store
            if res then
              (true, store)
            else
              deliverModelData callbacks message rest store
      else
        deliverModelData callbacks message rest store

def isLoopback (localNode : MeshNode) (src : U16) : Bool :=
  src.toNat < localNode.primary.toNat + localNode.numEle.toNat &&
    localNode.primary ≤ src

/-- The comparison behind "Replayed message detected". -/
def isReplayed (remote : MeshNode) (ivIndex seqNum : U32) : Bool :=
  let ivSeq : U64 := (ivIndex <<< 24).setWidth 64
  let ivSeq := ivSeq ||| seqNum.setWidth 64
  let ivSeqRemote : U64 := (remote.ivIndex <<< 24).setWidth 64
  let ivSeq := ivSeq ||| remote.seqNumber.setWidth 64
  ivSeq ≤ ivSeqRemote

/-- The element of the local node that a destination address selects. Groups
and virtual addresses are not delivered yet. -/
def addressedElement (localNode : MeshNode) (dst : U32) :
    Option MeshElement :=
  if isGroup dst || isVirtual dst then
    none
  else if isAllNodes dst then
    localNode.elements.find? (·.index = 0)
  else if localNode.primary.toNat + localNode.numEle.toNat ≤ dst.toNat ∨
      dst.toNat < localNode.primary.toNat then
    none
  else
    let eleIdx : Byte := (dst - localNode.primary.setWidth 32).setWidth 8
    localNode.elements.find? (·.index = eleIdx)

/-- The node a message comes from. Without a provisioner every unknown source
is taken for a node with one element. -/
def remoteNode (table : NodeTable) (localNode : MeshNode) (src : U16) :
    Option (MeshNode × NodeTable) :=
  match table.nodeFindByAddr src with
  | some remote => some (remote, table)
  | none =>
      if localNode.provisioner then
        none
      else
        let remote : MeshNode :=
          { ref := table.freshRef, ivIndex := 0, seqNumber := 0
            primaryNetIdx := 0, primary := src, devKey := 0, numEle := 1
            provisioner := false, elements := [] }
        some (remote, { table with nodes := table.nodes.append remote })

def nodeLocalDataHandler (callbacks : Callbacks World) (store : Store World)
    (message : AccessMessage) : Delivery × Store World :=
  match store.table.localRecord with
  | none => (.dropped, store)
  | some localNode =>
      if 0xffffff < message.seqNum then
        (.dropped, store)
      else
        match remoteNode store.table localNode message.src with
        | none => (.dropped, store)
        | some (remote, table) =>
            let store := { store with table }
            let loopback := isLoopback localNode message.src
            let dropped : Delivery :=
              { Delivery.dropped with remote := some remote.ref, loopback }
            if !loopback &&
                isReplayed remote message.ivIndex message.seqNum then
              (dropped, store)
            else
              match addressedElement localNode message.dst with
              | none => (dropped, store)
              | some element =>
                  let (res, store) :=
                    deliverModelData callbacks message element.models store
                  let delivered :=
                    { dropped with dispatched := true, consumed := res }
                  if res && !loopback then
                    let saved := (message.ivIndex, message.seqNum)
                    ({ delivered with saved := some saved },
                      { store with table :=
                          store.table.setIvSeq remote.ref saved.1 saved.2 })
                  else
                    (delivered, store)

/-! ## What a message changes -/

/-- Nodes may disappear; what remains has the identity it had. -/
structure KeepsIdentities (before after : NodeTable) : Prop where
  localNode : after.localNode = before.localNode
  identities : (after.nodes.records.map MeshNode.identity).Sublist
    (before.nodes.records.map MeshNode.identity)

theorem deliverModelData_keepsIdentities (callbacks : Callbacks World)
    (message : AccessMessage) (models : List MeshModel) (store : Store World) :
    KeepsIdentities store.table
      (deliverModelData callbacks message models store).2.table := by
  induction models generalizing store with
  | nil => exact ⟨rfl, List.Sublist.refl _⟩
  | cons model rest induction =>
      rw [deliverModelData]
      split
      next bound =>
        split
        next => exact induction store
        next recv registered =>
          have sameLocal := callbacks.keepsLocalNode recv message.src
            message.data message.len store
          have kept := callbacks.keepsIdentities recv message.src message.data
            message.len store
          dsimp only
          split
          · exact ⟨sameLocal, kept⟩
          · have ⟨laterLocal, laterKept⟩ := induction
              (callbacks.recv recv message.src message.data message.len store).2
            exact ⟨laterLocal.trans sameLocal, laterKept.trans kept⟩
      next => exact induction store

theorem KeepsIdentities.exists_node {before after : NodeTable}
    (keeps : KeepsIdentities before after) {node : MeshNode}
    (member : node ∈ after.nodes.records) :
    ∃ old ∈ before.nodes.records, old.identity = node.identity :=
  List.mem_map.mp (keeps.identities.subset (List.mem_map_of_mem member))

/-- A message from a known remote node that the handler has no other reason to
drop: it is addressed to an element of the local node. -/
structure Addressed (table : NodeTable) (message : AccessMessage)
    (remote : MeshNode) (element : MeshElement) : Prop where
  narrow : message.seqNum ≤ 0xffffff
  known : table.nodeFindByAddr message.src = some remote
  toElement : ∃ localNode, table.localRecord = some localNode ∧
    isLoopback localNode message.src = false ∧
    addressedElement localNode message.dst = some element

/-- Such a message is dispatched unless its pair looks replayed. -/
theorem nodeLocalDataHandler_dispatched {callbacks : Callbacks World}
    {store : Store World} {message : AccessMessage} {remote : MeshNode}
    {element : MeshElement}
    (addressed : Addressed store.table message remote element) :
    (nodeLocalDataHandler callbacks store message).1.dispatched =
      !isReplayed remote message.ivIndex message.seqNum := by
  rcases addressed with ⟨narrow, known, localNode, isLocal, remoteSource, toElement⟩
  have notWide : ¬0xffffff < message.seqNum := by
    rw [BitVec.lt_def]
    rw [BitVec.le_def] at narrow
    omega
  simp only [nodeLocalDataHandler, isLocal, notWide, if_false, remoteNode,
    known, remoteSource, toElement, Bool.not_false, Bool.true_and,
    Bool.and_true]
  cases isReplayed remote message.ivIndex message.seqNum with
  | true => rfl
  | false =>
      simp only [Bool.false_eq_true, if_false, Bool.not_false]
      split <;> rfl

/-- A step either saves nothing and only lets nodes disappear, or it is a
message that a model consumed and saves its pair. -/
theorem nodeLocalDataHandler_cases (callbacks : Callbacks World)
    (store : Store World) (message : AccessMessage)
    (provisioner : ∀ localNode, store.table.localRecord = some localNode →
      localNode.provisioner = true) :
    (((nodeLocalDataHandler callbacks store message).1.consumed = false ∨
        (nodeLocalDataHandler callbacks store message).1.loopback = true) ∧
      KeepsIdentities store.table
        (nodeLocalDataHandler callbacks store message).2.table) ∨
    ∃ remote element kept, Addressed store.table message remote element ∧
      KeepsIdentities store.table kept ∧
      (nodeLocalDataHandler callbacks store message).1 =
        { remote := some remote.ref, loopback := false, dispatched := true
          consumed := true, saved := some (message.ivIndex, message.seqNum) } ∧
      (nodeLocalDataHandler callbacks store message).2.table =
        kept.setIvSeq remote.ref message.ivIndex message.seqNum := by
  have unchanged : KeepsIdentities store.table store.table :=
    ⟨rfl, List.Sublist.refl _⟩
  cases isLocal : store.table.localRecord with
  | none =>
      left
      simp only [nodeLocalDataHandler, isLocal]
      exact ⟨Or.inl rfl, unchanged⟩
  | some localNode =>
      by_cases wide : 0xffffff < message.seqNum
      · left
        simp only [nodeLocalDataHandler, isLocal, if_pos wide]
        exact ⟨Or.inl rfl, unchanged⟩
      · cases known : store.table.nodeFindByAddr message.src with
        | none =>
            left
            simp only [nodeLocalDataHandler, isLocal, if_neg wide, remoteNode,
              known, provisioner localNode isLocal, if_true]
            exact ⟨Or.inl rfl, unchanged⟩
        | some remote =>
            simp only [nodeLocalDataHandler, isLocal, if_neg wide, remoteNode,
              known]
            split
            next => exact Or.inl ⟨Or.inl rfl, unchanged⟩
            next accepted =>
              cases toElement : addressedElement localNode message.dst with
              | none => exact Or.inl ⟨Or.inl rfl, unchanged⟩
              | some element =>
                  have kept := deliverModelData_keepsIdentities callbacks
                    message element.models store
                  dsimp only
                  split
                  next saves =>
                    simp only [Bool.and_eq_true, Bool.not_eq_true'] at saves
                    refine Or.inr ⟨remote, element, _, ⟨?_, known, localNode,
                      isLocal, saves.2, toElement⟩, kept, ?_, rfl⟩
                    · rw [BitVec.lt_def] at wide
                      rw [BitVec.le_def]
                      omega
                    · simp only [saves]
                  next notSaves =>
                    left
                    simp only [Bool.and_eq_true, Bool.not_eq_true', not_and,
                      Bool.not_eq_false] at notSaves
                    refine ⟨?_, kept⟩
                    cases consumed : (deliverModelData callbacks message
                      element.models store).1 with
                    | false => exact Or.inl rfl
                    | true => exact Or.inr (notSaves consumed)

end Meshctl.Node
