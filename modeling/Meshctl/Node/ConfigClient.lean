import Meshctl.Db.MeshNode
import Meshctl.Node.LocalData

/-! # The receive functions of the local models

What a model does with an access message: it leaves the message to the next
model, or consumes it. The configuration client keeps the record of the node that
a status came from.
-/

namespace Meshctl.Node

open Bytes Net

/-! ## Opcodes -/

def opUnreliable : U32 := 0x0100

def opAppKeyStatus : U32 := 0x8003
def opDevCompStatus : U32 := 0x02
def opConfigBeaconStatus : U32 := 0x800b
def opConfigDefaultTtlGet : U32 := 0x800c
def opConfigDefaultTtlSet : U32 := 0x800d
def opConfigDefaultTtlStatus : U32 := 0x800e
def opConfigProxyStatus : U32 := 0x8014
def opConfigModelPubSet : U32 := 0x03
def opConfigModelPubStatus : U32 := 0x8019
def opConfigModelSubStatus : U32 := 0x801f
def opConfigRelayStatus : U32 := 0x8028
def opConfigModelSubList : U32 := 0x802a
def opConfigHeartbeatPubStatus : U32 := 0x06
def opConfigHeartbeatSubStatus : U32 := 0x803c
def opModelAppStatus : U32 := 0x803e
def opNetKeyStatus : U32 := 0x8044
def opNodeIdentityStatus : U32 := 0x8048
def opNodeResetStatus : U32 := 0x804a
def opModelAppList : U32 := 0x804c

def meshStatusSuccess : Byte := 0x00
def meshStatusIdxAlreadyStored : Byte := 0x06

/-- The opcode at the start of a message and the number of its bytes. -/
def meshOpcodeGet (buf : List Byte) (sz : U16) : Option (U32 × Nat) :=
  if sz.toNat < 1 then
    none
  else if get buf 0 &&& 0xc0 = 0x80 then
    if sz.toNat < 2 then
      none
    else
      some ((getBe16 buf 0).setWidth 32, 2)
  else if get buf 0 &&& 0xc0 = 0xc0 then
    if sz.toNat < 3 then
      none
    else
      some ((getBe16 buf 1).setWidth 32 |||
        (get buf 0).setWidth 32 <<< 16, 3)
  else if get buf 0 = 0x7f then
    none
  else
    some ((get buf 0).setWidth 32, 1)

def getLe16 (data : List Byte) (offset : Nat) : U16 :=
  get data (offset + 1) ++ get data offset

/-! ## Statuses for the configuration client -/

/-- A change of the record and the database entry of a node. -/
inductive ConfigChange where
  | composition (data : List Byte) (len : U16)
  | appKeyDelete (netIdx appIdx : U16)
  | netKeyDelete (netIdx : U16)
  | addBinding (eleIdx : Byte) (modId : U32) (appIdx : U16)
  | defaultTtl (ttl : Byte)
  | modelPub (eleIdx : Byte) (modId : U32) (pub : Db.MeshPublication)
  | addSubscription (eleIdx : Byte) (modId : U32) (addr : U16)

/-- What the client does with a status that it knows. -/
inductive ClientAction where
  | printed
  | change (change : ConfigChange)
  | release

/-- `print_mod_id`: a SIG model has 16 bits, a vendor model 32. -/
def printModId (data : List Byte) (offset : Nat) (vid : Bool) : U32 :=
  if vid then
    (getLe16 data offset).setWidth 32 <<< 16 |||
      (getLe16 data (offset + 2)).setWidth 32
  else
    0xffff0000 ||| (getLe16 data offset).setWidth 32

def getPublication (data : List Byte) (offset : Nat) : Db.MeshPublication where
  addr16 := getLe16 data offset
  appIdx := getLe16 data (offset + 2)
  ttl := get data (offset + 4)
  period := get data (offset + 5)
  retransmit := get data (offset + 6)

/-- Statuses that are only printed. -/
def printedStatuses : List U32 :=
  [opNodeIdentityStatus, opConfigBeaconStatus, opConfigRelayStatus,
    opConfigProxyStatus, opConfigModelSubList, opModelAppList,
    opConfigHeartbeatPubStatus, opConfigHeartbeatSubStatus]

/-- A key that the node refused to store is deleted. -/
def keyRefused (status : Byte) : Bool :=
  status ≠ meshStatusSuccess && status ≠ meshStatusIdxAlreadyStored

/-- The switch of `client_msg_recvd`; `src` is the primary address of the node.
The data is behind the opcode, and `none` is the default branch. -/
def clientAction (opcode : U32) (data : List Byte) (len src : U16)
    (isLocal : Bool) : Option ClientAction :=
  if opcode = opDevCompStatus then
    if len.toNat < 16 then
      some .printed
    else
      some (.change (.composition data len))
  else if opcode = opAppKeyStatus then
    if len = 4 && keyRefused (get data 0) then
      some (.change (.appKeyDelete (getLe16 data 1 &&& 0xfff)
        (getLe16 data 2 >>> 4)))
    else
      some .printed
  else if opcode = opNetKeyStatus then
    if len = 3 && keyRefused (get data 0) then
      some (.change (.netKeyDelete (getLe16 data 1 &&& 0xfff)))
    else
      some .printed
  else if opcode = opModelAppStatus then
    if (len = 7 || len = 9) && get data 0 = meshStatusSuccess then
      some (.change (.addBinding ((getLe16 data 1 - src).setWidth 8)
        (printModId data 5 (len = 9)) (getLe16 data 3)))
    else
      some .printed
  else if opcode = opConfigDefaultTtlStatus then
    if len = 1 then
      some (.change (.defaultTtl (get data 0)))
    else
      some .printed
  else if opcode = opConfigModelPubStatus then
    -- the local configuration is saved by the server
    if (len = 12 || len = 14) && get data 0 = meshStatusSuccess && !isLocal then
      some (.change (.modelPub ((getLe16 data 1 - src).setWidth 8)
        (printModId data 10 (len = 14)) (getPublication data 3)))
    else
      some .printed
  else if opcode = opConfigModelSubStatus then
    if get data 0 = meshStatusSuccess then
      some (.change (.addSubscription ((getLe16 data 1 - src).setWidth 8)
        (printModId data 5 (len = 9)) (getLe16 data 3)))
    else
      some .printed
  else if opcode = opNodeResetStatus then
    some .release
  else if printedStatuses.contains opcode then
    some .printed
  else
    none

/-! ### One status after the other -/

section Statuses

variable (data : List Byte) (len src : U16) (isLocal : Bool)

theorem clientAction_appKeyStatus :
    clientAction opAppKeyStatus data len src isLocal =
      if len = 4 && keyRefused (get data 0) then
        some (.change (.appKeyDelete (getLe16 data 1 &&& 0xfff)
          (getLe16 data 2 >>> 4)))
      else some .printed := rfl

theorem clientAction_netKeyStatus :
    clientAction opNetKeyStatus data len src isLocal =
      if len = 3 && keyRefused (get data 0) then
        some (.change (.netKeyDelete (getLe16 data 1 &&& 0xfff)))
      else some .printed := rfl

theorem clientAction_modelAppStatus :
    clientAction opModelAppStatus data len src isLocal =
      if (len = 7 || len = 9) && get data 0 = meshStatusSuccess then
        some (.change (.addBinding ((getLe16 data 1 - src).setWidth 8)
          (printModId data 5 (len = 9)) (getLe16 data 3)))
      else some .printed := rfl

theorem clientAction_defaultTtlStatus :
    clientAction opConfigDefaultTtlStatus data len src isLocal =
      if len = 1 then some (.change (.defaultTtl (get data 0)))
      else some .printed := rfl

theorem clientAction_modelPubStatus :
    clientAction opConfigModelPubStatus data len src isLocal =
      if (len = 12 || len = 14) && get data 0 = meshStatusSuccess && !isLocal then
        some (.change (.modelPub ((getLe16 data 1 - src).setWidth 8)
          (printModId data 10 (len = 14)) (getPublication data 3)))
      else some .printed := rfl

theorem clientAction_modelSubStatus :
    clientAction opConfigModelSubStatus data len src isLocal =
      if get data 0 = meshStatusSuccess then
        some (.change (.addSubscription ((getLe16 data 1 - src).setWidth 8)
          (printModId data 5 (len = 9)) (getLe16 data 3)))
      else some .printed := rfl

end Statuses

/-! ## Receive functions -/

/-- What receive functions do besides freeing nodes. They configure nodes, and
the configuration server answers a request: the answer is sent, or delivered to
the models of this node, as a TTL status. -/
structure Behaviour (World : Type*) where
  configure : ConfigChange → NodeRef → Store World → Store World
  respond : U16 → Store World → Store World
  netReleaseAddress : U16 → Byte → World → World
  configureLocalNode : ∀ change ref store,
    (configure change ref store).table.localNode = store.table.localNode
  configureIdentities : ∀ change ref store,
    (configure change ref store).table.nodes.records.map MeshNode.identity =
      store.table.nodes.records.map MeshNode.identity
  respondLocalNode : ∀ src store,
    (respond src store).table.localNode = store.table.localNode
  respondIdentities : ∀ src store,
    (respond src store).table.nodes.records.map MeshNode.identity =
      store.table.nodes.records.map MeshNode.identity

variable {World : Type*} (behaviour : Behaviour World)

/-- `node_free`, after the addresses of the node went back to the pool. -/
def releaseNode (node : MeshNode) (store : Store World) : Store World where
  table := { store.table with nodes := store.table.nodes.remove node.ref }
  world := behaviour.netReleaseAddress node.primary node.numEle store.world

def clientMsgRecvd (src : U16) (data : List Byte) (len : U16)
    (store : Store World) : Bool × Store World :=
  match meshOpcodeGet data len with
  | none => (false, store)
  | some (opcode, n) =>
      match store.table.nodeFindByAddr src with
      | none => (false, store)
      | some node =>
          if node.primary ≠ src then
            (false, store)
          else
            match clientAction (opcode &&& ~~~opUnreliable) (data.drop n)
                (len - BitVec.ofNat 16 n) src
                (store.table.localNode = some node.ref) with
            | none => (false, store)
            | some .printed => (true, store)
            | some (.change change) =>
                (true, behaviour.configure change node.ref store)
            | some .release => (true, releaseNode behaviour node store)

def serverMsgRecvd (src : U16) (data : List Byte) (len : U16)
    (store : Store World) : Bool × Store World :=
  match meshOpcodeGet data len with
  | none => (false, store)
  | some (opcode, n) =>
      match store.table.localRecord with
      | none => (true, store)
      | some node =>
          let opcode := opcode &&& ~~~opUnreliable
          let data := data.drop n
          let len := len - BitVec.ofNat 16 n
          if opcode = opConfigDefaultTtlSet then
            if len ≠ 1 ∨ 0x7f < get data 0 ∨ get data 0 = 1 then
              (true, store)
            else
              (true, behaviour.respond src
                (behaviour.configure (.defaultTtl (get data 0)) node.ref store))
          else if opcode = opConfigDefaultTtlGet then
            (true, behaviour.respond src store)
          else if opcode = opConfigModelPubSet then
            if len ≠ 11 ∧ len ≠ 13 then
              (true, store)
            else
              -- the length of a vendor model is never 14 here
              (true, behaviour.configure (.modelPub
                ((getLe16 data 0 - node.primary).setWidth 8)
                (printModId data 9 false) (getPublication data 2)) node.ref store)
          else
            (false, store)

/-- The other models consume their own status, and only print it. -/
def statusMsgRecvd (status : U32) (data : List Byte) (len : U16) : Bool :=
  match meshOpcodeGet data len with
  | none => false
  | some (opcode, _) => opcode &&& ~~~opUnreliable = status

/-- The receive functions that are registered for models. -/
inductive RecvFunction where
  | configServer
  | configClient
  | onOffClient
  | ctlClient
  | hslClient
  | levelClient
  | lightnessClient
  | timeClient
deriving DecidableEq

def msgRecvd (function : RecvFunction) (src : U16) (data : List Byte)
    (len : U16) (store : Store World) : Bool × Store World :=
  match function with
  | .configServer => serverMsgRecvd behaviour src data len store
  | .configClient => clientMsgRecvd behaviour src data len store
  | .onOffClient => (statusMsgRecvd 0x8204 data len, store)
  | .ctlClient => (statusMsgRecvd 0x8260 data len, store)
  | .hslClient => (statusMsgRecvd 0x8278 data len, store)
  | .levelClient => (statusMsgRecvd 0x8208 data len, store)
  | .lightnessClient => (statusMsgRecvd 0x824e data len, store)
  | .timeClient => (statusMsgRecvd 0x5d data len, store)

/-! ## What they leave -/

section Frame

variable {behaviour} {store : Store World} {src : U16} {data : List Byte}
  {len : U16}

/-- The message is the reset status of a known node, from its primary address. -/
structure IsReset (table : NodeTable) (src : U16) (data : List Byte)
    (len : U16) (node : MeshNode) : Prop where
  opcode : ∃ n opcode, meshOpcodeGet data len = some (opcode, n) ∧
    opcode &&& ~~~opUnreliable = opNodeResetStatus
  known : table.nodeFindByAddr src = some node
  primary : node.primary = src

theorem clientAction_release_iff {opcode : U32} {data : List Byte}
    {len src : U16} {isLocal : Bool} :
    clientAction opcode data len src isLocal = some .release ↔
      opcode = opNodeResetStatus := by
  constructor
  · intro released
    by_contra other
    rw [clientAction, if_neg other] at released
    repeat' split at released
    all_goals cases released
  · intro reset
    subst reset
    rfl

theorem clientMsgRecvd_reset {node : MeshNode}
    (reset : IsReset store.table src data len node) :
    clientMsgRecvd behaviour src data len store =
      (true, releaseNode behaviour node store) := by
  rcases reset with ⟨⟨n, opcode, isOpcode, isReset⟩, known, primary⟩
  simp only [clientMsgRecvd, isOpcode, known, primary, ne_eq, not_true_eq_false,
    if_false, isReset, clientAction_release_iff.mpr]

/-- A function that leaves the message to the next model changes nothing. -/
theorem msgRecvd_not_consumed {function : RecvFunction}
    (left : (msgRecvd behaviour function src data len store).1 = false) :
    (msgRecvd behaviour function src data len store).2 = store := by
  cases function with
  | configServer =>
      revert left
      simp only [msgRecvd, serverMsgRecvd]
      repeat' split
      all_goals simp
  | configClient =>
      revert left
      simp only [msgRecvd, clientMsgRecvd]
      repeat' split
      all_goals simp
  | _ => rfl

/-- The local node and what identifies the other nodes. -/
def SameNodes (before after : NodeTable) : Prop :=
  after.localNode = before.localNode ∧
    after.nodes.records.map MeshNode.identity =
      before.nodes.records.map MeshNode.identity

theorem serverMsgRecvd_sameNodes :
    SameNodes store.table
      (serverMsgRecvd behaviour src data len store).2.table := by
  have same : SameNodes store.table store.table := ⟨rfl, rfl⟩
  have configured (change : ConfigChange) (ref : NodeRef) :
      SameNodes store.table (behaviour.configure change ref store).table :=
    ⟨behaviour.configureLocalNode _ _ _, behaviour.configureIdentities _ _ _⟩
  have responds (store : Store World) :
      SameNodes store.table (behaviour.respond src store).table :=
    ⟨behaviour.respondLocalNode _ _, behaviour.respondIdentities _ _⟩
  simp only [serverMsgRecvd]
  repeat' split
  all_goals first
    | exact same
    | exact configured _ _
    | exact responds store
    | exact ⟨(responds _).1.trans (configured _ _).1,
        (responds _).2.trans (configured _ _).2⟩

/-- The configuration client removes a node for a reset status, and for nothing
else. -/
theorem clientMsgRecvd_sameNodes
    (noReset : ∀ node, ¬IsReset store.table src data len node) :
    SameNodes store.table
      (clientMsgRecvd behaviour src data len store).2.table := by
  have same : SameNodes store.table store.table := ⟨rfl, rfl⟩
  simp only [clientMsgRecvd]
  cases isOpcode : meshOpcodeGet data len with
  | none => exact same
  | some found =>
      rcases found with ⟨opcode, n⟩
      cases known : store.table.nodeFindByAddr src with
      | none => exact same
      | some node =>
          by_cases primary : node.primary = src
          · dsimp only
            rw [if_neg (not_not.mpr primary)]
            split
            next => exact same
            next => exact same
            next => exact ⟨behaviour.configureLocalNode _ _ _,
              behaviour.configureIdentities _ _ _⟩
            next released =>
              exact absurd ⟨⟨n, opcode, isOpcode,
                clientAction_release_iff.mp released⟩, known, primary⟩
                (noReset node)
          · dsimp only
            rw [if_pos primary]
            exact same

/-- No model but the configuration client consumes a reset status. -/
theorem msgRecvd_reset {function : RecvFunction}
    (other : function ≠ .configClient) {node : MeshNode}
    (reset : IsReset store.table src data len node)
    (isLocal : store.table.localRecord.isSome) :
    msgRecvd behaviour function src data len store = (false, store) := by
  rcases reset with ⟨⟨n, opcode, isOpcode, isReset⟩, _, _⟩
  have others (status : U32) (different : opNodeResetStatus ≠ status) :
      (statusMsgRecvd status data len, store) = (false, store) := by
    simp [statusMsgRecvd, isOpcode, isReset, different]
  cases function with
  | configClient => exact absurd rfl other
  | configServer =>
      rcases Option.isSome_iff_exists.mp isLocal with ⟨localNode, isLocal⟩
      simp only [msgRecvd, serverMsgRecvd, isOpcode, isLocal, isReset]
      rfl
  | onOffClient => exact others _ (by decide)
  | ctlClient => exact others _ (by decide)
  | hslClient => exact others _ (by decide)
  | levelClient => exact others _ (by decide)
  | lightnessClient => exact others _ (by decide)
  | timeClient => exact others _ (by decide)

theorem msgRecvd_sameNodes
    (noReset : ∀ node, ¬IsReset store.table src data len node)
    (function : RecvFunction) :
    SameNodes store.table
      (msgRecvd behaviour function src data len store).2.table := by
  cases function with
  | configServer => exact serverMsgRecvd_sameNodes
  | configClient => exact clientMsgRecvd_sameNodes noReset
  | _ => exact ⟨rfl, rfl⟩

theorem SameNodes.keeps {before after : NodeTable}
    (same : SameNodes before after) : KeepsIdentities before after :=
  ⟨same.1, same.2 ▸ List.Sublist.refl _⟩

theorem msgRecvd_keeps (function : RecvFunction) :
    KeepsIdentities store.table
      (msgRecvd behaviour function src data len store).2.table := by
  cases function with
  | configServer => exact serverMsgRecvd_sameNodes.keeps
  | configClient =>
      by_cases reset : ∃ node, IsReset store.table src data len node
      · rcases reset with ⟨node, reset⟩
        rw [msgRecvd, clientMsgRecvd_reset reset]
        exact ⟨rfl, List.filter_sublist.map _⟩
      · exact (clientMsgRecvd_sameNodes (not_exists.mp reset)).keeps
  | _ => exact SameNodes.keeps ⟨rfl, rfl⟩

end Frame

/-- The receive functions as they are registered with the local models. -/
def modelCallbacks (registered : RecvRef → RecvFunction) :
    Callbacks World where
  recv function := msgRecvd behaviour (registered function)
  keepsLocalNode _ _ _ _ _ := (msgRecvd_keeps _).localNode
  keepsIdentities _ _ _ _ _ := (msgRecvd_keeps _).identities

end Meshctl.Node
