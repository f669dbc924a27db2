import Meshctl.Db.KeyLists
import Meshctl.Db.StoredBlocks

/-! # The database over provisionings and resets

Addresses are taken from the pool in memory and given back to it. The records of
the database are only ever added to.
-/

namespace Meshctl.Db

open Net Execution

/-! ## The program -/

/-- The pool, the addresses of devices that are being provisioned and of the nodes
in memory, and the database file. -/
structure ProvisionerState where
  pool : List U32
  pending : List StoredBlock
  nodes : List StoredBlock
  file : Json

inductive ProvisionerInput where
  | capabilities (numEle : Byte)
  | complete (device : Nat) (status : Byte) (netIdx : U16) (devKey : Key)
  | nodeResetStatus (node : Nat)

/-- The node that `prov_complete` hands over. -/
def provisionedAs (block : StoredBlock) (netIdx : U16) (devKey : Key) : MeshNode :=
  { MeshNode.new with
    netKeys := [netIdx]
    primary := block.addr
    devKey := devKey
    numEle := block.count }

/-- Taking addresses for the elements of a device, `prov_complete` with
`mesh_prov_done`, and the reset of a node, whose record stays in the file. -/
def provisionerStep (state : ProvisionerState) :
    ProvisionerInput → StepResult ProvisionerState Unit
  | .capabilities numEle =>
      if numEle = 0 then ⟨state, ()⟩
      else
        let (addr, pool) := netObtainAddress state.pool numEle
        if addr = 0 then ⟨{ state with pool }, ()⟩
        else
          ⟨{ state with
            pool
            pending := state.pending ++ [{ addr, count := numEle }] }, ()⟩
  | .complete device status netIdx devKey =>
      match state.pending[device]? with
      | none => ⟨state, ()⟩
      | some block =>
          let pending := state.pending.eraseIdx device
          if status ≠ 0 then
            let pool := netReleaseAddress state.pool block.addr block.count
            ⟨{ state with pool, pending }, ()⟩
          else
            let node := provisionedAs block netIdx devKey
            ⟨{ state with
              pending
              nodes := state.nodes ++ [block]
              file := (provDbAddNewNode state.file node).getD state.file }, ()⟩
  | .nodeResetStatus node =>
      match state.nodes[node]? with
      | none => ⟨state, ()⟩
      | some block =>
          ⟨{ state with
            pool := netReleaseAddress state.pool block.addr block.count
            nodes := state.nodes.eraseIdx node }, ()⟩

def provisionerModel : Model ProvisionerState ProvisionerInput Unit where
  step := provisionerStep

/-- After a database has been read. -/
def startProvisioner (db : LoadedDb) (file : Json) : ProvisionerState where
  pool := db.pool
  pending := []
  nodes := db.nodes.map fun node => { addr := node.primary, count := node.numEle }
  file := file

/-! ## What may be stored -/

/-- No two nodes of a file claim the same address. -/
def ClaimsApart (file : Json) : Prop :=
  (storedBlocks file).Pairwise StoredBlock.Apart

/-- The ranges that the provisioners of a file may give addresses from. -/
def provisionerRanges (file : Json) : List U32 :=
  (((file.get "provisioners").bind Json.items).bind fun provisioners =>
    provisioners.foldlM readProvisioner []).getD []

/-- The addresses of a new node are those of no stored node, and one range of the
provisioners holds them. -/
structure CanBeStored (file : Json) (block : StoredBlock) (netIdx : U16) :
    Prop where
  apart : ∀ other ∈ storedBlocks file, block.Apart other
  inRange : HasRoom (provisionerRanges file) block
  index : storedNumber netIdx ≤ 4095

/-- What is stored by a step can be stored. -/
def StoresFreely (entry : Entry ProvisionerState ProvisionerInput Unit) : Prop :=
  match entry.input with
  | .complete device 0 netIdx _ =>
      ∀ block, entry.before.pending[device]? = some block →
        CanBeStored entry.before.file block netIdx
  | _ => True

theorem provisionerRanges_eq {env : LoadEnv} {file : Json} {db : LoadedDb}
    (read : readJsonDb env file = some db) :
    provisionerRanges file = db.settings.pool := by
  have settingsRead := (readJsonDb_eq_some_iff.mp read).1
  unfold readNetworkSettings at settingsRead
  simp only [Option.bind_eq_bind, Option.bind_eq_some_iff, Option.some.injEq]
    at settingsRead
  rcases settingsRead with ⟨_, _, _, _, _, _, provisioners, isList, items, areItems,
    pool, isPool, isSettings⟩
  rw [provisionerRanges, isList, Option.bind_some, areItems, Option.bind_some, isPool,
    ← isSettings]
  rfl

/-- The lists of a node with one network key are read when the number that its
index stands for is in range. -/
theorem newConfiguration_isRead (appKeys : List MeshAppKey) {start node : MeshNode}
    {netIdx : U16} (netKeys : node.netKeys = [netIdx]) (noAppKeys : node.appKeys = [])
    (noNetKeys : start.netKeys = []) (fresh : start.appKeys = [])
    (inRange : storedNumber netIdx ≤ 4095) :
    ∃ loaded, parseNodeConfiguration appKeys start (newConfiguration node) =
      some loaded := by
  have stored : StoresAppKeys node (newConfiguration node) := by
    unfold StoresAppKeys
    rw [if_pos noAppKeys]
    rfl
  have list := congrArg some (putUint16List_netKeys node.netKeys)
  rcases parseNodeConfiguration_stored appKeys noNetKeys fresh stored list
    ((parseNodeKeys_count start node.netKeys).mpr ⟨netIdx, [], netKeys, inRange⟩) with
    ⟨loaded, isLoaded, _⟩
  exact ⟨loaded, isLoaded⟩

section

variable {env : LoadEnv} {file after : Json} {block : StoredBlock} {netIdx : U16}
  {devKey : Key}

/-- A node that can be stored leaves a file that is read. -/
theorem addNewNode_isRead {db : LoadedDb} (read : readJsonDb env file = some db)
    (free : CanBeStored file block netIdx)
    (added : provDbAddNewNode file (provisionedAs block netIdx devKey) = some after) :
    (readJsonDb env after).isSome := by
  have notZero : block.count ≠ 0 := provDbAddNewNode_positive added
  have positive : 0 < block.count.toNat := by
    refine Nat.pos_of_ne_zero fun zero => notZero (BitVec.eq_of_toNat_eq zero)
  have room : HasRoom db.pool block := by
    have inRange := free.inRange
    rw [provisionerRanges_eq read] at inRange
    refine inRange.readNodes positive (fun record member other isOther => ?_)
      (readNodes_of_readJsonDb read)
    exact free.apart other (List.mem_flatMap.mpr ⟨record, member, isOther⟩)
  rcases newConfiguration_isRead db.settings.appKeys
    (rfl : (provisionedAs block netIdx devKey).netKeys = [netIdx]) rfl
    (rfl : { MeshNode.new with
      devKey := devKey
      numEle := block.count
      primary := block.addr }.netKeys = []) rfl free.index with ⟨loaded, isLoaded⟩
  have reserved : (netReserveAddressRange db.pool
      (provisionedAs block netIdx devKey).primary
      (provisionedAs block netIdx devKey).numEle).1 = true :=
    (hasRoom_iff_reserves db.pool block).mpr room
  rw [readJsonDb_addNewNode read added, parseNode_newNodeRecord _ _ _ notZero]
  simp only
  rw [if_pos reserved]
  simp only [provisionedAs] at isLoaded ⊢
  rw [isLoaded]
  rfl

theorem addNewNode_claimsApart {db : LoadedDb}
    (read : readJsonDb env file = some db) (apart : ClaimsApart file)
    (free : CanBeStored file block netIdx)
    (added : provDbAddNewNode file (provisionedAs block netIdx devKey) = some after) :
    ClaimsApart after := by
  have blocks : storedBlocks after = storedBlocks file ++ [block] := by
    rw [storedBlocks, nodeRecords_addNewNode read added, Option.getD_some,
      List.flatMap_append, List.flatMap_singleton,
      recordBlocks_newNodeRecord (provDbAddNewNode_positive added)]
    rfl
  rw [ClaimsApart, blocks, List.pairwise_append]
  refine ⟨apart, List.pairwise_singleton _ _, ?_⟩
  intro other member last isLast
  rw [List.mem_singleton.mp isLast]
  exact (free.apart other member).symm

end

/-! ## Runs -/

/-- What a file that is read first and any later one have in common. -/
structure Loadable (env : LoadEnv) (first file : Json) : Prop where
  isRead : (readJsonDb env file).isSome
  apart : ClaimsApart first → ClaimsApart file

theorem provisionerStep_loadable {env : LoadEnv} {first : Json}
    {state : ProvisionerState} (loadable : Loadable env first state.file)
    {input : ProvisionerInput}
    (free : StoresFreely (provisionerModel.entry state input)) :
    Loadable env first (provisionerModel.step state input).nextState.file := by
  cases input with
  | capabilities numEle =>
      simp only [provisionerModel, provisionerStep]
      split
      · exact loadable
      · split <;> exact loadable
  | complete device status netIdx devKey =>
      simp only [provisionerModel, provisionerStep]
      split
      · exact loadable
      · next block isPending =>
          split
          · exact loadable
          · next succeeded =>
              have isZero : status = 0 := not_not.mp succeeded
              subst isZero
              have canBeStored := free block isPending
              simp only
              cases added : provDbAddNewNode state.file
                  (provisionedAs block netIdx devKey) with
              | none => exact loadable
              | some after =>
                  rcases Option.isSome_iff_exists.mp loadable.isRead with ⟨db, read⟩
                  exact ⟨addNewNode_isRead read canBeStored added,
                    fun apart => addNewNode_claimsApart read (loadable.apart apart)
                      canBeStored added⟩
  | nodeResetStatus node =>
      simp only [provisionerModel, provisionerStep]
      split <;> exact loadable

/-- The pool is used up, the addresses of a reset node are given to another one,
and its record is still there. -/
def reusedAddresses : List ProvisionerInput :=
  [.capabilities 1, .complete 0 0 0 7, .nodeResetStatus 1, .capabilities 61,
    .complete 0 0 0 8, .capabilities 1, .complete 0 0 0 9]

instance (file : Json) : Decidable (ClaimsApart file) :=
  inferInstanceAs (Decidable (List.Pairwise _ _))

end Meshctl.Db
