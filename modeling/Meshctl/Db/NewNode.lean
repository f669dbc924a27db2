import Meshctl.Db.HexKeys
import Meshctl.Db.Reading

/-! # Reading the record of a new node -/

namespace Meshctl.Db

open Net Text

/-! ## Keys -/

/-- A key is read back from its text. -/
theorem str2hex_keyText (key : Key) {out : List Byte} (length : out.length = 16) :
    let str := (keyText key).getString
    (str2hex str (BitVec.ofNat 16 str.length) out 16).1 = true ∧
      keyOfBytes (str2hex str (BitVec.ofNat 16 str.length) out 16).2 = key := by
  intro str
  have isStr : str = (keyBytes key).flatMap hexPair := getString_keyText key
  have strLength : str.length = 16 * 2 := by
    rw [isStr, length_hexPairs, length_keyBytes]
  have read : str2hex str (BitVec.ofNat 16 str.length) out 16 = (true, keyBytes key) := by
    have isRead := str2hex_hexPairs (keyBytes key) (BitVec.ofNat 16 str.length) out
      (by rw [length_keyBytes, strLength]; decide)
    rwa [← isStr, length_keyBytes, List.drop_of_length_le length.le, List.append_nil] at isRead
  rw [read]
  exact ⟨rfl, keyOfBytes_keyBytes key⟩

/-! ## Elements -/

/-- Only the first element of a new record has an effect. -/
theorem parseConfigurationElement_new {count : Nat} (state : MeshNode × List U32)
    (primary : U16) {index : Nat} (inside : index < count) (small : count < 65536) :
    parseConfigurationElement count false state (newElementRecord primary index) =
      if index = 0 then
        let (reserved, pool) :=
          netReserveAddressRange state.2 primary (BitVec.ofNat 8 count)
        if reserved then some ({ state.1 with primary }, pool) else none
      else some state := by
  have value : (newElementRecord primary index).get "elementIndex" =
      some (.int index) := rfl
  have address : (newElementRecord primary index).get "unicastAddress" =
      some (Json.hex16 (primary + BitVec.ofNat 16 index).toNat) := rfl
  have models : (newElementRecord primary index).get "models" = none := rfl
  have isIndex := Json.getInt_int (lt_trans inside small)
  unfold parseConfigurationElement
  rw [value, models]
  simp only [Option.bind_eq_bind, Option.bind_some, isIndex]
  rw [if_neg (by omega), placeNode]
  by_cases isFirst : index = 0
  · have isZero : (index : Int) = 0 := by omega
    rw [if_pos isZero, if_pos isFirst, parsePrimary, address, readHex16_hex16,
      isFirst]
    simp only [Option.bind_eq_bind, Option.bind_some, Bool.false_eq_true, if_false,
      BitVec.add_zero, parseIfPresent]
    split <;> rfl
  · have notZero : (index : Int) ≠ 0 := by omega
    rw [if_neg notZero, if_neg isFirst]
    rfl

theorem foldlM_eq_self {State Item : Type} {step : State → Item → Option State}
    {items : List Item} {state : State}
    (same : ∀ item ∈ items, step state item = some state) :
    items.foldlM step state = some state := by
  induction items with
  | nil => rfl
  | cons item items induction =>
      rw [List.foldlM_cons, same item List.mem_cons_self]
      exact induction fun other member => same other (List.mem_cons_of_mem _ member)

theorem parseConfigurationElements_new (start : MeshNode) (pool : List U32)
    (primary : U16) {numEle : Byte} (positive : numEle ≠ 0) :
    parseConfigurationElements start pool false
        ((List.range numEle.toNat).map (newElementRecord primary)) =
      let (reserved, pool) := netReserveAddressRange pool primary numEle
      if reserved then some ({ start with numEle, primary }, pool) else none := by
  have small : numEle.toNat < 65536 := lt_trans numEle.isLt (by decide)
  have notZero : numEle.toNat ≠ 0 := by
    intro zero
    exact positive (BitVec.eq_of_toNat_eq zero)
  rcases Nat.exists_eq_succ_of_ne_zero notZero with ⟨more, isSucc⟩
  have count : BitVec.ofNat 8 numEle.toNat = numEle := by
    rw [BitVec.ofNat_toNat, BitVec.setWidth_eq]
  have places : List.range numEle.toNat = 0 :: (List.range more).map Nat.succ := by
    rw [isSucc, List.range_succ_eq_map]
  unfold parseConfigurationElements
  rw [List.length_map, List.length_range, List.foldlM_map, count, places,
    List.foldlM_cons, parseConfigurationElement_new _ primary (by omega) small,
    if_pos rfl, count]
  rcases netReserveAddressRange pool primary numEle with ⟨_ | _, rest⟩
  · rfl
  · simp only [if_true, Option.bind_eq_bind, Option.bind_some]
    refine foldlM_eq_self fun index member => ?_
    rcases List.mem_map.mp member with ⟨before, inside, rfl⟩
    have bound := List.mem_range.mp inside
    rw [parseConfigurationElement_new _ primary (by omega) small, if_neg (by omega)]

/-! ## The node -/

theorem get_newNodeRecord (node : MeshNode) :
    (newNodeRecord node).get "configuration" = some (newConfiguration node) := rfl

/-- The device key of a new record is read back. -/
theorem parseNodeIdentity_newNodeRecord (random : Option Key) (node : MeshNode) :
    parseNodeIdentity random false (newNodeRecord node) =
      some { MeshNode.new with devKey := node.devKey } := by
  rcases str2hex_keyText node.devKey
    (List.length_replicate : (List.replicate 16 (0 : Byte)).length = 16) with
    ⟨isRead, isKey⟩
  have record : (newNodeRecord node).get "deviceKey" =
      some (keyText node.devKey) := rfl
  have composition : (newNodeRecord node).get "composition" = none := rfl
  have ivIndex : (newNodeRecord node).get "IVindex" = none := rfl
  have seqNumber : (newNodeRecord node).get "sequenceNumber" = none := rfl
  unfold parseNodeIdentity readKey
  rw [record, composition, ivIndex, seqNumber]
  simp only [Option.bind_eq_bind, Option.bind_some]
  rw [isRead, isKey]
  rfl

/-- A new record is read back as a node with the same device key and addresses,
as far as these are free and its key list can be read. -/
theorem parseNode_newNodeRecord (random : Option Key) (appKeys : List MeshAppKey)
    (pool : List U32) {node : MeshNode} (positive : node.numEle ≠ 0) :
    parseNode random appKeys pool false (newNodeRecord node) =
      let (reserved, pool) :=
        netReserveAddressRange pool node.primary node.numEle
      if reserved then
        (parseNodeConfiguration appKeys
          { MeshNode.new with
            devKey := node.devKey
            numEle := node.numEle
            primary := node.primary } (newConfiguration node)).map
          fun node => (node, pool)
      else none := by
  have elements : (newConfiguration node).get "elements" = some (.array
      ((List.range node.numEle.toNat).map (newElementRecord node.primary))) := rfl
  unfold parseNode
  rw [parseNodeIdentity_newNodeRecord, get_newNodeRecord]
  simp only [Option.bind_eq_bind, Option.bind_some, elements, Json.items]
  rw [parseConfigurationElements_new _ pool node.primary positive]
  rcases netReserveAddressRange pool node.primary node.numEle with ⟨_ | _, rest⟩
  · rfl
  · simp only [if_true, Option.bind_some]
    cases parseNodeConfiguration appKeys _ (newConfiguration node) <;> rfl

/-! ## The file with a new node -/

theorem isObject_of_readJsonDb {env : LoadEnv} {file : Json} {db : LoadedDb}
    (read : readJsonDb env file = some db) : file.IsObject := by
  have settingsRead := (readJsonDb_eq_some_iff.mp read).1
  rcases Option.bind_eq_some_iff.mp settingsRead with ⟨ivIndex, isIvIndex, _⟩
  exact Json.isObject_of_get isIvIndex

/-- The records of a file that is read. -/
theorem readNodes_of_readJsonDb {env : LoadEnv} {file : Json} {db : LoadedDb}
    (read : readJsonDb env file = some db) :
    readNodes env db.settings.appKeys 0 db.settings.pool
      ((nodeRecords file).getD []) = some (db.nodes, db.pool) := by
  have nodesRead := (readJsonDb_eq_some_iff.mp read).2.1
  rw [readNodeList] at nodesRead
  cases isNodes : file.get "nodes" with
  | none =>
      rw [isNodes] at nodesRead
      rw [nodeRecords, isNodes]
      exact nodesRead
  | some nodes =>
      rw [isNodes] at nodesRead
      rcases Option.bind_eq_some_iff.mp nodesRead with ⟨records, array, isRead⟩
      rw [nodeRecords, isNodes, Option.bind_some, array]
      exact isRead

theorem provDbAddNewNode_positive {file after : Json} {node : MeshNode}
    (added : provDbAddNewNode file node = some after) : node.numEle ≠ 0 := by
  unfold provDbAddNewNode at added
  split at added
  · cases added
  · next positive => exact positive

/-- A new record is put behind the others. -/
theorem nodeRecords_addNewNode {env : LoadEnv} {file after : Json} {db : LoadedDb}
    (read : readJsonDb env file = some db) {node : MeshNode}
    (added : provDbAddNewNode file node = some after) :
    nodeRecords after =
      some ((nodeRecords file).getD [] ++ [newNodeRecord node]) := by
  have nodesRead := (readJsonDb_eq_some_iff.mp read).2.1
  unfold provDbAddNewNode at added
  split at added
  · cases added
  · split at added
    · cases added
    · split at added
      · next missing =>
          cases added
          rw [nodeRecords, nodeRecords, missing, Json.get_add_self
            (isObject_of_readJsonDb read) (Json.isValue_array _)]
          rfl
      · next nodes isNodes =>
          cases added
          rw [readNodeList, isNodes] at nodesRead
          rcases Option.bind_eq_some_iff.mp nodesRead with ⟨records, array, _⟩
          have pushed := Json.items_push array (newNodeRecord node)
          rw [nodeRecords, nodeRecords, Json.get_changeField_self isNodes
            (Json.isValue_of_items pushed), isNodes, Option.bind_some, pushed,
            Option.bind_some, array]
          rfl

theorem get_addNewNode {file after : Json} {node : MeshNode}
    (added : provDbAddNewNode file node = some after) (key : String)
    (different : key ≠ "nodes") : after.get key = file.get key := by
  unfold provDbAddNewNode at added
  split at added
  · cases added
  · split at added
    · cases added
    · split at added
      · cases added
        exact Json.get_add_ne file _ different
      · cases added
        exact Json.get_changeField_ne file different _

/-- The record of a new node is the last one that is read. -/
theorem readJsonDb_addNewNode {env : LoadEnv} {file after : Json} {db : LoadedDb}
    (read : readJsonDb env file = some db) {node : MeshNode}
    (added : provDbAddNewNode file node = some after) :
    readJsonDb env after =
      (parseNode (env.randomKey "nodes" db.nodes.length) db.settings.appKeys db.pool
        false (newNodeRecord node)).map fun parsed =>
          { db with
            nodes := db.nodes ++ [parsed.1]
            pool := parsed.2
            file := refreshedFile env after } := by
  have isRead := readNodes_of_readJsonDb read
  rw [readJsonDb_congr (get_addNewNode added) read,
    readNodeList_eq (nodeRecords_addNewNode read added), readNodes_append,
    isRead, Option.bind_some, ← readNodes_length isRead, Nat.zero_add]
  simp only [readNodes, Option.bind_eq_bind]
  cases parseNode (env.randomKey "nodes" db.nodes.length) db.settings.appKeys db.pool
    false (newNodeRecord node) <;> rfl

end Meshctl.Db
