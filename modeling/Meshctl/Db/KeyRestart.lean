import Meshctl.Db.KeyLists
import Meshctl.Db.NewNode

/-! # Key lists over a restart

The lists that are written for a node, and what it has after the next start. The
local node is read from a file of its own, in which its lists are never changed.
-/

namespace Meshctl.Db

open Net Text

/-! ## Updates -/

/-- One of a node's lists has changed and is written. -/
inductive KeyUpdate where
  | netKeys (idxs : List U16)
  | appKeys (entries : List U32)

namespace KeyUpdate

def applyTo (node : MeshNode) : KeyUpdate → MeshNode
  | .netKeys idxs => { node with netKeys := idxs }
  | .appKeys entries => { node with appKeys := entries }

/-- The list that is passed on, and its key. -/
def list : KeyUpdate → List U32 × String
  | .netKeys idxs => (idxs.map (·.setWidth 32), "netKeys")
  | .appKeys entries => (entries, "appKeys")

end KeyUpdate

/-- A file in which the node is not found stays as it is. -/
def updateKeys (state : MeshNode × Json) (update : KeyUpdate) :
    MeshNode × Json :=
  let node := update.applyTo state.1
  let written := provDbNodeKeys state.2 node update.list.1 update.list.2
  (node, written.getD state.2)

def updateKeyLists (node : MeshNode) (file : Json)
    (updates : List KeyUpdate) : MeshNode × Json :=
  updates.foldl updateKeys (node, file)

/-- Each of the lists has been written by the program, before the updates or by
one of them. -/
structure WritesKeyLists (node : MeshNode) (config : Json)
    (updates : List KeyUpdate) : Prop where
  netKeys : StoresNetKeys node config ∨
    ∃ idxs, KeyUpdate.netKeys idxs ∈ updates
  appKeys : StoresAppKeys node config ∨
    ∃ entries, KeyUpdate.appKeys entries ∈ updates

/-! ## What an update leaves in a configuration -/

theorem setNodeKeys_isValue (idxs : List U32) (desc : String) {config : Json}
    (isValue : config.IsValue) : (setNodeKeys idxs desc config).IsValue := by
  unfold setNodeKeys
  split
  · exact isValue.del desc
  · exact (isValue.del desc).add desc _

theorem setNodeKeys_isObject (idxs : List U32) (desc : String) {config : Json}
    (object : config.IsObject) : (setNodeKeys idxs desc config).IsObject := by
  unfold setNodeKeys
  split
  · exact object.del desc
  · exact (object.del desc).add desc _

theorem get_setNodeKeys_ne (idxs : List U32) (desc : String) (config : Json)
    {key : String} (different : key ≠ desc) :
    (setNodeKeys idxs desc config).get key = config.get key := by
  unfold setNodeKeys
  split
  · exact Json.get_del_ne config different
  · exact (Json.get_add_ne _ _ different).trans (Json.get_del_ne config different)

theorem get_setNodeKeys_self (idxs : List U32) (desc : String) {config : Json}
    (object : config.IsObject) :
    (setNodeKeys idxs desc config).get desc =
      if idxs = [] then none else some (putUint16List idxs) := by
  unfold setNodeKeys
  cases idxs with
  | nil => exact Json.get_del_self config desc
  | cons idx idxs =>
      exact Json.get_add_self (object.del desc) (Json.isValue_array _) desc

/-- Writing a list keeps the other one. -/
theorem WritesKeyLists.update {node : MeshNode} {config : Json}
    {update : KeyUpdate} {updates : List KeyUpdate} (object : config.IsObject)
    (writes : WritesKeyLists node config (update :: updates)) :
    WritesKeyLists (update.applyTo node)
      (setNodeKeys update.list.1 update.list.2 config) updates := by
  cases update with
  | netKeys idxs =>
      refine ⟨.inl ?_, writes.appKeys.imp ?_ ?_⟩
      · unfold StoresNetKeys
        rw [KeyUpdate.list, get_setNodeKeys_self _ _ object,
          putUint16List_netKeys]
        cases idxs with
        | nil => exact .inr ⟨rfl, rfl⟩
        | cons idx idxs => exact .inl rfl
      · exact fun stored =>
          (get_setNodeKeys_ne _ _ config (by decide : "appKeys" ≠ "netKeys")).trans
            stored
      · rintro ⟨entries, member⟩
        exact ⟨entries, by simpa using member⟩
  | appKeys entries =>
      refine ⟨writes.netKeys.imp ?_ ?_, .inl ?_⟩
      · intro stored
        unfold StoresNetKeys
        rw [KeyUpdate.list,
          get_setNodeKeys_ne _ _ config (by decide : "netKeys" ≠ "appKeys")]
        exact stored
      · rintro ⟨idxs, member⟩
        exact ⟨idxs, by simpa using member⟩
      · unfold StoresAppKeys
        rw [KeyUpdate.list, get_setNodeKeys_self _ _ object,
          putUint16List_appKeys]
        rfl

@[simp] theorem KeyUpdate.applyTo_primary (node : MeshNode)
    (update : KeyUpdate) : (update.applyTo node).primary = node.primary := by
  cases update <;> rfl

/-- The updates change the configuration of one record, but not its elements, and
leave the lists of the node in it. -/
theorem updateKeyLists_changes (updates : List KeyUpdate) {node : MeshNode}
    {file : Json} {index : Nat}
    (found : findNodeByPrimary file node.primary = some index) :
    ∃ change configure,
      RecordChanged file (updateKeyLists node file updates).2 index change ∧
      Reconfigures change configure ∧
      (∀ config : Json,
        (configure config).get "elements" = config.get "elements") ∧
      ∀ config : Json, config.IsObject → WritesKeyLists node config updates →
        StoresKeyLists (updateKeyLists node file updates).1 (configure config) := by
  induction updates generalizing node file with
  | nil =>
      refine ⟨id, id, .refl file index, .refl, fun _ => rfl, fun config _ writes => ?_⟩
      exact ⟨writes.netKeys.resolve_right (by simp),
        writes.appKeys.resolve_right (by simp)⟩
  | cons update updates induction =>
      let configure := setNodeKeys update.list.1 update.list.2
      let change := Json.changeField "configuration" configure
      have stepped : updateKeys (node, file) update =
          (update.applyTo node, changeRecord file index change) := by
        rw [updateKeys, provDbNodeKeys, KeyUpdate.applyTo_primary, found]
        rfl
      have elements : ∀ config : Json,
          (configure config).get "elements" = config.get "elements" := by
        intro config
        cases update with
        | netKeys idxs =>
            exact get_setNodeKeys_ne _ "netKeys" config (by decide)
        | appKeys entries =>
            exact get_setNodeKeys_ne _ "appKeys" config (by decide)
      have configures : Reconfigures change configure :=
        reconfigures_changeField fun config isValue =>
          setNodeKeys_isValue _ _ isValue
      have changed := recordChanged_changeRecord file index change
      have foundAgain : findNodeByPrimary (changeRecord file index change)
          (update.applyTo node).primary = some index := by
        rw [changed.findNodeByPrimary (configures.recordPrimary elements),
          KeyUpdate.applyTo_primary, found]
      rcases induction foundAgain with
        ⟨more, reconfigure, moreChanged, reconfigures, moreElements, stores⟩
      rw [updateKeyLists, List.foldl_cons, stepped]
      refine ⟨more ∘ change, reconfigure ∘ configure, changed.trans moreChanged,
        configures.trans reconfigures,
        fun config => (moreElements _).trans (elements config),
        fun config object writes => ?_⟩
      exact stores _ (setNodeKeys_isObject _ _ object) (writes.update object)

/-! ## After the next start -/

/-- The node in a place of the database that is read has the lists of a node. -/
def ListsSurvive (env : LoadEnv) (localFile file : Json) (index : Nat)
    (node : MeshNode) : Prop :=
  ∃ localNode db loaded, readAtStart env localFile file = some (localNode, db) ∧
    db.nodes[index]? = some loaded ∧ SameKeyLists loaded node

theorem readAtStart_eq_some_iff {env : LoadEnv} {localFile file : Json}
    {localNode : MeshNode} {db : LoadedDb} :
    readAtStart env localFile file = some (localNode, db) ↔
      readLocalNode env localFile = some localNode ∧
        readJsonDb env file = some db := by
  unfold readAtStart
  simp only [Option.bind_eq_bind, Option.bind_eq_some_iff, Option.some.injEq,
    Prod.mk.injEq]
  constructor
  · rintro ⟨_, localRead, _, dbRead, rfl, rfl⟩
    exact ⟨localRead, dbRead⟩
  · rintro ⟨localRead, dbRead⟩
    exact ⟨localNode, localRead, db, dbRead, rfl, rfl⟩

section

variable {env : LoadEnv} {localFile file : Json} {localNode : MeshNode}
  {db : LoadedDb}

theorem remote_lists_survive_iff
    (read : readAtStart env localFile file = some (localNode, db))
    {node : MeshNode} {index : Nat}
    (found : findNodeByPrimary file node.primary = some index)
    {updates : List KeyUpdate}
    (writes : ∀ records record config, nodeRecords file = some records →
      records[index]? = some record → record.get "configuration" = some config →
      WritesKeyLists node config updates) :
    ListsSurvive env localFile (updateKeyLists node file updates).2 index
        (updateKeyLists node file updates).1 ↔
      KeyListsReadable db.settings.appKeys
        (updateKeyLists node file updates).1 := by
  rcases readAtStart_eq_some_iff.mp read with ⟨localRead, dbRead⟩
  rcases findNodeByPrimary_spec found with
    ⟨records, record, areRecords, _, atIndex, isPrimary⟩
  rcases configuration_of_recordPrimary isPrimary with ⟨config, isConfig, object⟩
  rcases updateKeyLists_changes updates found with
    ⟨change, configure, changed, configures, elements, stores⟩
  rcases readJsonDb_recordChanged dbRead changed areRecords atIndex with
    ⟨before, next, loaded, parsed, isLoaded, reread⟩
  rcases parseNode_reconfigured parsed (configures.others record) isConfig
    ((configures.configuration record).trans (congrArg _ isConfig))
    (elements config) with ⟨placed, noNetKeys, noAppKeys, reparsed⟩
  rw [reparsed] at reread
  have after := reread fun other final isOther => by
    rcases Option.map_eq_some_iff.mp isOther with ⟨_, _, same⟩
    exact (Prod.mk.inj same).2.symm
  have stored := stores config object
    (writes records record config areRecords atIndex isConfig)
  rw [← parseNodeConfiguration_iff db.settings.appKeys noNetKeys noAppKeys stored]
  have inside : index < db.nodes.length :=
    (List.getElem?_eq_some_iff.mp isLoaded).1
  constructor
  · rintro ⟨_, _, reloaded, isRead, atPlace, same⟩
    have fileRead := (readAtStart_eq_some_iff.mp isRead).2
    rw [after, Option.map_map] at fileRead
    rcases Option.map_eq_some_iff.mp fileRead with ⟨configured, isConfigured, rfl⟩
    refine ⟨reloaded, isConfigured.trans (congrArg some ?_), same⟩
    simpa [inside] using atPlace
  · rintro ⟨reloaded, isReloaded, same⟩
    rw [isReloaded] at after
    exact ⟨localNode, _, reloaded, readAtStart_eq_some_iff.mpr ⟨localRead, after⟩,
      by simp [inside], same⟩

theorem new_lists_survive_iff
    (read : readAtStart env localFile file = some (localNode, db))
    {node : MeshNode} {after : Json}
    (added : provDbAddNewNode file node = some after)
    (noAppKeys : node.appKeys = []) :
    ListsSurvive env localFile after db.nodes.length node ↔
      (netReserveAddressRange db.pool node.primary node.numEle).1 = true ∧
        KeyListsReadable db.settings.appKeys node := by
  rcases readAtStart_eq_some_iff.mp read with ⟨localRead, dbRead⟩
  have reread := readJsonDb_addNewNode dbRead added
  rw [parseNode_newNodeRecord _ _ _ (provDbAddNewNode_positive added)] at reread
  have stored : StoresKeyLists node (newConfiguration node) := by
    constructor
    · exact .inl (congrArg some (putUint16List_netKeys node.netKeys))
    · unfold StoresAppKeys
      rw [if_pos noAppKeys]
      rfl
  have readable := @parseNodeConfiguration_iff db.settings.appKeys
    { MeshNode.new with
      devKey := node.devKey
      numEle := node.numEle
      primary := node.primary } node _ rfl rfl stored
  rw [← readable]
  rcases reserves : netReserveAddressRange db.pool node.primary node.numEle with
    ⟨_ | _, pool⟩
  · simp only [reserves, Bool.false_eq_true, if_false, Option.map_none] at reread
    constructor
    · rintro ⟨_, _, _, isRead, _⟩
      rw [(readAtStart_eq_some_iff.mp isRead).2] at reread
      cases reread
    · rintro ⟨reserved, _⟩
      cases reserved
  · simp only [reserves, if_true, Option.map_map] at reread
    constructor
    · rintro ⟨_, _, loaded, isRead, atPlace, same⟩
      rw [(readAtStart_eq_some_iff.mp isRead).2] at reread
      rcases Option.map_eq_some_iff.mp reread.symm with
        ⟨configured, isConfigured, rfl⟩
      refine ⟨rfl, loaded, isConfigured.trans (congrArg some ?_), same⟩
      simpa using atPlace
    · rintro ⟨_, loaded, isLoaded, same⟩
      rw [isLoaded] at reread
      exact ⟨localNode, _, loaded,
        readAtStart_eq_some_iff.mpr ⟨localRead, reread⟩, by simp, same⟩

/-! ### The local node -/

theorem parseNodeKeys_invariant {keyAdd : MeshNode → U16 → Option MeshNode}
    (Invariant : MeshNode → Prop)
    (keeps : ∀ node idx next, Invariant node → keyAdd node idx = some next →
      Invariant next)
    {node : MeshNode} (initial : Invariant node) (idxs : List Json) :
    Invariant (parseNodeKeys keyAdd node idxs).1 := by
  induction idxs generalizing node with
  | nil => exact initial
  | cons item items induction =>
      rw [parseNodeKeys]
      cases item.pointer with
      | none => exact initial
      | some value =>
          simp only
          split
          · refine induction ?_
            cases added : keyAdd node (BitVec.ofInt 16 (Json.getInt (some value))) with
            | none => exact initial
            | some next => exact keeps node _ next initial added
          · exact initial

/-- Without key tables no application key is added to a node. -/
theorem parseNodeConfiguration_noAppKeys {node next : MeshNode} {config : Json}
    (noAppKeys : node.appKeys = [])
    (parsed : parseNodeConfiguration [] node config = some next) :
    next.appKeys = [] := by
  unfold parseNodeConfiguration at parsed
  rcases Option.bind_eq_some_iff.mp parsed with ⟨netKeys, _, more⟩
  rcases Option.bind_eq_some_iff.mp more with ⟨idxs, _, more⟩
  simp only at more
  split at more
  · cases more
  · rcases Option.bind_eq_some_iff.mp more with ⟨between, appKeysParsed, ttl⟩
    refine parseIfPresent_invariant (fun node => node.appKeys = []) ?_ ?_ ttl
    · intro node value next same step
      cases step
      exact same
    refine parseIfPresent_invariant (fun node => node.appKeys = []) ?_ ?_
      appKeysParsed
    · intro node value next same step
      rcases Option.bind_eq_some_iff.mp step with ⟨items, _, isNext⟩
      cases isNext
      refine parseNodeKeys_invariant (fun node => node.appKeys = []) ?_ same items
      intro node idx next _ added
      cases added
    · refine parseNodeKeys_invariant (fun node => node.appKeys = []) ?_ noAppKeys idxs
      intro node idx next same added
      unfold MeshNode.netKeyAdd at added
      split at added
      · cases added
      · cases added
        exact same

theorem readLocalNode_noAppKeys
    (read : readLocalNode env localFile = some localNode) :
    localNode.appKeys = [] := by
  rcases Option.bind_eq_some_iff.mp read with ⟨record, _, more⟩
  rcases Option.bind_eq_some_iff.mp more with ⟨⟨node, pool⟩, parsed, isNode⟩
  cases isNode
  unfold parseNode at parsed
  rcases Option.bind_eq_some_iff.mp parsed with ⟨start, identity, more⟩
  have fresh := (parseNodeIdentity_keys identity).2
  split at more
  · cases more
    exact fresh
  · rcases Option.bind_eq_some_iff.mp more with ⟨elements, _, more⟩
    rcases Option.bind_eq_some_iff.mp more with ⟨items, _, more⟩
    rcases Option.bind_eq_some_iff.mp more with ⟨⟨placed, next⟩, isPlaced, more⟩
    rcases Option.bind_eq_some_iff.mp more with ⟨loaded, configured, isLoaded⟩
    cases isLoaded
    exact parseNodeConfiguration_noAppKeys
      ((parseConfigurationElements_keys isPlaced).2.trans fresh) configured

/-- The record of the local node is not in the node list. -/
theorem updateKeyLists_localRecord (node : MeshNode) (file : Json)
    (updates : List KeyUpdate) :
    (updateKeyLists node file updates).2.get "node" = file.get "node" := by
  induction updates generalizing node file with
  | nil => rfl
  | cons update updates induction =>
      rw [updateKeyLists, List.foldl_cons]
      refine (induction (updateKeys (node, file) update).1
        (updateKeys (node, file) update).2).trans ?_
      rw [updateKeys, provDbNodeKeys]
      cases findNodeByPrimary file (update.applyTo node).primary with
      | none => rfl
      | some index => exact Json.get_changeField_ne file (by decide) _

theorem local_lists_survive_iff
    (read : readAtStart env localFile file = some (localNode, db))
    (updates : List KeyUpdate) :
    (∃ reloaded db, readAtStart env
        (updateKeyLists localNode localFile updates).2 file = some (reloaded, db) ∧
      SameKeyLists reloaded (updateKeyLists localNode localFile updates).1) ↔
    (updateKeyLists localNode localFile updates).1.netKeys = localNode.netKeys ∧
      (updateKeyLists localNode localFile updates).1.appKeys = [] := by
  rcases readAtStart_eq_some_iff.mp read with ⟨localRead, dbRead⟩
  have reread : readLocalNode env (updateKeyLists localNode localFile updates).2 =
      some localNode := by
    unfold readLocalNode at localRead ⊢
    rw [updateKeyLists_localRecord]
    exact localRead
  have noAppKeys := readLocalNode_noAppKeys localRead
  constructor
  · rintro ⟨reloaded, other, isRead, sameNetKeys, sameAppKeys⟩
    cases reread.symm.trans (readAtStart_eq_some_iff.mp isRead).1
    exact ⟨sameNetKeys.symm, sameAppKeys.symm.trans noAppKeys⟩
  · rintro ⟨sameNetKeys, none⟩
    exact ⟨localNode, db, readAtStart_eq_some_iff.mpr ⟨reread, dbRead⟩,
      sameNetKeys.symm, noAppKeys.trans none.symm⟩

end

/-! ## Key lists over a restart -/

/-- A remote node that is read again has the lists that were written for it
exactly when every index is its own decimal reading, and the same holds of a new
node. The local node comes back as it was read before, without application
keys. -/
theorem key_lists_survive_iff (env : LoadEnv) (localFile file : Json)
    (localNode : MeshNode) (db : LoadedDb)
    (read : readAtStart env localFile file = some (localNode, db)) :
    (∀ (node : MeshNode) (index : Nat) (updates : List KeyUpdate),
      findNodeByPrimary file node.primary = some index →
      (∀ records record config, nodeRecords file = some records →
        records[index]? = some record →
        record.get "configuration" = some config →
        WritesKeyLists node config updates) →
      let (node, after) := updateKeyLists node file updates
      ListsSurvive env localFile after index node ↔
        KeyListsReadable db.settings.appKeys node) ∧
    (∀ (node : MeshNode) (after : Json),
      provDbAddNewNode file node = some after → node.appKeys = [] →
      (ListsSurvive env localFile after db.nodes.length node ↔
        (netReserveAddressRange db.pool node.primary node.numEle).1 = true ∧
          KeyListsReadable db.settings.appKeys node)) ∧
    ∀ updates : List KeyUpdate,
      let (node, after) := updateKeyLists localNode localFile updates
      (∃ reloaded db, readAtStart env after file = some (reloaded, db) ∧
        SameKeyLists reloaded node) ↔
      node.netKeys = localNode.netKeys ∧ node.appKeys = [] :=
  ⟨fun _ _ _ found writes => remote_lists_survive_iff read found writes,
    fun _ _ added noAppKeys => new_lists_survive_iff read added noAppKeys,
    local_lists_survive_iff read⟩

def smallNode : MeshNode :=
  { MeshNode.new with netKeys := [0], primary := 2, numEle := 1 }

def smallLocalNode : MeshNode :=
  { MeshNode.new with
    elements := [{ index := 0, loc := 0, models := [] }]
    numEle := 1
    comp := some { relay := false, proxy := false, lpn := false, friend := false,
                   cid := 0, pid := 0, vid := 0, crpl := 0 } }

def readableUpdates : List KeyUpdate :=
  [.appKeys [], .netKeys [0], .appKeys [MeshNode.packAppKey 0 1]]

theorem key_lists_survive_iff_small :
    ListsSurvive smallEnv smallLocalFile
        (updateKeyLists smallNode smallFile readableUpdates).2 0
        (updateKeyLists smallNode smallFile readableUpdates).1 ∧
      (∃ after, provDbAddNewNode smallFile { smallNode with primary := 3 } =
          some after ∧
        ListsSurvive smallEnv smallLocalFile after 1
          { smallNode with primary := 3 }) ∧
      ∃ reloaded db, readAtStart smallEnv
        (updateKeyLists smallLocalNode smallLocalFile [.netKeys []]).2 smallFile =
          some (reloaded, db) ∧
        SameKeyLists reloaded
          (updateKeyLists smallLocalNode smallLocalFile [.netKeys []]).1 := by
  have facts : (readAtStart smallEnv smallLocalFile smallFile).map (fun read =>
      (read.1, read.2.nodes.length, decide (KeyListsReadable
        read.2.settings.appKeys
        (updateKeyLists smallNode smallFile readableUpdates).1),
      decide (KeyListsReadable read.2.settings.appKeys
        { smallNode with primary := 3 }),
      (netReserveAddressRange read.2.pool 3 1).1)) =
        some (smallLocalNode, 1, true, true, true) := by
    decide +kernel
  rcases Option.map_eq_some_iff.mp facts with ⟨⟨localNode, db⟩, read, isRead⟩
  simp only [Prod.mk.injEq, decide_eq_true_eq] at isRead
  rcases isRead with ⟨isLocal, oneNode, readable, newReadable, reserved⟩
  rcases key_lists_survive_iff smallEnv smallLocalFile smallFile localNode db read
    with ⟨remote, new, ofLocal⟩
  refine ⟨?_, ?_, ?_⟩
  · refine (remote smallNode 0 readableUpdates (by decide +kernel) ?_).mpr readable
    intro _ _ _ _ _ _
    exact ⟨.inr ⟨[0], by simp [readableUpdates]⟩,
      .inr ⟨[], by simp [readableUpdates]⟩⟩
  · refine ⟨_, rfl, ?_⟩
    have survives := new { smallNode with primary := 3 } _ rfl rfl
    rw [oneNode] at survives
    exact survives.mpr ⟨reserved, newReadable⟩
  · cases isLocal
    exact (ofLocal [.netKeys []]).mpr ⟨rfl, rfl⟩

/-- All keys of a node are in the key tables. -/
def KnownKeys (settings : NetworkSettings) (node : MeshNode) : Prop :=
  (∀ idx ∈ node.netKeys, idx.toNat ≤ 4095 ∧
    idx ∈ settings.netKeys.map (·.idx)) ∧
  ∀ entry ∈ node.appKeys, (appIndex entry).toNat ≤ 4095 ∧
    BoundTo settings.appKeys node.netKeys entry

def unreadableUpdates : List KeyUpdate := [.netKeys [16], .appKeys []]

/-- The index 16 is written as `0010`, which is read as 10. -/
theorem key_lists_not_always_survive :
    ¬∀ (env : LoadEnv) (localFile file : Json) (localNode : MeshNode)
        (db : LoadedDb) (node : MeshNode) (index : Nat) (updates : List KeyUpdate),
      readAtStart env localFile file = some (localNode, db) →
      findNodeByPrimary file node.primary = some index →
      (∀ records record config, nodeRecords file = some records →
        records[index]? = some record →
        record.get "configuration" = some config →
        WritesKeyLists node config updates) →
      KnownKeys db.settings (updateKeyLists node file updates).1 →
      ListsSurvive env localFile (updateKeyLists node file updates).2 index
        (updateKeyLists node file updates).1 := by
  intro survive
  have keyTable : (readAtStart smallEnv smallLocalFile smallFile).map
      (fun read => read.2.settings.netKeys.map (·.idx)) = some [0, 16] := by
    decide +kernel
  have reread : ((readAtStart smallEnv smallLocalFile
      (updateKeyLists smallNode smallFile unreadableUpdates).2).bind
        fun read => read.2.nodes[0]?).map (·.netKeys) = some [10] := by
    decide +kernel
  rcases Option.map_eq_some_iff.mp keyTable with ⟨⟨localNode, db⟩, read, isTable⟩
  have known : KnownKeys db.settings
      (updateKeyLists smallNode smallFile unreadableUpdates).1 := by
    constructor
    · intro idx member
      rw [isTable, List.mem_singleton.mp member]
      exact ⟨by decide, by decide⟩
    · intro entry member
      cases member
  rcases survive smallEnv smallLocalFile smallFile localNode db smallNode 0
    unreadableUpdates read (by decide +kernel)
    (fun _ _ _ _ _ _ => ⟨.inr ⟨[16], by simp [unreadableUpdates]⟩,
      .inr ⟨[], by simp [unreadableUpdates]⟩⟩)
    known with ⟨_, _, loaded, isRead, atPlace, same, _⟩
  rw [isRead, Option.bind_some, atPlace, Option.map_some, same] at reread
  exact absurd reread (by decide)

end Meshctl.Db
