import Meshctl.Db.Settings
import Meshctl.Db.StoredConfiguration

/-! # Reading numbers that were stored

A record whose replay data or TTL were replaced is read as the same node with
other replay data or another TTL, and takes the same addresses.
-/

namespace Meshctl.Db

open Net Text Commutation

/-! ## Replaced numbers -/

section Replaced

variable {jobj : Json} {desc key : String} {value : Int}

theorem get_replaceInt_self (object : jobj.IsObject) :
    (replaceInt desc value jobj).get desc = some (.int value) :=
  Json.get_add_self (object.del desc) (Json.isValue_int value) desc

theorem get_replaceInt_ne (different : key ≠ desc) :
    (replaceInt desc value jobj).get key = jobj.get key :=
  (Json.get_add_ne _ _ different).trans (Json.get_del_ne jobj different)

theorem replaceInt_isObject (object : jobj.IsObject) :
    (replaceInt desc value jobj).IsObject :=
  (object.del desc).add desc _

theorem replaceInt_isValue (isValue : jobj.IsValue) :
    (replaceInt desc value jobj).IsValue :=
  (isValue.del desc).add desc _

/-- A 32-bit number is stored as a signed one and read back as it was. -/
theorem ofInt_getInt_toInt (value : U32) :
    BitVec.ofInt 32 (Json.getInt (some (.int value.toInt))) = value := by
  have least := BitVec.le_toInt value
  have most := BitVec.toInt_lt (x := value)
  have kept : Json.getInt (some (.int value.toInt)) = value.toInt := by
    rw [Json.getInt, Json.clampInt32]
    omega
  rw [kept, BitVec.ofInt_toInt]

theorem ofInt_getInt_ttl (ttl : Byte) :
    BitVec.ofInt 8 (Json.getInt (some (.int ttl.toNat))) = ttl := by
  have small := ttl.isLt
  rw [Json.getInt_int (by omega), BitVec.ofInt_natCast, BitVec.ofNat_toNat,
    BitVec.setWidth_eq]

end Replaced

/-! ## Replay data are not looked at -/

section Nodes

variable {eleIdx : Byte} {modelId : U32}

theorem setElement_ignores :
    Ignores MeshNode.setReplay fun node => node.setElement eleIdx :=
  Ignores.guarded (fun _ _ => Iff.rfl) fun _ _ => rfl

theorem setModel_ignores :
    Ignores MeshNode.setReplay fun node => node.setModel eleIdx modelId :=
  Ignores.guarded (fun _ _ => Iff.rfl) fun _ _ => rfl

theorem setComposition_ignores (comp : MeshNodeComposition) :
    Ignores MeshNode.setReplay fun node => node.setComposition comp :=
  Ignores.guarded (fun _ _ => Iff.rfl) fun _ _ => rfl

theorem netKeyAdd_ignoresReplay (idx : U16) :
    Ignores MeshNode.setReplay fun node => node.netKeyAdd idx :=
  Ignores.guarded (fun _ _ => Iff.rfl) fun _ _ => rfl

theorem appKeyAdd_ignoresReplay (appKeys : List MeshAppKey) (idx : U16) :
    Ignores MeshNode.setReplay fun node => node.appKeyAdd appKeys idx :=
  Ignores.guarded (fun _ _ => Iff.rfl) <|
    Ignores.guarded (fun _ _ => Iff.rfl) <|
      Ignores.guarded (fun _ _ => Iff.rfl) fun _ _ => rfl

theorem updateModel_ignores (update : MeshModel → Option MeshModel) :
    Ignores MeshNode.setReplay (updateModel eleIdx modelId update) := by
  apply ignores_onPart
  · exact fun _ _ => rfl
  · exact fun _ _ _ => rfl

/-! ### The loops over keys -/

section Loops

variable {Part : Type} {set : MeshNode → Part → MeshNode}

theorem parseNodeKeys_ignoring {keyAdd : MeshNode → U16 → Option MeshNode}
    (ignores : ∀ idx, Ignores set fun node => keyAdd node idx)
    (items : List Json) (node : MeshNode) (part : Part) :
    parseNodeKeys keyAdd (set node part) items =
      (set (parseNodeKeys keyAdd node items).1 part,
        (parseNodeKeys keyAdd node items).2) := by
  induction items generalizing node with
  | nil => rfl
  | cons item items induction =>
      simp only [parseNodeKeys]
      cases item.pointer with
      | none => rfl
      | some value =>
          dsimp only
          split
          · have added := ignores (BitVec.ofInt 16 (Json.getInt (some value))) node part
            dsimp only at added
            rw [added, Option.getD_map, induction]
          · rfl

theorem parseIfPresent_ignoring {parse : MeshNode → Json → Option MeshNode}
    (ignores : ∀ value, Ignores set fun node => parse node value)
    (value : Option Json) :
    Ignores set fun node => parseIfPresent parse node value := by
  cases value with
  | none => exact fun _ _ => rfl
  | some value => exact ignores value

end Loops

theorem parseAppKeys_ignoresReplay (appKeys : List MeshAppKey) (idxs : Json) :
    Ignores MeshNode.setReplay fun node => parseAppKeys appKeys node idxs := by
  refine Ignores.given fun items node replay => ?_
  simp only [Option.map_some, parseNodeKeys_ignoring (appKeyAdd_ignoresReplay appKeys)]

theorem parseNodeConfiguration_ignoresReplay (appKeys : List MeshAppKey)
    (config : Json) :
    Ignores MeshNode.setReplay fun node =>
      parseNodeConfiguration appKeys node config := by
  have ttl (value : Json) : Ignores MeshNode.setReplay fun node =>
      parseDefaultTtl node value := fun _ _ => rfl
  refine Ignores.given fun netKeys => Ignores.given fun items node replay => ?_
  dsimp only
  rw [parseNodeKeys_ignoring netKeyAdd_ignoresReplay]
  dsimp only
  split
  · rfl
  · exact (parseIfPresent_ignoring (parseAppKeys_ignoresReplay appKeys) _).bind
      (parseIfPresent_ignoring ttl _) _ replay

/-! ### Composition -/

theorem parseCompositionModels_ignores (index : Byte) (models : List Json) :
    Ignores MeshNode.setReplay fun node =>
      parseCompositionModels node index models := by
  refine Ignores.foldlM fun model _ => Ignores.given fun modelId node replay => ?_
  have set := @setModel_ignores index modelId node replay
  dsimp only at set
  rw [set, Option.getD_map]
  rfl

theorem parseCompositionElement_ignores (count : Nat) (element : Json) :
    Ignores MeshNode.setReplay fun node =>
      parseCompositionElement count node element := by
  refine Ignores.given fun value => Ignores.guarded (fun _ _ => Iff.rfl) <|
    setElement_ignores.bind ?_
  cases element.get "models" with
  | none => exact fun _ _ => rfl
  | some models =>
      exact Ignores.given fun items => parseCompositionModels_ignores _ items

theorem parseNodeComposition_ignores (comp : Json) :
    Ignores MeshNode.setReplay fun node => parseNodeComposition node comp := by
  refine Ignores.given fun cid => Ignores.given fun pid => Ignores.given fun vid =>
    Ignores.given fun crpl => Ignores.given fun features =>
      (setComposition_ignores _).bind <| Ignores.given fun elements =>
        Ignores.given fun items node replay => ?_
  exact Ignores.foldlM (fun element _ =>
    parseCompositionElement_ignores items.length element)
    { node with numEle := BitVec.ofNat 8 items.length } replay

/-! ### Configuration -/

theorem modelUpdates_ignore (eleIdx : Byte) (modelId : U32) :
    (∀ appIdx, Ignores MeshNode.setReplay fun node =>
        node.addBinding eleIdx modelId appIdx) ∧
      (∀ addr, Ignores MeshNode.setReplay fun node =>
        node.addSubscription eleIdx modelId addr) ∧
      ∀ pub, Ignores MeshNode.setReplay fun node =>
        node.modelPubSet eleIdx modelId pub := by
  simp only [addBinding_eq, addSubscription_eq, modelPubSet_eq]
  exact ⟨fun _ => updateModel_ignores _, fun _ => updateModel_ignores _,
    fun _ => updateModel_ignores _⟩

theorem parseBindings_ignores (bindings : List Json) :
    Ignores MeshNode.setReplay fun node =>
      parseBindings eleIdx modelId node bindings := by
  induction bindings with
  | nil => exact fun _ _ => rfl
  | cons item items induction =>
      simp only [parseBindings]
      cases item.pointer with
      | none => exact fun _ _ => rfl
      | some value =>
          dsimp only
          split
          · exact ((modelUpdates_ignore eleIdx modelId).1 _).bind induction
          · exact fun _ _ => rfl

theorem parseSubscriptions_ignores (subscriptions : List Json) :
    Ignores MeshNode.setReplay fun node =>
      parseSubscriptions eleIdx modelId node subscriptions :=
  Ignores.foldlM fun _ _ => Ignores.given fun addr =>
    (modelUpdates_ignore eleIdx modelId).2.1 addr

theorem parseModelPub_ignores (pub : Json) :
    Ignores MeshNode.setReplay fun node =>
      parseModelPub eleIdx modelId node pub :=
  Ignores.given fun _ => Ignores.given fun _ =>
    (modelUpdates_ignore eleIdx modelId).2.2 _

theorem parseConfigurationModel_ignores (model : Json) :
    Ignores MeshNode.setReplay fun node =>
      parseConfigurationModel eleIdx node model := by
  refine Ignores.given fun modelId => ?_
  refine (parseIfPresent_ignoring (fun _ => ?_) _).bind <|
    (parseIfPresent_ignoring (fun _ => ?_) _).bind <|
      parseIfPresent_ignoring parseModelPub_ignores _
  · exact Ignores.given parseBindings_ignores
  · exact Ignores.given parseSubscriptions_ignores

theorem parseElementModels_ignores (models : Json) :
    Ignores MeshNode.setReplay fun node =>
      parseElementModels eleIdx node models :=
  Ignores.given fun _ => Ignores.foldlM fun model _ =>
    parseConfigurationModel_ignores model

end Nodes

/-! ### Elements -/

def setPlacedReplay (placed : PlacedNode) (replay : U32 × U32) : PlacedNode :=
  (placed.1.setReplay replay, placed.2)

theorem placeNode_ignoresReplay (count : Nat) (isLocal : Bool) (index : Int)
    (element : Json) :
    Ignores setPlacedReplay fun placed =>
      placeNode count isLocal index placed element := by
  intro placed replay
  have samePool : (setPlacedReplay placed replay).2 = placed.2 := rfl
  simp only [placeNode, samePool]
  split
  · cases parsePrimary count isLocal placed.2 element with
    | none => rfl
    | some result => rfl
  · rfl

theorem parseConfigurationElement_ignores (count : Nat) (isLocal : Bool)
    (element : Json) :
    Ignores setPlacedReplay fun placed =>
      parseConfigurationElement count isLocal placed element := by
  refine Ignores.given fun value => Ignores.guarded (fun _ _ => Iff.rfl) <|
    (placeNode_ignoresReplay _ _ _ _).bind fun placed replay => ?_
  have models := parseIfPresent_ignoring
    (@parseElementModels_ignores (BitVec.ofInt 8 (Json.getInt (some value))))
    (element.get "models") placed.1 replay
  dsimp only [setPlacedReplay] at models ⊢
  rw [models]
  cases parseIfPresent (parseElementModels (BitVec.ofInt 8 (Json.getInt (some value))))
    placed.1 (element.get "models") with
  | none => rfl
  | some node => rfl

theorem parseConfigurationElements_ignores (isLocal : Bool)
    (elements : List Json) :
    Ignores setPlacedReplay fun placed =>
      parseConfigurationElements placed.1 placed.2 isLocal elements := by
  intro placed replay
  exact Ignores.foldlM (fun element _ =>
      parseConfigurationElement_ignores elements.length isLocal element)
    ({ placed.1 with numEle := BitVec.ofNat 8 elements.length }, placed.2) replay

/-! ## A record -/

section Record

variable {random : Option Key} {appKeys : List MeshAppKey} {pool : List U32}
  {isLocal : Bool} {record other config : Json}

/-- The replay data that a record says. -/
def storedReplay (record : Json) : U32 × U32 :=
  (BitVec.ofInt 32 (Json.getInt (record.get "IVindex")),
    BitVec.ofInt 32 (Json.getInt (record.get "sequenceNumber")))

/-- The fields of a record besides its replay data. -/
def nodeFields : List String := ["deviceKey", "composition", "configuration"]

theorem parseNodeIdentity_replay
    (same : ∀ key ∈ nodeFields, other.get key = record.get key) :
    parseNodeIdentity random isLocal other =
      (parseNodeIdentity random isLocal record).map
        (·.setReplay (storedReplay other)) := by
  unfold parseNodeIdentity readKey
  rw [same "deviceKey" (by decide), same "composition" (by decide)]
  simp only [Option.bind_eq_bind, Option.map_bind]
  congr 1
  funext key
  rw [Function.comp_apply]
  split
  · rfl
  · cases record.get "composition" with
    | none =>
        dsimp only
        split
        · rfl
        · rfl
    | some comp =>
        exact parseNodeComposition_ignores comp
          { MeshNode.new with
            devKey := keyOfBytes key.2
            ivIndex := BitVec.ofInt 32 (Json.getInt (record.get "IVindex"))
            seqNumber := BitVec.ofInt 32 (Json.getInt (record.get "sequenceNumber")) }
          (storedReplay other)

/-- A record that differs in its replay data only is read as the same node with
these. -/
theorem parseNode_replay
    (same : ∀ key ∈ nodeFields, other.get key = record.get key) :
    parseNode random appKeys pool isLocal other =
      (parseNode random appKeys pool isLocal record).map
        (setPlacedReplay · (storedReplay other)) := by
  unfold parseNode
  rw [parseNodeIdentity_replay same, same "configuration" (by decide)]
  cases parseNodeIdentity random isLocal record with
  | none => rfl
  | some node =>
      simp only [Option.map_some, Option.bind_eq_bind, Option.bind_some]
      cases record.get "configuration" with
      | none =>
          dsimp only
          split
          · rfl
          · rfl
      | some config =>
          have rest : Ignores setPlacedReplay fun placed : PlacedNode =>
              (config.get "elements").bind fun elements =>
                elements.items.bind fun items =>
                  (parseConfigurationElements placed.1 placed.2 isLocal items).bind
                    fun placed =>
                      (parseNodeConfiguration appKeys placed.1 config).bind
                        fun node => some (node, placed.2) := by
            refine Ignores.given fun elements => Ignores.given fun items =>
              (parseConfigurationElements_ignores isLocal items).bind
                fun placed replay => ?_
            have keys := parseNodeConfiguration_ignoresReplay appKeys config placed.1 replay
            dsimp only [setPlacedReplay] at keys ⊢
            rw [keys]
            cases parseNodeConfiguration appKeys placed.1 config with
            | none => rfl
            | some node => rfl
          exact rest (node, pool) (storedReplay other)

theorem parseNodeConfiguration_ttl (object : config.IsObject) (node : MeshNode)
    (ttl : Byte) :
    parseNodeConfiguration appKeys node
        (replaceInt "defaultTTL" ttl.toNat config) =
      (parseNodeConfiguration appKeys node config).map (·.setStoredTtl ttl) := by
  have isTtl (node : MeshNode) : parseIfPresent parseDefaultTtl node
      (some (.int ttl.toNat)) = some (node.setStoredTtl ttl) := by
    rw [parseIfPresent, parseDefaultTtl, ofInt_getInt_ttl]
    rfl
  have replaced (node : MeshNode) :
      (parseIfPresent parseDefaultTtl node (config.get "defaultTTL")).map
        (·.setStoredTtl ttl) = some (node.setStoredTtl ttl) := by
    cases config.get "defaultTTL" with
    | none => rfl
    | some value => rfl
  unfold parseNodeConfiguration
  rw [get_replaceInt_ne (by decide), get_replaceInt_ne (by decide),
    get_replaceInt_self object]
  simp only [Option.bind_eq_bind, Option.map_bind]
  congr 1
  funext netKeys
  simp only [Function.comp_apply, Option.map_bind]
  congr 1
  funext items
  split
  · rfl
  · simp only [Option.map_bind]
    congr 1
    funext keyed
    exact (isTtl keyed).trans (replaced keyed).symm

theorem replaceInt_config_isValue (ttl : Byte) (config : Json)
    (isValue : config.IsValue) :
    (replaceInt "defaultTTL" ttl.toNat config).IsValue :=
  replaceInt_isValue isValue

/-- A record with another TTL is read as the same node with that TTL. -/
theorem parseNode_ttl (isConfig : record.get "configuration" = some config)
    (object : config.IsObject) (ttl : Byte) :
    parseNode random appKeys pool isLocal (setConfiguredTtl ttl record) =
      (parseNode random appKeys pool isLocal record).map
        fun placed => (placed.1.setStoredTtl ttl, placed.2) := by
  have changes := reconfigures_changeField (replaceInt_config_isValue ttl)
  have isChanged := changes.configuration record
  rw [isConfig, Option.map_some] at isChanged
  unfold parseNode setConfiguredTtl
  rw [parseNodeIdentity_congr random isLocal (changes.others record), isConfig,
    isChanged]
  simp only [Option.bind_eq_bind, Option.map_bind]
  congr 1
  funext node
  rw [get_replaceInt_ne (by decide)]
  simp only [Function.comp_apply, Option.map_bind]
  congr 1
  funext elements
  congr 1
  funext items
  congr 1
  funext placed
  rw [parseNodeConfiguration_ttl object]
  cases parseNodeConfiguration appKeys placed.1 config with
  | none => rfl
  | some node => rfl

end Record

/-! ## The files -/

section Files

variable {env : LoadEnv} {file after : Json} {db : LoadedDb} {files : Files}
  {loaded : Loaded}

theorem load_eq_some_iff :
    load env files = some loaded ↔
      readLocalNode env files.localFile = some loaded.localNode ∧
        ∃ db, readJsonDb env files.file = some db ∧
          loaded.settings = db.settings ∧ loaded.nodes = db.nodes ∧
          loaded.pool = db.pool := by
  unfold load
  rw [Option.map_eq_some_iff]
  constructor
  · rintro ⟨⟨localNode, db⟩, read, rfl⟩
    rcases readAtStart_eq_some_iff.mp read with ⟨localRead, dbRead⟩
    exact ⟨localRead, db, dbRead, rfl, rfl, rfl⟩
  · rintro ⟨localRead, db, dbRead, settings, nodes, pool⟩
    refine ⟨(loaded.localNode, db), readAtStart_eq_some_iff.mpr ⟨localRead, dbRead⟩, ?_⟩
    rcases loaded with ⟨localNode, _, _, _⟩
    dsimp only at settings nodes pool ⊢
    rw [settings, nodes, pool]

/-- What a change of one record means for all of them. -/
theorem readJsonDb_updated (read : readJsonDb env file = some db) {index : Nat}
    {change : Json → Json} (changed : RecordChanged file after index change)
    {records : List Json} (found : nodeRecords file = some records)
    {record : Json} (atIndex : records[index]? = some record)
    {update : MeshNode → MeshNode}
    (updates : ∀ random appKeys pool,
      parseNode random appKeys pool false (change record) =
        (parseNode random appKeys pool false record).map
          fun placed => (update placed.1, placed.2)) :
    readJsonDb env after = some { db with
      nodes := db.nodes.modify index update
      file := refreshedFile env after } := by
  rcases readJsonDb_recordChanged read changed found atIndex with
    ⟨before, next, node, parsed, isNode, changes⟩
  have reparsed := updates (env.randomKey "nodes" index) db.settings.appKeys before
  rw [parsed, Option.map_some] at reparsed
  have reread := changes fun other final isOther => by
    rw [reparsed] at isOther
    cases isOther
    rfl
  rw [reparsed, Option.map_some] at reread
  rw [reread]
  have sameNodes : db.nodes.modify index update = db.nodes.set index (update node) := by
    rw [List.modify_eq_set_getElem?, isNode]
    rfl
  rw [sameNodes]

/-- Another IV index in the database leaves all else as it was. -/
theorem readJsonDb_ivIndex (read : readJsonDb env file = some db)
    (ivIndex : U32) (ivUpdate : Bool) :
    readJsonDb env (setLocalIvIndex ivIndex ivUpdate file) = some { db with
      settings := { db.settings with ivIndex, ivUpdate }
      file := refreshedFile env (setLocalIvIndex ivIndex ivUpdate file) } := by
  have object := isObject_of_readJsonDb read
  have others (key : String) (notIndex : key ≠ "IVindex") (notUpdate : key ≠ "IVupdate") :
      (setLocalIvIndex ivIndex ivUpdate file).get key = file.get key :=
    (get_replaceInt_ne notUpdate).trans (get_replaceInt_ne notIndex)
  rcases readJsonDb_eq_some_iff.mp read with ⟨settingsRead, nodesRead, _⟩
  apply readJsonDb_eq_some_iff.mpr
  refine ⟨?_, ?_, rfl⟩
  · simp only [readNetworkSettings, Option.bind_eq_bind, Option.bind_eq_some_iff,
      Option.some.injEq] at settingsRead ⊢
    rcases settingsRead with ⟨_, _, _, _, reading, keysRead, provisioners,
      isProvisioners, items, areItems, pool, poolRead, isSettings⟩
    refine ⟨.int ivIndex.toInt, ?_, .int (if ivUpdate then 1 else 0), ?_, reading, ?_,
      provisioners, ?_, items, areItems, pool, poolRead, ?_⟩
    · exact (get_replaceInt_ne (by decide)).trans (get_replaceInt_self object)
    · exact get_replaceInt_self (replaceInt_isObject object)
    · rw [← keysRead]
      exact readKeys_congr env (others _ (by decide) (by decide))
        (others _ (by decide) (by decide))
    · rw [← isProvisioners]
      exact others _ (by decide) (by decide)
    · rw [← isSettings, ofInt_getInt_toInt]
      cases ivUpdate with
      | true => rfl
      | false => rfl
  · rw [← nodesRead, readNodeList, readNodeList, others _ (by decide) (by decide)]

/-! ### Each write -/

theorem get_changeNode {localFile jnode : Json} {change : Json → Json}
    (isNode : localFile.get "node" = some jnode) (isValue : (change jnode).IsValue) :
    ∃ next, changeNode change localFile = some next ∧
      next.get "node" = some (change jnode) := by
  refine ⟨localFile.changeField "node" change, ?_, ?_⟩
  · rw [changeNode, isNode, Option.map_some]
  · exact Json.get_changeField_self isNode isValue

theorem readLocalNode_eq_some_iff {localFile : Json} {node : MeshNode} :
    readLocalNode env localFile = some node ↔
      ∃ jnode pool, localFile.get "node" = some jnode ∧
        parseNode (env.randomKey "node" 0) [] [] true jnode = some (node, pool) := by
  simp only [readLocalNode, Option.bind_eq_bind, Option.bind_eq_some_iff,
    Option.some.injEq, Prod.exists]
  constructor
  · rintro ⟨jnode, isNode, _, pool, parsed, rfl⟩
    exact ⟨jnode, pool, isNode, parsed⟩
  · rintro ⟨jnode, pool, isNode, parsed⟩
    exact ⟨jnode, isNode, node, pool, parsed, rfl⟩

end Files

end Meshctl.Db
