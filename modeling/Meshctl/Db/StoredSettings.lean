import Meshctl.Db.SettingsReading

/-! # What is read after any writes

A write of a number is an assignment to what the next start reads. So are all
writes of a run, in their order.
-/

namespace Meshctl.Db

open Net Text Commutation

variable {env : LoadEnv} {files : Files} {loaded : Loaded}

/-! ## The local node -/

/-- A local node has a composition, so that its record is an object. -/
theorem isObject_of_local {random : Option Key} {appKeys : List MeshAppKey}
    {pool next : List U32} {record : Json} {node : MeshNode}
    (parsed : parseNode random appKeys pool true record = some (node, next)) :
    record.IsObject := by
  rcases Option.bind_eq_some_iff.mp parsed with ⟨start, identity, _⟩
  rcases Option.bind_eq_some_iff.mp identity with ⟨key, _, more⟩
  cases isComposition : record.get "composition" with
  | none =>
      simp [isComposition] at more
  | some comp => exact Json.isObject_of_get isComposition

/-- The replay data of a node are those of its record. -/
theorem setReplay_of_parsed {random : Option Key} {appKeys : List MeshAppKey}
    {pool next : List U32} {isLocal : Bool} {record : Json} {node : MeshNode}
    (parsed : parseNode random appKeys pool isLocal record = some (node, next)) :
    node.setReplay (storedReplay record) = node := by
  have same := @parseNode_replay random appKeys pool isLocal record record
    fun _ _ => rfl
  rw [parsed, Option.map_some, Option.some_inj] at same
  exact (congrArg Prod.fst same).symm

/-- A change of the record of the local node. -/
theorem load_changeNode (loads : load env files = some loaded)
    {change : Json → Json} {update : MeshNode → MeshNode}
    (keeps : ∀ jnode : Json, jnode.IsObject → (change jnode).IsObject ∧
      ((change jnode).get "configuration").isSome =
        (jnode.get "configuration").isSome)
    (updates : ∀ jnode node pool, jnode.IsObject →
      files.localFile.get "node" = some jnode →
      parseNode (env.randomKey "node" 0) [] [] true jnode = some (node, pool) →
      parseNode (env.randomKey "node" 0) [] [] true (change jnode) =
        some (update node, pool)) :
    load env (files.setLocal (changeNode change files.localFile)) =
        some { loaded with localNode := update loaded.localNode } ∧
      (files.setLocal (changeNode change files.localFile)).places =
        files.places := by
  rcases load_eq_some_iff.mp loads with ⟨localRead, dbRead⟩
  rcases readLocalNode_eq_some_iff.mp localRead with ⟨jnode, pool, isNode, parsed⟩
  have object := isObject_of_local parsed
  rcases keeps jnode object with ⟨objectAfter, configured⟩
  rcases get_changeNode isNode objectAfter.isValue with ⟨next, changed, isNext⟩
  have written : files.setLocal (changeNode change files.localFile) =
      { files with localFile := next } := by
    rw [changed]
    rfl
  rw [written]
  constructor
  · apply load_eq_some_iff.mpr
    refine ⟨?_, dbRead⟩
    apply readLocalNode_eq_some_iff.mpr
    exact ⟨change jnode, pool, isNext, updates jnode _ pool object isNode parsed⟩
  · simp only [Files.places, isNext, isNode, Option.bind_some, configured]

theorem load_localReplay (loads : load env files = some loaded)
    {change : Json → Json} {replay : U32 × U32 → U32 × U32}
    (keeps : ∀ jnode : Json, jnode.IsObject → (change jnode).IsObject ∧
      (∀ key ∈ nodeFields, (change jnode).get key = jnode.get key) ∧
      storedReplay (change jnode) = replay (storedReplay jnode)) :
    load env (files.setLocal (changeNode change files.localFile)) =
        some { loaded with
          localNode := loaded.localNode.setReplay
            (replay (loaded.localNode.ivIndex, loaded.localNode.seqNumber)) } ∧
      (files.setLocal (changeNode change files.localFile)).places =
        files.places := by
  apply @load_changeNode env files loaded loads change fun node =>
    node.setReplay (replay (node.ivIndex, node.seqNumber))
  · intro jnode object
    rcases keeps jnode object with ⟨objectAfter, same, _⟩
    exact ⟨objectAfter, congrArg Option.isSome (same "configuration" (by decide))⟩
  · intro jnode node pool object _ parsed
    rcases keeps jnode object with ⟨_, same, isReplay⟩
    rw [parseNode_replay same, parsed, Option.map_some, isReplay]
    have stored := setReplay_of_parsed parsed
    have isStored : (node.ivIndex, node.seqNumber) = storedReplay jnode := by
      rw [← stored]
      rfl
    rw [isStored]
    rfl

/-! ## A node of the database -/

theorem load_changeRecord (loads : load env files = some loaded)
    {primary : U16} {change : Json → Json} {update : MeshNode → MeshNode}
    (updates : ∀ record config, record.get "configuration" = some config →
      config.IsObject → ∀ random appKeys pool,
      parseNode random appKeys pool false (change record) =
        (parseNode random appKeys pool false record).map
          fun placed => (update placed.1, placed.2))
    (same : ∀ record, recordPrimary (change record) = recordPrimary record) :
    load env (files.setMain ((findNodeByPrimary files.file primary).map
          fun index => changeRecord files.file index change)) =
        some (loaded.changeNodeAt (files.places.nodes primary) update) ∧
      (files.setMain ((findNodeByPrimary files.file primary).map
          fun index => changeRecord files.file index change)).places =
        files.places := by
  have place : files.places.nodes primary = findNodeByPrimary files.file primary := rfl
  rw [place]
  cases found : findNodeByPrimary files.file primary with
  | none => exact ⟨loads, rfl⟩
  | some index =>
      rcases load_eq_some_iff.mp loads with ⟨localRead, db, dbRead, settings, nodes, pool⟩
      rcases findNodeByPrimary_spec found with
        ⟨records, record, areRecords, _, atIndex, isPrimary⟩
      rcases configuration_of_recordPrimary isPrimary with ⟨config, isConfig, object⟩
      have changed := recordChanged_changeRecord files.file index change
      have reread := readJsonDb_updated dbRead changed areRecords atIndex
        (updates record config isConfig object)
      constructor
      · apply load_eq_some_iff.mpr
        exact ⟨localRead, _, reread, settings, congrArg (List.modify · index update) nodes,
          pool⟩
      · have places (address : U16) :
            findNodeByPrimary (changeRecord files.file index change) address =
              findNodeByPrimary files.file address :=
          changed.findNodeByPrimary same address
        rw [Files.places, Files.places, Files.setMain]
        dsimp only [Option.map_some, Option.getD_some]
        congr 1
        funext address
        exact places address

/-! ## Each write, and all of them -/

theorem recordPrimary_setIvSeq (iv seq : U32) (record : Json) :
    recordPrimary (setIvSeq iv seq record) = recordPrimary record := by
  have same : (setIvSeq iv seq record).get "configuration" =
      record.get "configuration" :=
    (get_replaceInt_ne (by decide)).trans (get_replaceInt_ne (by decide))
  rw [recordPrimary, recordPrimary, same]

theorem recordPrimary_setConfiguredTtl (ttl : Byte) (record : Json) :
    recordPrimary (setConfiguredTtl ttl record) = recordPrimary record :=
  (reconfigures_changeField (replaceInt_config_isValue ttl)).recordPrimary
    (fun _ => get_replaceInt_ne (by decide)) record

/-- The numbers are none of the other fields. -/
theorem apart_of_nodeFields {key : String} (member : key ∈ nodeFields) :
    key ≠ "IVindex" ∧ key ≠ "IVupdate" ∧ key ≠ "sequenceNumber" := by
  simp only [nodeFields, List.mem_cons, List.not_mem_nil, or_false] at member
  rcases member with rfl | rfl | rfl
  · decide
  · decide
  · decide

theorem setIvSeq_reads {jnode : Json} (object : jnode.IsObject) (iv seq : U32) :
    (setIvSeq iv seq jnode).IsObject ∧
      (∀ key ∈ nodeFields, (setIvSeq iv seq jnode).get key = jnode.get key) ∧
      storedReplay (setIvSeq iv seq jnode) = (iv, seq) := by
  have index := @replaceInt_isObject jnode "IVindex" iv.toInt object
  refine ⟨replaceInt_isObject index, ?_, ?_⟩
  · intro key member
    have apart := apart_of_nodeFields member
    exact (get_replaceInt_ne apart.2.2).trans (get_replaceInt_ne apart.1)
  · have isIndex : (setIvSeq iv seq jnode).get "IVindex" = some (.int iv.toInt) :=
      (get_replaceInt_ne (by decide)).trans (get_replaceInt_self object)
    have isNumber : (setIvSeq iv seq jnode).get "sequenceNumber" =
        some (.int seq.toInt) := get_replaceInt_self index
    rw [storedReplay, isIndex, isNumber, ofInt_getInt_toInt, ofInt_getInt_toInt]

theorem load_localIvIndex (loads : load env files = some loaded) (ivIndex : U32)
    (update : Bool) :
    load env (files.write (.localIvIndex ivIndex update)) =
        some (loaded.assign files.places (.localIvIndex ivIndex update)) ∧
      (files.write (.localIvIndex ivIndex update)).places = files.places := by
  apply @load_localReplay env files loaded loads _ fun replay => (ivIndex, replay.2)
  intro jnode object
  have index := @replaceInt_isObject jnode "IVindex" ivIndex.toInt object
  have others {key : String} (notIndex : key ≠ "IVindex") (notUpdate : key ≠ "IVupdate") :
      (setLocalIvIndex ivIndex update jnode).get key = jnode.get key :=
    (get_replaceInt_ne notUpdate).trans (get_replaceInt_ne notIndex)
  refine ⟨replaceInt_isObject index, ?_, ?_⟩
  · intro key member
    have apart := apart_of_nodeFields member
    exact others apart.1 apart.2.1
  · have isIndex : (setLocalIvIndex ivIndex update jnode).get "IVindex" =
        some (.int ivIndex.toInt) :=
      (get_replaceInt_ne (by decide)).trans (get_replaceInt_self object)
    rw [storedReplay, isIndex, ofInt_getInt_toInt, others (by decide) (by decide)]
    rfl

theorem load_localSeqNum (loads : load env files = some loaded) (seqNum : U32) :
    load env (files.write (.localSeqNum seqNum)) =
        some (loaded.assign files.places (.localSeqNum seqNum)) ∧
      (files.write (.localSeqNum seqNum)).places = files.places := by
  apply @load_localReplay env files loaded loads _ fun replay => (replay.1, seqNum)
  intro jnode object
  refine ⟨replaceInt_isObject object, ?_, ?_⟩
  · intro key member
    exact get_replaceInt_ne (apart_of_nodeFields member).2.2
  · rw [storedReplay, get_replaceInt_self object, ofInt_getInt_toInt,
      get_replaceInt_ne (by decide)]
    rfl

/-- The TTL of a local node that is not configured is not stored. -/
theorem load_localTtl (loads : load env files = some loaded) (ttl : Byte) :
    load env (files.write (.localTtl ttl)) =
        some (loaded.assign files.places (.localTtl ttl)) ∧
      (files.write (.localTtl ttl)).places = files.places := by
  rcases load_eq_some_iff.mp loads with ⟨localRead, _⟩
  rcases readLocalNode_eq_some_iff.mp localRead with ⟨jnode, pool, isNode, parsed⟩
  have places : files.places.configured = (jnode.get "configuration").isSome := by
    rw [Files.places, isNode]
    rfl
  cases isConfig : jnode.get "configuration" with
  | none =>
      have unwritten : provDbNodeSetTtl true files.localFile 0 ttl = none := by
        simp [provDbNodeSetTtl, isNode, isConfig]
      rw [isConfig] at places
      rw [Files.write, unwritten, Loaded.assign, places]
      exact ⟨loads, rfl⟩
  | some config =>
      have written : provDbNodeSetTtl true files.localFile 0 ttl =
          changeNode (setConfiguredTtl ttl) files.localFile := by
        simp [provDbNodeSetTtl, isNode, isConfig]
      rw [isConfig] at places
      rw [Files.write, written, Loaded.assign, places, Option.isSome_some, if_pos rfl]
      apply @load_changeNode env files loaded loads _ fun node => node.setStoredTtl ttl
      · intro jnode object
        constructor
        · unfold setConfiguredTtl Json.changeField
          split
          · exact object
          · exact object.add _ _
        · rw [setConfiguredTtl,
            Json.get_changeField jnode "configuration" (replaceInt_config_isValue ttl),
            Option.isSome_map]
      · intro other node pool object isOther parsedOther
        cases isNode.symm.trans isOther
        rcases Option.bind_eq_some_iff.mp parsedOther with ⟨start, _, more⟩
        rw [isConfig] at more
        rcases Option.bind_eq_some_iff.mp more with ⟨elements, isElements, _⟩
        rw [parseNode_ttl isConfig (Json.isObject_of_get isElements), parsedOther]
        rfl

/-- A write assigns what the next start reads, and leaves the places of the
records. -/
theorem load_write (loads : load env files = some loaded) (write : SettingsWrite) :
    load env (files.write write) = some (loaded.assign files.places write) ∧
      (files.write write).places = files.places := by
  cases write with
  | localIvIndex ivIndex update => exact load_localIvIndex loads ivIndex update
  | networkIvIndex ivIndex update =>
      rcases load_eq_some_iff.mp loads with ⟨localRead, db, dbRead, settings, nodes, pool⟩
      have reread := readJsonDb_ivIndex dbRead ivIndex update
      constructor
      · apply load_eq_some_iff.mpr
        refine ⟨localRead, _, reread, ?_, nodes, pool⟩
        rw [Loaded.assign, settings]
      · have same : (setLocalIvIndex ivIndex update files.file).get "nodes" =
            files.file.get "nodes" :=
          (get_replaceInt_ne (by decide)).trans (get_replaceInt_ne (by decide))
        have places (primary : U16) :
            findNodeByPrimary (setLocalIvIndex ivIndex update files.file) primary =
              findNodeByPrimary files.file primary := by
          rw [findNodeByPrimary, findNodeByPrimary, nodeRecords, nodeRecords, same]
        rw [Files.places, Files.places, Files.write, Files.setMain]
        dsimp only [Option.getD_some]
        congr 1
        funext primary
        exact places primary
  | localSeqNum seqNum => exact load_localSeqNum loads seqNum
  | localTtl ttl => exact load_localTtl loads ttl
  | nodeTtl primary ttl =>
      have written : provDbNodeSetTtl false files.file primary ttl =
          (findNodeByPrimary files.file primary).map fun index =>
            changeRecord files.file index (setConfiguredTtl ttl) := by
        cases isPlace : findNodeByPrimary files.file primary with
        | none => simp [provDbNodeSetTtl, isPlace]
        | some index => simp [provDbNodeSetTtl, isPlace]
      rw [Files.write, written]
      exact load_changeRecord loads
        (fun record config isConfig object _ _ _ => parseNode_ttl isConfig object ttl)
        (recordPrimary_setConfiguredTtl ttl)
  | nodeIvSeq primary iv seq =>
      have written : provDbNodeSetIvSeq files.file primary iv seq =
          (findNodeByPrimary files.file primary).map fun index =>
            changeRecord files.file index (setIvSeq iv seq) := by
        cases isPlace : findNodeByPrimary files.file primary with
        | none => simp [provDbNodeSetIvSeq, isPlace]
        | some index => simp [provDbNodeSetIvSeq, isPlace]
      rw [Files.write, written]
      apply @load_changeRecord env files loaded loads primary (setIvSeq iv seq)
        fun node => node.setReplay (iv, seq)
      · intro record config isConfig _ random appKeys pool
        rcases setIvSeq_reads (Json.isObject_of_get isConfig) iv seq with
          ⟨_, same, isReplay⟩
        rw [parseNode_replay same, isReplay]
        rfl
      · exact recordPrimary_setIvSeq iv seq

def smallFiles : Files := ⟨smallLocalFile, smallFile⟩

def smallWrites : List SettingsWrite :=
  [.localIvIndex 7 true, .networkIvIndex 7 true, .localSeqNum 0x100, .localTtl 9,
    .nodeTtl 2 5, .nodeIvSeq 2 7 0xffffffff]

end Meshctl.Db
