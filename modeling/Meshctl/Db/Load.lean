import Meshctl.Db.Parse

/-! # Reading the database

`parse_node` and `read_json_db`. A file is the JSON value it holds.
-/

namespace Meshctl.Db

open Text Net

/-- What reading depends on besides the file: the key derivations, the random
bytes drawn for the entries of a list that have no key, and what the memory
holds before it is written. -/
structure LoadEnv where
  crypto : KeyCrypto
  randomKey : String → Nat → Option Key
  keyBuffer : List Byte
  netKeyMemory : Nat → MeshNetKey
  appKeyMemory : Nat → MeshAppKey

/-! ## Keys as bytes and as text -/

/-- The bytes of a key, the most significant one first. -/
def keyBytes (key : Key) : List Byte :=
  (List.range 16).map fun index => (key >>> (8 * (15 - index))).setWidth 8

def keyOfBytes (bytes : List Byte) : Key :=
  BitVec.ofNat 128 (bytes.foldl (fun value byte => value * 256 + byte.toNat) 0)

/-- `add_key` writes two digits for each byte. -/
def keyText (key : Key) : Json := .string (hexText 32 key.toNat)

/-- Read the key of a record into a buffer, or draw one. With a text that cannot
be read the buffer keeps what was there. -/
def readKey (random : Option Key) (desc : String) (buffer : List Byte)
    (record : Json) : Option (Bool × List Byte) :=
  match record.get desc with
  | none => random.map fun key => (true, keyBytes key)
  | some value =>
      let str := value.getString
      some (str2hex str (BitVec.ofNat 16 str.length) buffer 16)

/-- The record with the key that was drawn for it. -/
def addDrawnKey (random : Option Key) (desc : String) (record : Json) :
    Json :=
  match record.get desc, random with
  | none, some key => record.add desc (keyText key)
  | _, _ => record

/-! ## A node -/

def ttlMask : Byte := 0x7f

def parseAppKeys (appKeys : List MeshAppKey) (node : MeshNode) (idxs : Json) :
    Option MeshNode := do
  let (node, _) := parseNodeKeys (fun node => node.appKeyAdd appKeys) node
    (← idxs.items)
  some node

def parseDefaultTtl (node : MeshNode) (value : Json) : Option MeshNode :=
  some { node with
    ttl := BitVec.ofInt 8 (Json.getInt (some value)) &&& ttlMask }

/-- The lists of keys and the default TTL of a node. A node without a network
key is refused. -/
def parseNodeConfiguration (appKeys : List MeshAppKey) (node : MeshNode)
    (config : Json) : Option MeshNode := do
  let netKeys ← config.get "netKeys"
  let (node, count) := parseNodeKeys MeshNode.netKeyAdd node (← netKeys.items)
  if count = 0 then none
  else
    let node ← parseIfPresent (parseAppKeys appKeys) node (config.get "appKeys")
    parseIfPresent parseDefaultTtl node (config.get "defaultTTL")

/-- The device key, replay data and composition of a node. -/
def parseNodeIdentity (random : Option Key) (isLocal : Bool)
    (record : Json) : Option MeshNode := do
  let (read, devKey) ← readKey random "deviceKey" (List.replicate 16 0) record
  if !read then none
  else
    let node :=
      { MeshNode.new with
        devKey := keyOfBytes devKey
        ivIndex := BitVec.ofInt 32 (Json.getInt (record.get "IVindex"))
        seqNumber := BitVec.ofInt 32 (Json.getInt (record.get "sequenceNumber")) }
    match record.get "composition" with
    | none => if isLocal then none else some node
    | some comp => parseNodeComposition node comp

/-- Composition is mandatory for the local node, configuration for a node in the
provisioning database. -/
def parseNode (random : Option Key) (appKeys : List MeshAppKey)
    (pool : List U32) (isLocal : Bool) (record : Json) :
    Option (MeshNode × List U32) := do
  let node ← parseNodeIdentity random isLocal record
  match record.get "configuration" with
  | none => if isLocal then some (node, pool) else none
  | some config =>
      let elements ← config.get "elements"
      let (node, pool) ←
        parseConfigurationElements node pool isLocal (← elements.items)
      let node ← parseNodeConfiguration appKeys node config
      some (node, pool)

/-! ## Key tables -/

/-- What the loops over the keys of a database carry along: the buffer for a
key and the key tables. -/
structure KeyReading where
  key : List Byte
  netKeys : List MeshNetKey
  appKeys : List MeshAppKey

def readNetKey (env : LoadEnv) (reading : KeyReading) (entry : Json × Nat) :
    Option KeyReading := do
  let (record, position) := entry
  let index ← record.get "index"
  let idx := BitVec.ofInt 16 (Json.getInt (some index))
  let (read, key) ←
    readKey (env.randomKey "netKeys" position) "key" reading.key record
  if !read then none
  else
    let (added, netKeys) := keysNetKeyAdd env.crypto idx (keyOfBytes key) false
      (env.netKeyMemory position) reading.netKeys
    if !added then none
    else
      let phase ← record.get "keyRefresh"
      let (_, netKeys) :=
        keysSetKrPhase idx (BitVec.ofInt 8 (Json.getInt (some phase))) netKeys
      some { reading with key, netKeys }

/-- A key that cannot be read, or is not taken, is no error here. -/
def readAppKey (env : LoadEnv) (reading : KeyReading) (entry : Json × Nat) :
    Option KeyReading := do
  let (record, position) := entry
  let index ← record.get "index"
  let appIdx := Json.getInt (some index)
  if ¬keyIdxInRange appIdx then none
  else
    let (_, key) ←
      readKey (env.randomKey "appKeys" position) "key" reading.key record
    let boundNetKey ← record.get "boundNetKey"
    let netIdx := Json.getInt (some boundNetKey)
    if ¬keyIdxInRange netIdx then none
    else
      let (_, appKeys) := keysAppKeyAdd env.crypto (BitVec.ofInt 16 netIdx)
        (BitVec.ofInt 16 appIdx) (keyOfBytes key) false
        (env.appKeyMemory position) reading.appKeys
      some { reading with key, appKeys }

/-! ## Address ranges -/

def parseUnicastRange (pool : List U32) (ranges : List Json) :
    Option (List U32) :=
  ranges.foldlM (fun pool range => do
    let low ← readHex16 (range.get "lowAddress")
    let high ← readHex16 (range.get "highAddress")
    if high < low then none
    else some (netAddAddressPool pool low high).2) pool

def readProvisioner (pool : List U32) (provisioner : Json) :
    Option (List U32) := do
  let ranges ← provisioner.get "allocatedUnicastRange"
  parseUnicastRange pool (← ranges.items)

/-! ## The provisioning database -/

/-- What a database says before the nodes come. -/
structure NetworkSettings where
  ivIndex : U32
  ivUpdate : Bool
  netKeys : List MeshNetKey
  appKeys : List MeshAppKey
  pool : List U32

def readKeys (env : LoadEnv) (main : Json) : Option KeyReading := do
  let netKeys ← main.get "netKeys"
  let reading ← (← netKeys.items).zipIdx.foldlM (readNetKey env)
    { key := env.keyBuffer, netKeys := [], appKeys := [] }
  match main.get "appKeys" with
  | none => some reading
  | some appKeys => (← appKeys.items).zipIdx.foldlM (readAppKey env) reading

def readNetworkSettings (env : LoadEnv) (main : Json) :
    Option NetworkSettings := do
  let ivIndex ← main.get "IVindex"
  let ivUpdate ← main.get "IVupdate"
  let reading ← readKeys env main
  let provisioners ← main.get "provisioners"
  let pool ← (← provisioners.items).foldlM readProvisioner []
  some
    { ivIndex := BitVec.ofInt 32 (Json.getInt (some ivIndex))
      ivUpdate := Json.getInt (some ivUpdate) ≠ 0
      netKeys := reading.netKeys
      appKeys := reading.appKeys
      pool }

/-- The nodes of a list of records, the first of them at the given place. What
they reserve is taken out of the pool. -/
def readNodes (env : LoadEnv) (appKeys : List MeshAppKey) :
    Nat → List U32 → List Json → Option (List MeshNode × List U32)
  | _, pool, [] => some ([], pool)
  | place, pool, record :: records => do
      let (node, pool) ← parseNode (env.randomKey "nodes" place) appKeys pool
        false record
      let (nodes, pool) ← readNodes env appKeys (place + 1) pool records
      some (node :: nodes, pool)

def readNodeList (env : LoadEnv) (settings : NetworkSettings) (main : Json) :
    Option (List MeshNode × List U32) :=
  match main.get "nodes" with
  | none => some ([], settings.pool)
  | some nodes => do
      readNodes env settings.appKeys 0 settings.pool (← nodes.items)

/-- The file with the keys that were drawn, which is written when there are any
for the network. -/
def refreshedFile (env : LoadEnv) (main : Json) : Json :=
  let records (desc : String) := ((main.get desc).bind Json.items).getD []
  let drawn (list desc : String) (main : Json) :=
    main.changeField list fun _ => .array <|
      (records list).zipIdx.map fun (record, position) =>
        addDrawnKey (env.randomKey list position) desc record
  if (records "netKeys" ++ records "appKeys").any
      (fun record => (record.get "key").isNone) then
    drawn "nodes" "deviceKey" (drawn "appKeys" "key" (drawn "netKeys" "key" main))
  else main

/-- What is known after a database has been read, and the file afterwards. -/
structure LoadedDb where
  settings : NetworkSettings
  nodes : List MeshNode
  pool : List U32
  file : Json

def readJsonDb (env : LoadEnv) (main : Json) : Option LoadedDb := do
  let settings ← readNetworkSettings env main
  let (nodes, pool) ← readNodeList env settings main
  some { settings, nodes, pool, file := refreshedFile env main }

/-- Read the file of the local node, when there are no keys yet. -/
def readLocalNode (env : LoadEnv) (main : Json) : Option MeshNode := do
  let record ← main.get "node"
  let (node, _) ← parseNode (env.randomKey "node" 0) [] [] true record
  some node

/-- What `mesh_init` reads: first the local node, then the database. -/
def readAtStart (env : LoadEnv) (localFile file : Json) :
    Option (MeshNode × LoadedDb) := do
  let localNode ← readLocalNode env localFile
  let db ← readJsonDb env file
  some (localNode, db)

/-! ## A small network -/

def smallEnv : LoadEnv where
  crypto :=
    { nkbk := fun _ => some 0
      k3 := fun _ => some 0
      k2 := fun _ => { nid := some 0, encKey := some 0, privacyKey := some 0 }
      k4 := fun _ => some 0 }
  randomKey := fun _ _ => none
  keyBuffer := List.replicate 16 0
  netKeyMemory := fun _ =>
    let parts := { netKey := 0, beaconKey := 0, netId := 0, nid := 0, encKey := 0,
                   privacyKey := 0 }
    { idx := 0, phase := 0, current := parts, new := parts }
  appKeyMemory := fun _ =>
    { idx := 0, netIdx := 0, current := { key := 0, akfAid := 0 },
      new := { key := 0, akfAid := 0 } }

/-- The record of a node with one element and one network key. -/
def smallRecord (address : Nat) : Json :=
  .object [("deviceKey", keyText 0),
    ("configuration", .object [("netKeys", .array [Json.hex16 0]),
      ("elements", .array [.object [("elementIndex", .int 0),
        ("unicastAddress", Json.hex16 address)]])])]

/-- A database with two network keys, an application key and one node. -/
def smallFile : Json :=
  .object [("IVindex", .int 0), ("IVupdate", .int 0),
    ("netKeys", .array [
      .object [("index", .int 0), ("key", keyText 0), ("keyRefresh", .int 0)],
      .object [("index", .int 16), ("key", keyText 1), ("keyRefresh", .int 0)]]),
    ("appKeys", .array [
      .object [("index", .int 1), ("key", keyText 2), ("boundNetKey", .int 0)]]),
    ("provisioners", .array [
      .object [("allocatedUnicastRange", .array [
        .object [("lowAddress", Json.hex16 1), ("highAddress", Json.hex16 64)]])]]),
    ("nodes", .array [smallRecord 2])]

/-- A local node that has not been configured. -/
def smallLocalFile : Json :=
  .object [("node", .object [("deviceKey", keyText 0),
    ("composition", .object [("cid", Json.hex16 0), ("pid", Json.hex16 0),
      ("vid", Json.hex16 0), ("crpl", Json.hex16 0), ("features", .object [("relay", .int 0)]),
      ("elements", .array [.object [("elementIndex", .int 0)]])])])]

end Meshctl.Db
