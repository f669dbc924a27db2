import Meshctl.Db.Store

/-! # What reading depends on

How the result of reading a database changes when one record is changed or a
new one is added.
-/

namespace Meshctl.Db

open Net Text

theorem readHex16_hex16 (value : U16) :
    readHex16 (some (Json.hex16 value.toNat)) = some value := by
  have fits : value.toNat < 65536 := value.isLt
  rw [readHex16, Option.bind_some, Json.getString_hex16 fits,
    scanHex_hexText (by decide) fits, Option.map_some, BitVec.ofInt_natCast,
    BitVec.ofNat_toNat, BitVec.setWidth_eq]

theorem getString_hex16_length (value : U16) :
    (Json.hex16 value.toNat).getString.length = 4 := by
  rw [Json.getString_hex16 value.isLt, toList_hexText (by decide) value.isLt,
    List.length_map, length_lastDigits]

theorem getString_hex32_length (value : U32) :
    (Json.hex32 value.toNat).getString.length = 8 := by
  rw [Json.getString_hex32 value.isLt, toList_hexText (by decide) value.isLt,
    List.length_map, length_lastDigits]

/-- Adding the upper half of an id to a number below it is setting it. -/
theorem setUpperHalf (value : U16) :
    value.setWidth 32 + 0xffff0000 = value.setWidth 32 ||| (0xffff0000 : U32) := by
  apply BitVec.eq_of_toNat_eq
  have small := value.isLt
  have low : (value.setWidth 32).toNat = value.toNat := by
    rw [BitVec.toNat_setWidth, Nat.mod_eq_of_lt (by omega)]
  have half : (0xffff0000 : U32).toNat = 2 ^ 16 * 0xffff := by decide
  have split := Nat.two_pow_add_eq_or_of_lt small 0xffff
  rw [BitVec.toNat_add, BitVec.toNat_or, low, half, Nat.or_comm, ← split]
  omega

theorem readModelId_hex16 (value : U16) :
    readModelId (some (Json.hex16 value.toNat)) =
      some (value.setWidth 32 ||| 0xffff0000) := by
  have length := getString_hex16_length value
  rw [readModelId, Option.bind_some]
  simp only [length]
  rw [Json.getString_hex16 value.isLt,
    scanHex_hexText_of_le (by decide) (by decide) value.isLt]
  simp only [Option.map_some, if_true, BitVec.ofInt_natCast, BitVec.ofNat_toNat]
  rw [if_neg (by decide), setUpperHalf]

theorem readModelId_hex32 (value : U32) :
    readModelId (some (Json.hex32 value.toNat)) = some value := by
  have length := getString_hex32_length value
  rw [readModelId, Option.bind_some]
  simp only [length]
  rw [Json.getString_hex32 value.isLt, scanHex_hexText (by decide) value.isLt]
  simp

/-! ## Loops -/

/-- What every step of a loop keeps holds in the end. -/
theorem foldlM_invariant_of_mem {State Item : Type}
    {step : State → Item → Option State} (Invariant : State → Prop)
    {items : List Item} {start final : State}
    (keeps : ∀ state item next, item ∈ items → Invariant state →
      step state item = some next → Invariant next)
    (initial : Invariant start)
    (runs : items.foldlM step start = some final) : Invariant final := by
  induction items generalizing start with
  | nil =>
      cases runs
      exact initial
  | cons item items induction =>
      rw [List.foldlM_cons] at runs
      rcases Option.bind_eq_some_iff.mp runs with ⟨next, stepped, rest⟩
      exact induction
        (fun state other after member =>
          keeps state other after (List.mem_cons_of_mem _ member))
        (keeps start item next List.mem_cons_self initial stepped) rest

theorem foldlM_invariant {State Item : Type} {step : State → Item → Option State}
    (Invariant : State → Prop)
    (keeps : ∀ state item next, Invariant state → step state item = some next →
      Invariant next)
    {items : List Item} {start final : State} (initial : Invariant start)
    (runs : items.foldlM step start = some final) : Invariant final :=
  foldlM_invariant_of_mem Invariant
    (fun state item next _ => keeps state item next) initial runs

theorem parseIfPresent_invariant {parse : MeshNode → Json → Option MeshNode}
    (Invariant : MeshNode → Prop)
    (keeps : ∀ node value next, Invariant node → parse node value = some next →
      Invariant next)
    {start final : MeshNode} {value : Option Json} (initial : Invariant start)
    (parsed : parseIfPresent parse start value = some final) :
    Invariant final := by
  cases value with
  | none =>
      cases parsed
      exact initial
  | some value => exact keeps start value final initial parsed

/-! ## What parsing a node leaves alone -/

theorem parseCompositionModels_identity {node next : MeshNode} {index : Byte}
    {models : List Json}
    (parsed : parseCompositionModels node index models = some next) :
    next.identity = node.identity := by
  refine foldlM_invariant (fun other => other.identity = node.identity) ?_ rfl parsed
  intro state model after same step
  rcases Option.bind_eq_some_iff.mp step with ⟨modelId, _, set⟩
  cases set
  cases isSet : state.setModel index modelId with
  | none => exact same
  | some changed => exact (MeshNode.setModel_identity isSet).trans same

theorem parseBindings_identity {eleIdx : Byte} {modelId : U32}
    {node next : MeshNode} {bindings : List Json}
    (parsed : parseBindings eleIdx modelId node bindings = some next) :
    next.identity = node.identity := by
  induction bindings generalizing node with
  | nil =>
      cases parsed
      rfl
  | cons item items induction =>
      rw [parseBindings] at parsed
      split at parsed
      · cases parsed
        rfl
      · simp only at parsed
        split at parsed
        · rcases Option.bind_eq_some_iff.mp parsed with ⟨after, added, rest⟩
          exact (induction rest).trans (MeshNode.addBinding_identity added)
        · cases parsed

theorem parseSubscriptions_identity {eleIdx : Byte} {modelId : U32}
    {node next : MeshNode} {subscriptions : List Json}
    (parsed : parseSubscriptions eleIdx modelId node subscriptions = some next) :
    next.identity = node.identity := by
  refine foldlM_invariant (fun other => other.identity = node.identity) ?_ rfl parsed
  intro state model after same step
  rcases Option.bind_eq_some_iff.mp step with ⟨addr, _, added⟩
  exact (MeshNode.addSubscription_identity added).trans same

theorem parseModelPub_identity {eleIdx : Byte} {modelId : U32}
    {node next : MeshNode} {pub : Json}
    (parsed : parseModelPub eleIdx modelId node pub = some next) :
    next.identity = node.identity := by
  rcases Option.bind_eq_some_iff.mp parsed with ⟨addr16, _, more⟩
  rcases Option.bind_eq_some_iff.mp more with ⟨appIdx, _, set⟩
  exact MeshNode.modelPubSet_identity set

theorem parseConfigurationModel_identity {eleIdx : Byte} {node next : MeshNode}
    {model : Json}
    (parsed : parseConfigurationModel eleIdx node model = some next) :
    next.identity = node.identity := by
  rcases Option.bind_eq_some_iff.mp parsed with ⟨modelId, _, more⟩
  rcases Option.bind_eq_some_iff.mp more with ⟨bound, bindings, more⟩
  rcases Option.bind_eq_some_iff.mp more with ⟨subscribed, subscriptions, pub⟩
  have afterBindings : bound.identity = node.identity := by
    refine parseIfPresent_invariant (fun other => other.identity = node.identity) ?_ rfl bindings
    intro state value after same step
    rcases Option.bind_eq_some_iff.mp step with ⟨items, _, parsed⟩
    exact (parseBindings_identity parsed).trans same
  have afterSubscriptions : subscribed.identity = node.identity := by
    refine parseIfPresent_invariant (fun other => other.identity = node.identity) ?_ afterBindings subscriptions
    intro state value after same step
    rcases Option.bind_eq_some_iff.mp step with ⟨items, _, parsed⟩
    exact (parseSubscriptions_identity parsed).trans same
  exact parseIfPresent_invariant (fun other => other.identity = node.identity) (fun state value after same step =>
      (parseModelPub_identity step).trans same) afterSubscriptions pub

theorem parseConfigurationModels_identity {eleIdx : Byte} {node next : MeshNode}
    {models : List Json}
    (parsed : parseConfigurationModels node eleIdx models = some next) :
    next.identity = node.identity :=
  foldlM_invariant (fun other => other.identity = node.identity)
    (fun _ _ _ same step => (parseConfigurationModel_identity step).trans same)
    rfl parsed

/-- Parsing the parts of a node before its key lists leaves these as they
were. -/
def KeysAs (node other : MeshNode) : Prop :=
  other.netKeys = node.netKeys ∧ other.appKeys = node.appKeys

theorem KeysAs.of_identity {node other : MeshNode}
    (same : other.identity = node.identity) : KeysAs node other :=
  ⟨show other.identity.netKeys = node.identity.netKeys by rw [same],
    show other.identity.appKeys = node.identity.appKeys by rw [same]⟩

theorem KeysAs.trans {first second third : MeshNode} (one : KeysAs first second)
    (two : KeysAs second third) : KeysAs first third :=
  ⟨two.1.trans one.1, two.2.trans one.2⟩

theorem parseCompositionElement_keys {count : Nat} {node next : MeshNode}
    {element : Json}
    (parsed : parseCompositionElement count node element = some next) :
    KeysAs node next := by
  rcases Option.bind_eq_some_iff.mp parsed with ⟨value, _, more⟩
  simp only at more
  split at more
  · cases more
  · rcases Option.bind_eq_some_iff.mp more with ⟨after, set, models⟩
    have added := KeysAs.of_identity (MeshNode.setElement_identity set)
    split at models
    · cases models
      exact added
    · rcases Option.bind_eq_some_iff.mp models with ⟨items, _, parsed⟩
      exact added.trans (.of_identity (parseCompositionModels_identity parsed))

theorem parseNodeComposition_keys {node next : MeshNode} {comp : Json}
    (parsed : parseNodeComposition node comp = some next) : KeysAs node next := by
  unfold parseNodeComposition at parsed
  simp only [Option.bind_eq_bind, Option.bind_eq_some_iff] at parsed
  rcases parsed with ⟨cid, _, pid, _, vid, _, crpl, _, features, _, set, isSet,
    elements, _, items, _, parsed⟩
  have before := KeysAs.of_identity (MeshNode.setComposition_identity isSet)
  have elementsKeep := foldlM_invariant
    (KeysAs { set with numEle := BitVec.ofNat 8 items.length })
    (fun _ _ _ same step => same.trans (parseCompositionElement_keys step))
    ⟨rfl, rfl⟩ parsed
  exact ⟨elementsKeep.1.trans before.1, elementsKeep.2.trans before.2⟩

theorem placeNode_keys {count : Nat} {isLocal : Bool} {index : Int}
    {state next : MeshNode × List U32} {element : Json}
    (placed : placeNode count isLocal index state element = some next) :
    KeysAs state.1 next.1 := by
  unfold placeNode at placed
  split at placed
  · rcases Option.map_eq_some_iff.mp placed with ⟨primary, _, isNext⟩
    rw [← isNext]
    exact ⟨rfl, rfl⟩
  · cases placed
    exact ⟨rfl, rfl⟩

theorem parseElementModels_identity {eleIdx : Byte} {node next : MeshNode}
    {models : Json}
    (parsed : parseElementModels eleIdx node models = some next) :
    next.identity = node.identity := by
  rcases Option.bind_eq_some_iff.mp parsed with ⟨items, _, parsed⟩
  exact parseConfigurationModels_identity parsed

theorem parseConfigurationElement_eq_some_iff {count : Nat} {isLocal : Bool}
    {state next : MeshNode × List U32} {element : Json} :
    parseConfigurationElement count isLocal state element = some next ↔
      ∃ value placed node, element.get "elementIndex" = some value ∧
        Json.getInt (some value) < count ∧
        placeNode count isLocal (Json.getInt (some value)) state element =
          some placed ∧
        parseIfPresent
          (parseElementModels (BitVec.ofInt 8 (Json.getInt (some value))))
          placed.1 (element.get "models") = some node ∧
        next = (node, placed.2) := by
  unfold parseConfigurationElement
  cases element.get "elementIndex" with
  | none => simp
  | some value =>
      simp only [Option.bind_eq_bind, Option.bind_some, Option.some.injEq]
      by_cases inside : Json.getInt (some value) < count
      · rw [if_neg (not_le.mpr inside)]
        simp only [Option.bind_eq_some_iff, Option.some.injEq]
        constructor
        · rintro ⟨placed, isPlaced, node, models, rfl⟩
          exact ⟨value, placed, node, rfl, inside, isPlaced, models, rfl⟩
        · rintro ⟨_, placed, node, rfl, _, isPlaced, models, rfl⟩
          exact ⟨placed, isPlaced, node, models, rfl⟩
      · rw [if_pos (not_lt.mp inside)]
        constructor
        · intro none
          cases none
        · rintro ⟨_, _, _, rfl, lower, _⟩
          exact absurd lower inside

theorem parseConfigurationElement_keys {count : Nat} {isLocal : Bool}
    {state next : MeshNode × List U32} {element : Json}
    (parsed : parseConfigurationElement count isLocal state element =
      some next) : KeysAs state.1 next.1 := by
  rcases parseConfigurationElement_eq_some_iff.mp parsed with
    ⟨value, placed, node, _, _, isPlaced, models, rfl⟩
  exact parseIfPresent_invariant (KeysAs state.1)
    (fun _ _ _ same step => same.trans
      (.of_identity (parseElementModels_identity step)))
    (placeNode_keys isPlaced) models

theorem parseConfigurationElements_keys {node : MeshNode} {pool : List U32}
    {isLocal : Bool} {elements : List Json} {next : MeshNode × List U32}
    (parsed : parseConfigurationElements node pool isLocal elements = some next) :
    KeysAs node next.1 :=
  foldlM_invariant (fun state => KeysAs node state.1)
    (fun _ _ _ same step => same.trans (parseConfigurationElement_keys step))
    ⟨rfl, rfl⟩ parsed

theorem parseNodeIdentity_keys {random : Option Key} {isLocal : Bool}
    {record : Json} {node : MeshNode}
    (parsed : parseNodeIdentity random isLocal record = some node) :
    node.netKeys = [] ∧ node.appKeys = [] := by
  rcases Option.bind_eq_some_iff.mp parsed with ⟨key, _, more⟩
  simp only at more
  split at more
  · cases more
  · split at more
    · split at more
      · cases more
      · cases more
        exact ⟨rfl, rfl⟩
    · exact parseNodeComposition_keys more

/-! ## The parts of a node -/

/-- A remote node is read when its identity, its elements and its key lists
are. -/
theorem parseNode_eq_some_iff {random : Option Key}
    {appKeys : List MeshAppKey} {pool next : List U32} {record : Json}
    {node : MeshNode} :
    parseNode random appKeys pool false record = some (node, next) ↔
      ∃ start config elements items placed,
        parseNodeIdentity random false record = some start ∧
        record.get "configuration" = some config ∧
        config.get "elements" = some elements ∧ elements.items = some items ∧
        parseConfigurationElements start pool false items = some (placed, next) ∧
        parseNodeConfiguration appKeys placed config = some node := by
  unfold parseNode
  simp only [Option.bind_eq_bind, Option.bind_eq_some_iff, Bool.false_eq_true,
    if_false]
  constructor
  · rintro ⟨start, identity, more⟩
    cases isConfig : record.get "configuration" with
    | none =>
        rw [isConfig] at more
        cases more
    | some config =>
        rw [isConfig] at more
        simp only [Option.bind_eq_some_iff, Option.some.injEq, Prod.mk.injEq] at more
        rcases more with ⟨elements, isElements, items, areItems, placed, isPlaced,
          loaded, isLoaded, rfl, rfl⟩
        exact ⟨start, config, elements, items, placed.1, identity, rfl, isElements,
          areItems, isPlaced, isLoaded⟩
  · rintro ⟨start, config, elements, items, placed, identity, isConfig, isElements,
      areItems, isPlaced, isLoaded⟩
    refine ⟨start, identity, ?_⟩
    rw [isConfig]
    simp only [Option.bind_eq_some_iff]
    exact ⟨elements, isElements, items, areItems, (placed, next), isPlaced, node,
      isLoaded, rfl⟩

theorem parseNodeIdentity_congr (random : Option Key) (isLocal : Bool)
    {record other : Json}
    (same : ∀ key, key ≠ "configuration" → other.get key = record.get key) :
    parseNodeIdentity random isLocal other =
      parseNodeIdentity random isLocal record := by
  unfold parseNodeIdentity readKey
  rw [same "deviceKey" (by decide), same "IVindex" (by decide),
    same "sequenceNumber" (by decide), same "composition" (by decide)]

/-! ## The network settings -/

theorem readKeys_congr (env : LoadEnv) {main other : Json}
    (netKeys : main.get "netKeys" = other.get "netKeys")
    (appKeys : main.get "appKeys" = other.get "appKeys") :
    readKeys env main = readKeys env other := by
  unfold readKeys
  rw [netKeys, appKeys]

/-- The node list is no part of the settings. -/
theorem readNetworkSettings_congr (env : LoadEnv) {main other : Json}
    (same : ∀ key, key ≠ "nodes" → main.get key = other.get key) :
    readNetworkSettings env main = readNetworkSettings env other := by
  unfold readNetworkSettings
  rw [same "IVindex" (by decide), same "IVupdate" (by decide),
    same "provisioners" (by decide),
    readKeys_congr env (same "netKeys" (by decide)) (same "appKeys" (by decide))]

/-! ## The nodes -/

section

variable {env : LoadEnv} {appKeys : List MeshAppKey}

theorem readNodes_cons_eq_some_iff {place : Nat} {pool final : List U32}
    {record : Json} {records : List Json} {nodes : List MeshNode} :
    readNodes env appKeys place pool (record :: records) = some (nodes, final) ↔
      ∃ node next rest, parseNode (env.randomKey "nodes" place) appKeys pool
          false record = some (node, next) ∧
        readNodes env appKeys (place + 1) next records = some (rest, final) ∧
        nodes = node :: rest := by
  rw [readNodes]
  simp only [Option.bind_eq_bind, Option.bind_eq_some_iff, Option.some.injEq,
    Prod.mk.injEq, Prod.exists]
  constructor
  · rintro ⟨node, next, parsed, rest, last, read, rfl, rfl⟩
    exact ⟨node, next, rest, parsed, read, rfl⟩
  · rintro ⟨node, next, rest, parsed, read, rfl⟩
    exact ⟨node, next, parsed, rest, final, read, rfl, rfl⟩

theorem readNodes_length {place : Nat} {pool final : List U32}
    {records : List Json} {nodes : List MeshNode}
    (read : readNodes env appKeys place pool records = some (nodes, final)) :
    nodes.length = records.length := by
  induction records generalizing place pool nodes with
  | nil =>
      cases read
      rfl
  | cons record records induction =>
      rcases readNodes_cons_eq_some_iff.mp read with
        ⟨node, next, rest, parsed, readRest, rfl⟩
      rw [List.length_cons, List.length_cons, induction readRest]

/-- A record that is put in the place of another one and reserves the same
addresses changes its own node only. -/
theorem readNodes_modify {place : Nat} {pool final : List U32}
    {records : List Json} {nodes : List MeshNode} {index : Nat} {record : Json}
    (atIndex : records[index]? = some record)
    (read : readNodes env appKeys place pool records = some (nodes, final)) :
    ∃ before after node,
      parseNode (env.randomKey "nodes" (place + index)) appKeys before false
        record = some (node, after) ∧
      nodes[index]? = some node ∧
      ∀ change : Json → Json,
        (∀ changed next, parseNode (env.randomKey "nodes" (place + index))
          appKeys before false (change record) = some (changed, next) →
            next = after) →
        readNodes env appKeys place pool (records.modify index change) =
          (parseNode (env.randomKey "nodes" (place + index)) appKeys before false
            (change record)).map fun parsed =>
              (nodes.set index parsed.1, final) := by
  induction records generalizing place pool nodes index with
  | nil => cases atIndex
  | cons head records induction =>
      rcases readNodes_cons_eq_some_iff.mp read with
        ⟨node, next, rest, parsed, readRest, rfl⟩
      cases index with
      | zero =>
          cases atIndex
          refine ⟨pool, next, node, parsed, rfl, fun change sameBlock => ?_⟩
          rw [List.modify_zero_cons, readNodes, Nat.add_zero]
          cases changed : parseNode (env.randomKey "nodes" place) appKeys pool
              false (change record) with
          | none => rfl
          | some result =>
              have same := sameBlock result.1 result.2 changed
              simp only [Option.bind_eq_bind, Option.bind_some, Option.map_some]
              rw [same, readRest]
              rfl
      | succ index =>
          rcases induction atIndex readRest with
            ⟨before, after, other, parsedOther, isOther, changes⟩
          refine ⟨before, after, other, ?_, isOther, fun change sameBlock => ?_⟩
          · rw [Nat.add_right_comm] at parsedOther
            exact parsedOther
          · rw [Nat.add_right_comm] at changes
            rw [List.modify_succ_cons, readNodes, parsed]
            simp only [Option.bind_eq_bind, Option.bind_some]
            rw [changes change sameBlock]
            cases parseNode (env.randomKey "nodes" (place + index + 1)) appKeys
              before false (change record) <;> rfl

theorem readNodes_append {place : Nat} {pool : List U32}
    (first second : List Json) :
    readNodes env appKeys place pool (first ++ second) =
      (readNodes env appKeys place pool first).bind fun read =>
        (readNodes env appKeys (place + first.length) read.2 second).map
          fun more => (read.1 ++ more.1, more.2) := by
  induction first generalizing place pool with
  | nil =>
      simp only [List.nil_append, readNodes, Option.bind_some, List.length_nil,
        Nat.add_zero]
      cases readNodes env appKeys place pool second <;> rfl
  | cons record first induction =>
      simp only [List.cons_append, readNodes, Option.bind_eq_bind]
      cases parseNode (env.randomKey "nodes" place) appKeys pool false record with
      | none => rfl
      | some parsed =>
          simp only [Option.bind_some]
          rw [induction, List.length_cons, Nat.add_right_comm place]
          cases readNodes env appKeys (place + 1) parsed.2 first with
          | none => rfl
          | some read =>
              simp only [Option.bind_some]
              cases readNodes env appKeys (place + (first.length + 1)) read.2
                second <;> rfl

end

/-! ## A file with another node list -/

/-- A file is read when its settings and its nodes are. -/
theorem readJsonDb_eq_some_iff {env : LoadEnv} {main : Json} {db : LoadedDb} :
    readJsonDb env main = some db ↔
      readNetworkSettings env main = some db.settings ∧
        readNodeList env db.settings main = some (db.nodes, db.pool) ∧
        db.file = refreshedFile env main := by
  unfold readJsonDb
  simp only [Option.bind_eq_bind, Option.bind_eq_some_iff, Option.some.injEq,
    Prod.exists]
  constructor
  · rintro ⟨settings, settingsRead, nodes, pool, nodesRead, rfl⟩
    exact ⟨settingsRead, nodesRead, rfl⟩
  · rintro ⟨settingsRead, nodesRead, file⟩
    exact ⟨db.settings, settingsRead, db.nodes, db.pool, nodesRead,
      by rw [← file]⟩

theorem nodeRecords_eq_some_iff {main : Json} {records : List Json} :
    nodeRecords main = some records ↔
      ∃ nodes, main.get "nodes" = some nodes ∧ nodes.items = some records :=
  Option.bind_eq_some_iff

theorem readNodeList_eq {env : LoadEnv} {settings : NetworkSettings}
    {main : Json} {records : List Json} (found : nodeRecords main = some records) :
    readNodeList env settings main =
      readNodes env settings.appKeys 0 settings.pool records := by
  rcases nodeRecords_eq_some_iff.mp found with ⟨nodes, isNodes, array⟩
  rw [readNodeList, isNodes]
  simp only [Option.bind_eq_bind, array, Option.bind_some]

/-- A file that differs in the node list only is read with the same settings. -/
theorem readJsonDb_congr {env : LoadEnv} {main other : Json} {db : LoadedDb}
    (same : ∀ key, key ≠ "nodes" → other.get key = main.get key)
    (read : readJsonDb env main = some db) :
    readJsonDb env other = (readNodeList env db.settings other).map fun nodes =>
      { settings := db.settings, nodes := nodes.1, pool := nodes.2,
        file := refreshedFile env other } := by
  rw [readJsonDb, readNetworkSettings_congr env same,
    (readJsonDb_eq_some_iff.mp read).1]
  simp only [Option.bind_eq_bind, Option.bind_some]
  cases readNodeList env db.settings other <;> rfl

/-- A file in which one record of the node list is another one. -/
structure RecordChanged (file after : Json) (index : Nat)
    (change : Json → Json) : Prop where
  others : ∀ key, key ≠ "nodes" → after.get key = file.get key
  records : nodeRecords after =
    (nodeRecords file).map fun records => records.modify index change

theorem recordChanged_changeRecord (file : Json) (index : Nat)
    (change : Json → Json) :
    RecordChanged file (changeRecord file index change) index change where
  others key different := Json.get_changeField_ne file different _
  records := by
    unfold nodeRecords changeRecord
    cases isNodes : file.get "nodes" with
    | none => rw [Json.changeField, isNodes, isNodes, Option.bind_none,
        Option.map_none]
    | some nodes =>
        rw [Option.bind_some]
        cases array : nodes.items with
        | none =>
            have same : nodes.changeIdx index change = nodes := by
              cases nodes with
              | array items => cases array
              | _ => rfl
            rw [Json.changeField, isNodes]
            simp only [same]
            rw [Json.get_add_self (Json.isObject_of_get isNodes)
              (Json.isValue_of_get isNodes), Option.bind_some, array, Option.map_none]
        | some records =>
            have changed := Json.items_changeIdx array index change
            rw [Json.get_changeField_self isNodes (Json.isValue_of_items changed),
              Option.bind_some, changed, Option.map_some]

theorem RecordChanged.refl (file : Json) (index : Nat) :
    RecordChanged file file index id where
  others _ _ := rfl
  records := by simp

theorem RecordChanged.trans {file between after : Json} {index : Nat}
    {first second : Json → Json} (one : RecordChanged file between index first)
    (two : RecordChanged between after index second) :
    RecordChanged file after index (second ∘ first) where
  others key different := (two.others key different).trans (one.others key different)
  records := by
    rw [two.records, one.records, Option.map_map]
    congr 1
    funext records
    exact List.modify_modify_eq first second index records

/-- A record that reserves the same addresses as the one before changes its own
node only. -/
theorem readJsonDb_recordChanged {env : LoadEnv} {file after : Json}
    {db : LoadedDb} (read : readJsonDb env file = some db) {index : Nat}
    {change : Json → Json} (changed : RecordChanged file after index change)
    {records : List Json} (found : nodeRecords file = some records)
    {record : Json} (atIndex : records[index]? = some record) :
    ∃ before next node,
      parseNode (env.randomKey "nodes" index) db.settings.appKeys before false
        record = some (node, next) ∧
      db.nodes[index]? = some node ∧
      ((∀ other final, parseNode (env.randomKey "nodes" index) db.settings.appKeys
          before false (change record) = some (other, final) → final = next) →
        readJsonDb env after =
          (parseNode (env.randomKey "nodes" index) db.settings.appKeys before false
            (change record)).map fun parsed =>
              { db with
                nodes := db.nodes.set index parsed.1
                file := refreshedFile env after }) := by
  have nodesRead := (readJsonDb_eq_some_iff.mp read).2.1
  rw [readNodeList_eq found] at nodesRead
  rcases readNodes_modify atIndex nodesRead with
    ⟨before, next, node, parsed, isNode, changes⟩
  rw [Nat.zero_add] at parsed changes
  refine ⟨before, next, node, parsed, isNode, fun sameBlock => ?_⟩
  rw [readJsonDb_congr changed.others read,
    readNodeList_eq (changed.records.trans (congrArg _ found)),
    changes change sameBlock, Option.map_map]
  rfl

/-! ## Finding a record again -/

theorem findRecord_spec {primary : U16} {records : List Json} {index : Nat}
    (found : findRecord primary records = some index) :
    ∃ record, records[index]? = some record ∧
      recordPrimary record = some primary := by
  induction records generalizing index with
  | nil => cases found
  | cons record records induction =>
      rw [findRecord] at found
      split at found
      · cases found
      · next addr isAddr =>
          split at found
          · next same =>
              cases found
              exact ⟨record, rfl, by rw [isAddr, same]⟩
          · rcases Option.map_eq_some_iff.mp found with ⟨before, isBefore, rfl⟩
            exact induction isBefore

/-- A change that leaves every record its address leaves the search as it
was. -/
theorem findRecord_modify {primary : U16} {change : Json → Json}
    (same : ∀ record, recordPrimary (change record) = recordPrimary record)
    (records : List Json) (index : Nat) :
    findRecord primary (records.modify index change) =
      findRecord primary records := by
  induction records generalizing index with
  | nil => simp
  | cons record records induction =>
      cases index with
      | zero => rw [List.modify_zero_cons, findRecord, findRecord, same]
      | succ index =>
          rw [List.modify_succ_cons, findRecord, findRecord, induction]

/-- A change of a record that changes its configuration only. -/
structure Reconfigures (change configure : Json → Json) : Prop where
  others : ∀ (record : Json) key, key ≠ "configuration" →
    (change record).get key = record.get key
  configuration : ∀ record : Json,
    (change record).get "configuration" =
      (record.get "configuration").map configure

theorem reconfigures_changeField {configure : Json → Json}
    (isValue : ∀ config : Json, config.IsValue → (configure config).IsValue) :
    Reconfigures (Json.changeField "configuration" configure) configure where
  others record _ different := Json.get_changeField_ne record different configure
  configuration record := Json.get_changeField record "configuration" isValue

theorem Reconfigures.refl : Reconfigures id id where
  others _ _ _ := rfl
  configuration record := by simp

theorem Reconfigures.trans {first second configure reconfigure : Json → Json}
    (one : Reconfigures first configure) (two : Reconfigures second reconfigure) :
    Reconfigures (second ∘ first) (reconfigure ∘ configure) where
  others record key different :=
    (two.others (first record) key different).trans
      (one.others record key different)
  configuration record := by
    rw [Function.comp_apply, two.configuration, one.configuration, Option.map_map]

theorem Reconfigures.recordPrimary {change configure : Json → Json}
    (changes : Reconfigures change configure)
    (elements : ∀ config : Json,
      (configure config).get "elements" = config.get "elements") (record : Json) :
    recordPrimary (change record) = recordPrimary record := by
  unfold Db.recordPrimary
  rw [changes.configuration]
  cases record.get "configuration" with
  | none => rfl
  | some config =>
      simp only [Option.map_some, Option.bind_eq_bind, Option.bind_some, elements]

/-- The node list in which a node was found. -/
theorem findNodeByPrimary_spec {main : Json} {primary : U16} {index : Nat}
    (found : findNodeByPrimary main primary = some index) :
    ∃ records record, nodeRecords main = some records ∧
      findRecord primary records = some index ∧
      records[index]? = some record ∧ recordPrimary record = some primary := by
  rcases Option.bind_eq_some_iff.mp found with ⟨records, areRecords, isIndex⟩
  rcases findRecord_spec isIndex with ⟨record, atIndex, isPrimary⟩
  exact ⟨records, record, areRecords, isIndex, atIndex, isPrimary⟩

/-- A record with an address has a configuration. -/
theorem configuration_of_recordPrimary {record : Json} {primary : U16}
    (isPrimary : recordPrimary record = some primary) :
    ∃ config, record.get "configuration" = some config ∧ config.IsObject := by
  rcases Option.bind_eq_some_iff.mp isPrimary with ⟨config, isConfig, more⟩
  rcases Option.bind_eq_some_iff.mp more with ⟨elements, isElements, _⟩
  exact ⟨config, isConfig, Json.isObject_of_get isElements⟩

/-- A node is found in the same place when its record has been changed. -/
theorem RecordChanged.findNodeByPrimary {file after : Json} {index : Nat}
    {change : Json → Json} (changed : RecordChanged file after index change)
    (same : ∀ record, recordPrimary (change record) = recordPrimary record)
    (primary : U16) :
    findNodeByPrimary after primary = findNodeByPrimary file primary := by
  unfold Db.findNodeByPrimary
  rw [changed.records]
  cases nodeRecords file with
  | none => rfl
  | some records => exact findRecord_modify same records index

/-- A record with another configuration, but the same elements, reserves the same
addresses. -/
theorem parseNode_reconfigured {random : Option Key} {appKeys : List MeshAppKey}
    {pool next : List U32} {record other config changed : Json} {node : MeshNode}
    (parsed : parseNode random appKeys pool false record = some (node, next))
    (same : ∀ key, key ≠ "configuration" → other.get key = record.get key)
    (isConfig : record.get "configuration" = some config)
    (isChanged : other.get "configuration" = some changed)
    (elements : changed.get "elements" = config.get "elements") :
    ∃ placed : MeshNode, placed.netKeys = [] ∧ placed.appKeys = [] ∧
      parseNode random appKeys pool false other =
        (parseNodeConfiguration appKeys placed changed).map
          fun node => (node, next) := by
  rcases parseNode_eq_some_iff.mp parsed with
    ⟨start, _, value, items, placed, identity, found, isValue, areItems, isPlaced, _⟩
  cases isConfig.symm.trans found
  have before := parseNodeIdentity_keys identity
  have keys := parseConfigurationElements_keys isPlaced
  refine ⟨placed, keys.1.trans before.1, keys.2.trans before.2, ?_⟩
  unfold parseNode
  rw [parseNodeIdentity_congr random false same, identity, isChanged]
  simp only [Option.bind_eq_bind, Option.bind_some, elements, isValue, areItems,
    isPlaced]
  cases parseNodeConfiguration appKeys placed changed <;> rfl

end Meshctl.Db
