import Meshctl.Db.ConfigurationReading

/-! # Reading a node record with another model

The elements of a record are read with the addresses of the node, and before its
keys. None of this looks at the models, so that an update of a model shows behind
all of it.
-/

namespace Meshctl.Db

open Net Text Commutation

/-! ## The elements -/

abbrev PlacedNode := MeshNode × List U32

def setElements (placed : PlacedNode) (elements : List MeshElement) : PlacedNode :=
  ({ placed.1 with elements }, placed.2)

def setNode (placed : PlacedNode) (node : MeshNode) : PlacedNode :=
  (node, placed.2)

theorem placedLens : Lens (fun placed : PlacedNode => placed.1.elements) setElements where
  get_set _ _ := rfl
  set_set _ _ _ := rfl

theorem nodeLens : Lens (Prod.fst : PlacedNode → MeshNode) setNode where
  get_set _ _ := rfl
  set_set _ _ _ := rfl

/-- Update a model while the pool is carried along. -/
def updatePlaced (eleIdx : Byte) (modelId : U32)
    (update : MeshModel → Option MeshModel) : PlacedNode → Option PlacedNode :=
  onPart Prod.fst setNode (updateModel eleIdx modelId update)

/-- What does not look at the elements can be put off. -/
theorem putOff_updatePlaced {step : PlacedNode → Option PlacedNode}
    (ignores : Ignores setElements step) (eleIdx : Byte) (modelId : U32)
    (update : MeshModel → Option MeshModel) :
    PutOff step (updatePlaced eleIdx modelId update) := by
  have same : updatePlaced eleIdx modelId update =
      onPart (fun placed : PlacedNode => placed.1.elements) setElements
        (updateFirst (fun element => element.index = eleIdx)
          (updateElement modelId update)) := by
    funext placed
    rw [updatePlaced, onPart, updateModel, onPart, Option.map_map]
    rfl
  rw [same]
  exact ignores.putOff placedLens (fun _ => rfl) _

theorem placeNode_ignores (count : Nat) (isLocal : Bool) (index : Int)
    (element : Json) :
    Ignores setElements fun placed => placeNode count isLocal index placed element := by
  intro placed elements
  simp only [placeNode]
  split
  · rw [Option.map_map]
    rfl
  · rfl

/-- An element is read after the node has got the address. -/
theorem parseConfigurationElement_eq {count : Nat} {isLocal : Bool} {element value : Json}
    (isIndex : element.get "elementIndex" = some value)
    (inside : Json.getInt (some value) < count) (placed : PlacedNode) :
    parseConfigurationElement count isLocal placed element =
      (placeNode count isLocal (Json.getInt (some value)) placed element).bind
        (onPart Prod.fst setNode fun node =>
          parseIfPresent (parseElementModels (BitVec.ofInt 8 (Json.getInt (some value))))
            node (element.get "models")) := by
  rw [parseConfigurationElement, isIndex]
  simp only [Option.bind_eq_bind, Option.bind_some]
  rw [if_neg (not_le.mpr inside)]
  cases placeNode count isLocal (Json.getInt (some value)) placed element with
  | none => rfl
  | some after =>
      simp only [Option.bind_some, onPart]
      cases parseIfPresent (parseElementModels
          (BitVec.ofInt 8 (Json.getInt (some value)))) after.1 (element.get "models") <;> rfl

section Elements

variable {change : Json → Json} {update : MeshModel → Option MeshModel}
  {count : Nat} {isLocal : Bool} {eleIdx : Byte} {modelId : U32}

theorem parseConfigurationElement_changed (records : Records change update)
    (configures : Configures update) {element value : Json} (tidy : TidyElement element)
    (isIndex : element.get "elementIndex" = some value)
    (same : BitVec.ofInt 8 (Json.getInt (some value)) = eleIdx)
    {placed next : PlacedNode}
    (parsed : parseConfigurationElement count isLocal placed element = some next) :
    parseConfigurationElement count isLocal placed
        (changeElementRecord modelId change element) =
      updatePlaced eleIdx modelId update next := by
  rcases parseConfigurationElement_eq_some_iff.mp parsed with
    ⟨_, between, node, isValue, inside, isPlaced, models, rfl⟩
  cases isIndex.symm.trans isValue
  have isIndex' : (changeElementRecord modelId change element).get "elementIndex" =
      some value := by
    rw [get_changeElementRecord_ne (by decide), isIndex]
  have isPlaced' : placeNode count isLocal (Json.getInt (some value)) placed
      (changeElementRecord modelId change element) = some between := by
    rw [← isPlaced, placeNode, placeNode, parsePrimary, parsePrimary,
      get_changeElementRecord_ne (by decide)]
  rw [same] at models
  have changed := @parseElementModels_changed change update eleIdx modelId element
    between.1 node records configures (Json.isObject_of_get isIndex) tidy models
  rw [parseConfigurationElement_eq isIndex' inside, isPlaced', Option.bind_some,
    onPart, same, changed]
  rfl

theorem parseConfigurationElement_putOff (configures : Configures update)
    {element : Json}
    (different : BitVec.ofInt 8 (Json.getInt (element.get "elementIndex")) ≠ eleIdx) :
    PutOff (fun placed => parseConfigurationElement count isLocal placed element)
      (updatePlaced eleIdx modelId update) := by
  intro placed next parsed
  rcases parseConfigurationElement_eq_some_iff.mp parsed with
    ⟨value, _, _, isIndex, inside, _, _, _⟩
  rw [isIndex] at different
  have each : PutOff (fun placed => parseConfigurationElement count isLocal placed element)
      (updatePlaced eleIdx modelId update) := by
    simp only [parseConfigurationElement_eq isIndex inside]
    apply PutOff.bind
    · exact putOff_updatePlaced (placeNode_ignores count isLocal _ element) _ _ _
    · exact (parseElementModels_putOff configures different _).onPart nodeLens
  exact each placed next parsed

/-- The elements of a record, each in the place that its index says. -/
structure TidyElements (elements : List Json) : Prop where
  small : elements.length ≤ 256
  ordered : ∀ (position : Nat) (element : Json), elements[position]? = some element →
    Json.getInt (element.get "elementIndex") = position
  tidy : ∀ element ∈ elements, TidyElement element

theorem TidyElements.index {elements : List Json} (tidy : TidyElements elements)
    {position : Nat} {element : Json} (atPosition : elements[position]? = some element) :
    BitVec.ofInt 8 (Json.getInt (element.get "elementIndex")) =
      BitVec.ofNat 8 position := by
  rw [tidy.ordered position element atPosition, BitVec.ofInt_natCast]

theorem parseElements_changed (records : Records change update)
    (configures : Configures update) {elements : List Json}
    (tidy : TidyElements elements) (inside : eleIdx.toNat < elements.length)
    {start next : PlacedNode}
    (parsed : elements.foldlM (parseConfigurationElement count isLocal) start =
      some next) :
    (elements.modify eleIdx.toNat (changeElementRecord modelId change)).foldlM
        (parseConfigurationElement count isLocal) start =
      updatePlaced eleIdx modelId update next := by
  have atIndex := List.getElem?_eq_getElem inside
  generalize elements[eleIdx.toNat] = element at atIndex
  have isIndex := tidy.index atIndex
  rw [BitVec.ofNat_toNat, BitVec.setWidth_eq] at isIndex
  refine foldlM_modify atIndex ?_ ?_ parsed
  · intro placed after read
    rcases parseConfigurationElement_eq_some_iff.mp read with ⟨value, _, _, isValue, _⟩
    rw [isValue] at isIndex
    exact parseConfigurationElement_changed records configures
      (tidy.tidy element (List.mem_of_getElem? atIndex)) isValue isIndex read
  · intro position behind later isBehind
    apply parseConfigurationElement_putOff configures
    rw [tidy.index isBehind]
    intro same
    have below := (List.getElem?_eq_some_iff.mp isBehind).1
    have small := tidy.small
    rw [← same, BitVec.toNat_ofNat, Nat.mod_eq_of_lt (by omega)] at later
    omega

theorem TidyElements.changed (records : Records change update)
    {elements : List Json} (tidy : TidyElements elements) {start next : PlacedNode}
    (parsed : elements.foldlM (parseConfigurationElement count isLocal) start =
      some next) (position : Nat) :
    TidyElements (elements.modify position (changeElementRecord modelId change)) where
  small := by
    rw [List.length_modify]
    exact tidy.small
  ordered other element atOther := by
    rw [List.getElem?_modify] at atOther
    rcases Option.map_eq_some_iff.mp atOther with ⟨before, isBefore, isElement⟩
    rw [← isElement, ← tidy.ordered other before isBefore]
    split
    · rw [get_changeElementRecord_ne (by decide)]
    · rfl
  tidy element member := by
    rcases mem_modify member with old | ⟨before, atPosition, rfl⟩
    · exact tidy.tidy element old
    · have isMember := List.mem_of_getElem? atPosition
      rcases foldlM_takes parsed before isMember with ⟨placed, after, taken⟩
      rcases parseConfigurationElement_eq_some_iff.mp taken with
        ⟨value, between, node, isValue, _, _, models, _⟩
      exact (tidy.tidy before isMember).changed records
        (Json.isObject_of_get isValue) models

/-- An element that is read is an object, and its models are a list. -/
theorem element_of_parsed {elements : List Json} {start next : PlacedNode}
    (parsed : elements.foldlM (parseConfigurationElement count isLocal) start =
      some next) {element : Json} (member : element ∈ elements) :
    element.IsObject ∧ ∃ models, elementModels element = some models := by
  rcases foldlM_takes parsed element member with ⟨placed, after, taken⟩
  rcases parseConfigurationElement_eq_some_iff.mp taken with
    ⟨value, between, node, isValue, _, _, isRead, _⟩
  rcases parseElementModels_eq_some_iff.mp isRead with ⟨models, areModels, _⟩
  exact ⟨Json.isObject_of_get isValue, models, areModels⟩

end Elements

/-! ## Behind the elements -/

def setNodeElements (node : MeshNode) (elements : List MeshElement) : MeshNode :=
  { node with elements }

theorem parseNodeKeys_ignores {keyAdd : MeshNode → U16 → Option MeshNode}
    (ignores : ∀ idx, Ignores setNodeElements fun node => keyAdd node idx)
    (items : List Json) (node : MeshNode) (elements : List MeshElement) :
    parseNodeKeys keyAdd (setNodeElements node elements) items =
      (setNodeElements (parseNodeKeys keyAdd node items).1 elements,
        (parseNodeKeys keyAdd node items).2) := by
  induction items generalizing node with
  | nil => rfl
  | cons item items induction =>
      simp only [parseNodeKeys]
      cases item.pointer with
      | none => rfl
      | some value =>
          dsimp only
          split
          · have added := ignores (BitVec.ofInt 16 (Json.getInt (some value))) node elements
            dsimp only at added
            rw [added]
            cases keyAdd node (BitVec.ofInt 16 (Json.getInt (some value))) with
            | none => simp [induction]
            | some added => simp [induction]
          · rfl

theorem netKeyAdd_ignores (idx : U16) :
    Ignores setNodeElements fun node => node.netKeyAdd idx := by
  intro node elements
  simp only [MeshNode.netKeyAdd, setNodeElements, apply_ite (Option.map _),
    Option.map_none, Option.map_some]
  rfl

theorem appKeyAdd_ignores (appKeys : List MeshAppKey) (idx : U16) :
    Ignores setNodeElements fun node => node.appKeyAdd appKeys idx := by
  intro node elements
  simp only [MeshNode.appKeyAdd, setNodeElements, apply_ite (Option.map _),
    Option.map_none, Option.map_some]
  rfl

theorem parseIfPresent_ignores {parse : MeshNode → Json → Option MeshNode}
    (ignores : ∀ value, Ignores setNodeElements fun node => parse node value)
    (value : Option Json) :
    Ignores setNodeElements fun node => parseIfPresent parse node value := by
  cases value with
  | none => exact fun node elements => rfl
  | some value => exact ignores value

theorem parseAppKeys_ignores (appKeys : List MeshAppKey) (idxs : Json) :
    Ignores setNodeElements fun node => parseAppKeys appKeys node idxs := by
  intro node elements
  simp only [parseAppKeys]
  cases idxs.items with
  | none => rfl
  | some items =>
      simp only [Option.bind_eq_bind, Option.bind_some, Option.map_some,
        parseNodeKeys_ignores (appKeyAdd_ignores appKeys)]

/-- The keys and the TTL of a node do not depend on its elements. -/
theorem parseNodeConfiguration_ignores (appKeys : List MeshAppKey) (config : Json) :
    Ignores setNodeElements fun node => parseNodeConfiguration appKeys node config := by
  intro node elements
  have ttl (value : Json) : Ignores setNodeElements fun node =>
      parseDefaultTtl node value := fun node elements => rfl
  simp only [parseNodeConfiguration]
  cases config.get "netKeys" with
  | none => rfl
  | some netKeys =>
      simp only [Option.bind_eq_bind, Option.bind_some]
      cases netKeys.items with
      | none => rfl
      | some items =>
          simp only [Option.bind_some, parseNodeKeys_ignores netKeyAdd_ignores]
          split
          · rfl
          · exact (parseIfPresent_ignores (parseAppKeys_ignores appKeys) _).bind
              (parseIfPresent_ignores ttl _) _ elements

/-! ## A record -/

/-- What a change of the entry of a model does to the record of its node. -/
def configureModel (eleIdx : Byte) (modelId : U32) (change : Json → Json) :
    Json → Json :=
  Json.changeField "configuration"
    (Json.changeField "elements"
      (Json.changeIdx eleIdx.toNat (changeElementRecord modelId change)))

/-- The elements of a record. -/
def recordElements (record : Json) : Option (List Json) :=
  ((record.get "configuration").bind fun config => config.get "elements").bind
    Json.items

section Record

variable {change : Json → Json} {update : MeshModel → Option MeshModel}
  {eleIdx : Byte} {modelId : U32} {record : Json} {elements : List Json}

/-- The configuration of a changed record. -/
theorem configureModel_config (areElements : recordElements record = some elements) :
    ∃ config changed, record.get "configuration" = some config ∧
      (configureModel eleIdx modelId change record).get "configuration" = some changed ∧
      (∀ key, key ≠ "elements" → changed.get key = config.get key) ∧
      changed.get "elements" = some (.array (elements.modify eleIdx.toNat
        (changeElementRecord modelId change))) := by
  rcases Option.bind_eq_some_iff.mp areElements with ⟨list, isList, areItems⟩
  rcases Option.bind_eq_some_iff.mp isList with ⟨config, isConfig, isList⟩
  cases list with
  | array items =>
      cases areItems
      let reorder := Json.changeField "elements"
        (Json.changeIdx eleIdx.toNat (changeElementRecord modelId change))
      have isValue : (reorder config).IsValue := by
        simp only [reorder, Json.changeField, isList]
        exact ((Json.isObject_of_get isList).add _ _).isValue
      refine ⟨config, reorder config, isConfig,
        Json.get_changeField_self isConfig isValue, ?_, ?_⟩
      · intro key other
        exact Json.get_changeField_ne config other _
      · exact Json.get_changeField_self isList (Json.isValue_array _)
  | _ => cases areItems

theorem recordElements_configureModel
    (areElements : recordElements record = some elements) :
    recordElements (configureModel eleIdx modelId change record) =
      some (elements.modify eleIdx.toNat (changeElementRecord modelId change)) := by
  rcases @configureModel_config change eleIdx modelId record elements areElements with
    ⟨_, changed, _, isChanged, _, isElements⟩
  rw [recordElements, isChanged, Option.bind_some, isElements]
  rfl

/-- The elements of a record that has been read. -/
theorem parseNode_elements {random : Option Key} {appKeys : List MeshAppKey}
    {pool next : List U32} {node : MeshNode}
    (areElements : recordElements record = some elements)
    (parsed : parseNode random appKeys pool false record = some (node, next)) :
    ∃ start placed, elements.foldlM (parseConfigurationElement elements.length false)
      start = some placed := by
  rcases parseNode_eq_some_iff.mp parsed with
    ⟨start, config, list, items, placed, _, isConfig, isList, areItems, isPlaced, _⟩
  rw [recordElements, isConfig, Option.bind_some, isList, Option.bind_some,
    areItems] at areElements
  cases areElements
  exact ⟨_, _, isPlaced⟩

theorem parseNode_changed (records : Records change update)
    (configures : Configures update) (areElements : recordElements record = some elements)
    (tidy : TidyElements elements) (inside : eleIdx.toNat < elements.length)
    {random : Option Key} {appKeys : List MeshAppKey} {pool next : List U32}
    {node : MeshNode}
    (parsed : parseNode random appKeys pool false record = some (node, next)) :
    parseNode random appKeys pool false (configureModel eleIdx modelId change record) =
      (updateModel eleIdx modelId update node).map fun node => (node, next) := by
  rcases parseNode_eq_some_iff.mp parsed with
    ⟨start, config, list, items, placed, identity, isConfig, isList, areItems, isPlaced,
      configured⟩
  rcases @configureModel_config change eleIdx modelId record elements areElements with
    ⟨_, changed, isConfig', isChanged, others, isElements⟩
  cases isConfig.symm.trans isConfig'
  rw [recordElements, isConfig, Option.bind_some, isList, Option.bind_some,
    areItems] at areElements
  cases areElements
  have same (key : String) (other : key ≠ "configuration") :
      (configureModel eleIdx modelId change record).get key = record.get key :=
    Json.get_changeField_ne record other _
  have elementsRead : parseConfigurationElements start pool false
      (elements.modify eleIdx.toNat (changeElementRecord modelId change)) =
        updatePlaced eleIdx modelId update (placed, next) := by
    rw [parseConfigurationElements, List.length_modify]
    exact parseElements_changed records configures tidy inside isPlaced
  have sameKeys (other : MeshNode) : parseNodeConfiguration appKeys other changed =
      parseNodeConfiguration appKeys other config := by
    rw [parseNodeConfiguration, others _ (by decide), others _ (by decide),
      others _ (by decide)]
    rfl
  have keysRead : (updateModel eleIdx modelId update placed).bind
      (fun node => parseNodeConfiguration appKeys node config) =
        updateModel eleIdx modelId update node :=
    (parseNodeConfiguration_ignores appKeys config).putOff elementsLens (fun _ => rfl) _
      placed node configured
  rw [parseNode, parseNodeIdentity_congr random false same, identity, isChanged]
  simp only [Option.bind_eq_bind, Option.bind_some, isElements, Json.items,
    elementsRead, sameKeys]
  rw [← keysRead, updatePlaced, onPart]
  cases updateModel eleIdx modelId update placed with
  | none => rfl
  | some updated =>
      simp only [Option.map_some, Option.bind_some, setNode]
      cases parseNodeConfiguration appKeys updated config <;> rfl

end Record

end Meshctl.Db
