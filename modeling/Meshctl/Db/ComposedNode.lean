import Meshctl.Db.CompositionReload
import Meshctl.Db.NewNode
import Meshctl.Db.StoredConfiguration

/-! # A node whose composition has just been stored

The record of such a node has its elements in order and no configuration, so that
it is in step with the node.
-/

namespace Meshctl.Db

open Net Text Commutation

/-! ## Models that have not been configured -/

def Unconfigured (elements : List MeshElement) : Prop :=
  ∀ element ∈ elements, ∀ model ∈ element.models, model = MeshModel.new model.id

theorem unconfigured_spanElements (data : Nat → Byte) (loc : ElementSpan → U16)
    (spans : List ElementSpan) (first : Nat) :
    Unconfigured (spanElements data loc spans first) := by
  intro element isElement model isModel
  rcases List.mem_map.mp isElement with ⟨entry, _, rfl⟩
  rcases List.mem_map.mp isModel with ⟨id, _, rfl⟩
  rfl

/-- Such a model is known by its id. -/
theorem findModel_unconfigured {elements : List MeshElement}
    (unconfigured : Unconfigured elements) {element : MeshElement}
    (member : element ∈ elements) (modelId : U32) :
    element.findModel modelId =
      if modelId ∈ element.modelIds then some (MeshModel.new modelId) else none := by
  rw [MeshElement.findModel]
  split
  next present =>
    rcases List.mem_map.mp present with ⟨model, isModel, isId⟩
    have found : (element.models.find? fun model => model.id = modelId).isSome :=
      List.find?_isSome.mpr ⟨model, isModel, decide_eq_true isId⟩
    rcases Option.isSome_iff_exists.mp found with ⟨other, isOther⟩
    have sameId : other.id = modelId := by simpa using List.find?_some isOther
    rw [isOther, unconfigured element member other (List.mem_of_find?_eq_some isOther),
      sameId]
  next absent =>
    rw [List.find?_eq_none]
    intro model isModel isId
    exact absent (List.mem_map.mpr ⟨model, isModel, of_decide_eq_true isId⟩)

theorem sameConfiguration_of_unconfigured {first second : MeshNode}
    (one : Unconfigured first.elements) (two : Unconfigured second.elements)
    (same : ∀ eleIdx, (first.findElement eleIdx).map MeshElement.modelIds =
      (second.findElement eleIdx).map MeshElement.modelIds) :
    SameConfiguration first second := by
  intro eleIdx modelId
  have here := same eleIdx
  rw [MeshNode.getModel, MeshNode.getModel]
  cases isFirst : first.findElement eleIdx with
  | none =>
      rw [isFirst, Option.map_none] at here
      rw [Option.map_eq_none_iff.mp here.symm]
  | some element =>
      rw [isFirst, Option.map_some] at here
      rcases Option.map_eq_some_iff.mp here.symm with ⟨other, isOther, sameIds⟩
      rw [isOther, Option.bind_some, Option.bind_some,
        findModel_unconfigured one (List.mem_of_find?_eq_some isFirst),
        findModel_unconfigured two (List.mem_of_find?_eq_some isOther), sameIds]

/-! ## The record -/

theorem tidyElements_new (primary : U16) (numEle : Byte) :
    TidyElements ((List.range numEle.toNat).map (newElementRecord primary)) where
  small := by
    rw [List.length_map, List.length_range]
    exact numEle.isLt.le
  ordered position element atPosition := by
    rw [List.getElem?_map] at atPosition
    rcases Option.map_eq_some_iff.mp atPosition with ⟨index, isIndex, rfl⟩
    rcases List.getElem?_eq_some_iff.mp isIndex with ⟨inside, rfl⟩
    rw [List.length_range] at inside
    rw [List.getElem_range]
    exact Json.getInt_int (lt_trans inside (lt_trans numEle.isLt (by decide)))
  tidy element member := by
    rcases List.mem_map.mp member with ⟨index, _, rfl⟩
    intro models items isList
    cases isList

/-- What the keys of a node leave alone. -/
def SamePlace (node next : MeshNode) : Prop :=
  next.elements = node.elements ∧ next.primary = node.primary

theorem parseNodeKeys_samePlace {keyAdd : MeshNode → U16 → Option MeshNode}
    (kept : ∀ node idx next, keyAdd node idx = some next → SamePlace node next)
    (items : List Json) (node : MeshNode) :
    SamePlace node (parseNodeKeys keyAdd node items).1 := by
  induction items generalizing node with
  | nil => exact ⟨rfl, rfl⟩
  | cons item items induction =>
      simp only [parseNodeKeys]
      cases item.pointer with
      | none => exact ⟨rfl, rfl⟩
      | some value =>
          dsimp only
          split
          · cases added : keyAdd node (BitVec.ofInt 16 (Json.getInt (some value))) with
            | none => exact induction node
            | some after =>
                have one := kept node _ after added
                have two := induction after
                exact ⟨two.1.trans one.1, two.2.trans one.2⟩
          · exact ⟨rfl, rfl⟩

theorem netKeyAdd_samePlace (node : MeshNode) (idx : U16) (next : MeshNode)
    (added : node.netKeyAdd idx = some next) : SamePlace node next := by
  rw [MeshNode.netKeyAdd] at added
  split at added
  · cases added
  · cases added
    exact ⟨rfl, rfl⟩

theorem appKeyAdd_samePlace (appKeys : List MeshAppKey) (node : MeshNode) (idx : U16)
    (next : MeshNode) (added : node.appKeyAdd appKeys idx = some next) :
    SamePlace node next := by
  simp only [MeshNode.appKeyAdd] at added
  repeat' split at added
  all_goals cases added
  exact ⟨rfl, rfl⟩

theorem parseNodeConfiguration_samePlace {appKeys : List MeshAppKey}
    {node next : MeshNode} {config : Json}
    (parsed : parseNodeConfiguration appKeys node config = some next) :
    SamePlace node next := by
  rcases Option.bind_eq_some_iff.mp parsed with ⟨netKeys, _, more⟩
  rcases Option.bind_eq_some_iff.mp more with ⟨items, _, more⟩
  simp only at more
  split at more
  · cases more
  · rcases Option.bind_eq_some_iff.mp more with ⟨keyed, isKeyed, timed⟩
    have withKeys := parseIfPresent_invariant (SamePlace node) (fun other idxs after same
      step => by
        rcases Option.bind_eq_some_iff.mp step with ⟨entries, _, isAfter⟩
        cases isAfter
        have kept := parseNodeKeys_samePlace (appKeyAdd_samePlace appKeys) entries other
        exact ⟨kept.1.trans same.1, kept.2.trans same.2⟩)
      (parseNodeKeys_samePlace netKeyAdd_samePlace items node) isKeyed
    exact parseIfPresent_invariant (SamePlace node) (fun other value after same step => by
      cases step
      exact same) withKeys timed

/-! ## In step -/

/-- The elements of a record that has a composition are those of the composition. -/
theorem parseNodeIdentity_composition {random : Option Key} {record : Json}
    {comp : MeshNodeComposition} {data : Nat → Byte} {spans : List ElementSpan}
    (small : spans.length ≤ 256)
    (isComp : record.get "composition" =
      some (compositionRecord comp (spanRecords data spans 0)))
    {start : MeshNode} (parsed : parseNodeIdentity random false record = some start) :
    start.elements = spanElements data (fun _ => 0) spans 0 := by
  rcases Option.bind_eq_some_iff.mp parsed with ⟨key, _, more⟩
  simp only [isComp] at more
  split at more
  · cases more
  · rw [parseNodeComposition_compositionRecord data rfl rfl comp small] at more
    cases more
    rfl

section

variable {env : LoadEnv} {db : LoadedDb} {file after record : Json}
  {node composed : MeshNode} {data : Nat → Byte} {len : U16} {index : Nat}

/-- What is read from a record with the elements of a new node. -/
theorem parseNode_newElements {random : Option Key} {appKeys : List MeshAppKey}
    {pool next : List U32} {loaded : MeshNode} {primary : U16} {numEle : Byte}
    (positive : numEle ≠ 0)
    (areElements : recordElements record =
      some ((List.range numEle.toNat).map (newElementRecord primary)))
    (parsed : parseNode random appKeys pool false record = some (loaded, next)) :
    ∃ start, parseNodeIdentity random false record = some start ∧
      loaded.elements = start.elements ∧ loaded.primary = primary := by
  rcases parseNode_eq_some_iff.mp parsed with
    ⟨start, config, list, items, placed, identity, isConfig, isList, areItems, isPlaced,
      configured⟩
  have kept := parseNodeConfiguration_samePlace configured
  rw [recordElements, isConfig, Option.bind_some, isList, Option.bind_some,
    areItems] at areElements
  cases areElements
  rw [parseConfigurationElements_new start pool primary positive] at isPlaced
  simp only at isPlaced
  split at isPlaced
  · cases isPlaced
    exact ⟨start, identity, kept.1, kept.2⟩
  · cases isPlaced

/-- A node that gets its composition is in step with a database that is accepted with
this composition. -/
theorem inStep_composed (noElements : node.elements = []) (positive : node.numEle ≠ 0)
    (found : findNodeByPrimary file node.primary = some index)
    {records : List Json} (areRecords : nodeRecords file = some records)
    (atIndex : records[index]? = some record)
    (areElements : recordElements record =
      some ((List.range node.numEle.toNat).map (newElementRecord node.primary)))
    (same : SameModels data len node.numEle)
    (parsed : nodeParseComposition node data len = some composed)
    (added : provDbAddNodeComposition file composed data len = some after)
    (read : readJsonDb env after = some db) : InStep env after composed := by
  rw [nodeParseComposition_eq noElements] at parsed
  cases parsed
  rcases provDbAddNodeComposition_eq_some_iff.mp added with
    ⟨comp, _, isComp, found', rfl⟩
  cases found.symm.trans found'
  have small : node.numEle.toNat ≤ 256 := node.numEle.isLt.le
  generalize isRecord : compositionRecord comp (spanRecords data (elementSpans 4 data
    node.numEle.toNat (elementsStart len)) 0) = composition at added read ⊢
  let change : Json → Json := fun record => record.add "composition" composition
  have changed := recordChanged_changeRecord file index change
  have samePrimary (record : Json) : recordPrimary (change record) =
      recordPrimary record := by
    unfold recordPrimary
    rw [Json.get_add_ne record _ (by decide : "configuration" ≠ "composition")]
  have refound := (changed.findNodeByPrimary samePrimary node.primary).trans found
  have records' := changed.records.trans (congrArg _ areRecords)
  have atIndex' : (records.modify index change)[index]? = some (change record) := by
    rw [List.getElem?_modify_eq, atIndex]
    rfl
  have elements' : recordElements (change record) =
      some ((List.range node.numEle.toNat).map (newElementRecord node.primary)) := by
    rw [← areElements, recordElements, recordElements,
      Json.get_add_ne record _ (by decide : "configuration" ≠ "composition")]
  rcases readJsonDb_recordChanged read (RecordChanged.refl _ index) records' atIndex' with
    ⟨before, next, loaded, isParsed, isLoaded, _⟩
  rcases parseNode_newElements positive elements' isParsed with
    ⟨start, identity, loadedElements, place⟩
  have object : record.IsObject := by
    rcases Option.bind_eq_some_iff.mp areElements with ⟨list, isList, _⟩
    rcases Option.bind_eq_some_iff.mp isList with ⟨config, isConfig, _⟩
    exact Json.isObject_of_get isConfig
  have composition' : (change record).get "composition" = some composition := by
    refine Json.get_add_self object ?_ "composition"
    rw [← isRecord]
    rfl
  rw [← isRecord] at composition'
  rw [parseNodeIdentity_composition ((length_elementSpans 4 data node.numEle.toNat
    (elementsStart len)).trans_le small) composition' identity] at loadedElements
  constructor
  · refine ⟨index, db, loaded, refound, read, isLoaded, place, ?_⟩
    apply sameConfiguration_of_unconfigured
    · dsimp only
      exact unconfigured_spanElements data _ _ 0
    · rw [loadedElements]
      exact unconfigured_spanElements data _ _ 0
    · have sameIds := (sameElements_iff data (fun span => getLe16 data (span.start - 4))
        (fun _ => 0)
        ((length_elementSpans 2 data node.numEle.toNat (elementsStart len)).trans_le small)
        ((length_elementSpans 4 data node.numEle.toNat (elementsStart len)).trans_le
          small)).mpr same
      intro eleIdx
      rw [MeshNode.findElement, MeshNode.findElement, loadedElements]
      exact sameIds eleIdx
  · refine ⟨index, _, _, _, refound, records', atIndex', elements',
      tidyElements_new node.primary node.numEle, ?_⟩
    intro eleIdx modelId isModel
    have isElement := Option.isSome_of_isSome_bind isModel
    have ids := find_spanElements data (fun span => getLe16 data (span.start - 4))
      (elementSpans 2 data node.numEle.toNat (elementsStart len)) eleIdx
      (Nat.zero_le _) (by rw [length_elementSpans]; omega)
    rw [MeshNode.findElement] at isElement
    rw [← Option.isSome_map, ids, Option.isSome_map, Nat.sub_zero] at isElement
    rcases Option.isSome_iff_exists.mp isElement with ⟨span, isSpan⟩
    have inside := (List.getElem?_eq_some_iff.mp isSpan).1
    rw [length_elementSpans] at inside
    rwa [List.length_map, List.length_range]

end

end Meshctl.Db
