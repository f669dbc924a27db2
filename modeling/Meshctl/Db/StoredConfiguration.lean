import Meshctl.Db.RecordReading

/-! # The configuration of a node and of its record

A node and the database are in step when reading the database gives a node with
the same configuration. An update of a model that is made in the node and in its
record keeps them in step.
-/

namespace Meshctl.Db

open Net Text Commutation

/-! ## Finding the record again -/

theorem pointer_changeElementRecord (modelId : U32) (change : Json → Json)
    (element : Json) :
    (changeElementRecord modelId change element).pointer =
      element.pointer.map (changeElementRecord modelId change) := by
  have isValue (element : Json) (isValue : element.IsValue) :
      (changeElementRecord modelId change element).IsValue := by
    rw [changeElementRecord.eq_def]
    split
    · exact isValue.add "models" _
    · exact isValue.add "models" _
    · exact isValue
  cases element with
  | null => rfl
  | _ => exact isValue _ rfl

/-- The first item of an array, and the address in it, after a change. -/
theorem firstAddress_changeIdx (index : Nat) (modelId : U32) (change : Json → Json)
    (elements : Json) :
    ((Json.changeIdx index (changeElementRecord modelId change) elements).getIdx 0).map
        (fun element => element.get "unicastAddress") =
      (elements.getIdx 0).map fun element => element.get "unicastAddress" := by
  cases elements with
  | array items =>
      simp only [Json.changeIdx, Json.getIdx, Json.items, Option.bind_some,
        List.getElem?_modify]
      cases items[0]? with
      | none => rfl
      | some element =>
          simp only [Option.map_eq_map, Option.map_some, Option.bind_some]
          split
          · rw [pointer_changeElementRecord, Option.map_map]
            congr 1
            funext element
            exact get_changeElementRecord_ne (by decide) modelId change element
          · rfl
  | _ => rfl

theorem recordPrimary_configureModel (eleIdx : Byte) (modelId : U32)
    (change : Json → Json) (record : Json) :
    recordPrimary (configureModel eleIdx modelId change record) =
      recordPrimary record := by
  have elementsValue (elements : Json) (isValue : elements.IsValue) :
      (Json.changeIdx eleIdx.toNat (changeElementRecord modelId change)
        elements).IsValue := by
    cases elements with
    | array items => rfl
    | _ => exact isValue
  have configValue (config : Json) (isValue : config.IsValue) :
      (Json.changeField "elements" (Json.changeIdx eleIdx.toNat
        (changeElementRecord modelId change)) config).IsValue := by
    rw [Json.changeField]
    split
    · exact isValue
    · exact isValue.add "elements" _
  unfold recordPrimary
  rw [configureModel, Json.get_changeField record "configuration" configValue]
  cases record.get "configuration" with
  | none => rfl
  | some config =>
      simp only [Option.map_some, Option.bind_eq_bind, Option.bind_some,
        Json.get_changeField config "elements" elementsValue]
      cases config.get "elements" with
      | none => rfl
      | some elements =>
          have same := firstAddress_changeIdx eleIdx.toNat modelId change elements
          have sameAddress := congrArg (Option.bind · readHex16) same
          rw [Option.bind_map, Option.bind_map] at sameAddress
          exact sameAddress

/-! ## Writing an entry -/

theorem getIdx_of_items {json item : Json} {items : List Json} {index : Nat}
    (areItems : json.items = some items) (atIndex : items[index]? = some item)
    (isValue : item.IsValue) : json.getIdx index = some item := by
  rw [Json.getIdx, areItems, Option.bind_some, atIndex, Option.bind_some, isValue]

/-- The entry of a model is found or made in a record that can be read. -/
theorem changeModelObj_eq {file : Json} {node : MeshNode} {index : Nat}
    {records elements : List Json} {record element : Json} {models : List Json}
    {eleIdx : Byte} (found : findNodeByPrimary file node.primary = some index)
    (areRecords : nodeRecords file = some records)
    (atIndex : records[index]? = some record)
    (areElements : recordElements record = some elements)
    (isElement : elements[eleIdx.toNat]? = some element) (object : element.IsObject)
    (areModels : elementModels element = some models) (modelId : U32)
    (change : Json → Json) :
    changeModelObj file node eleIdx modelId change =
      some (changeRecord file index (configureModel eleIdx modelId change)) := by
  rcases nodeRecords_eq_some_iff.mp areRecords with ⟨nodes, isNodes, areItems⟩
  rcases Option.bind_eq_some_iff.mp areElements with ⟨list, isList, listItems⟩
  rcases Option.bind_eq_some_iff.mp isList with ⟨config, isConfig, isList⟩
  have isRecord := getIdx_of_items areItems atIndex (Json.isObject_of_get isConfig).isValue
  have hasElement := getIdx_of_items listItems isElement object.isValue
  rw [elementModels] at areModels
  unfold changeModelObj
  simp only [Option.bind_eq_bind, found, Option.bind_some, isNodes, isRecord, isConfig,
    isList, hasElement, areModels]
  rfl

/-! ## Nodes with the same configuration -/

/-- What is configured in a model: the bindings, the subscriptions, and the address,
key index and TTL of the publication. -/
def MeshModel.configuration (model : MeshModel) :
    List U16 × List U16 × Option (U16 × U16 × Byte) :=
  (model.bindings, model.subscriptions,
    model.pub.map fun pub => (pub.addr16, pub.appIdx, pub.ttl))

def SameConfiguration (first second : MeshNode) : Prop :=
  ∀ eleIdx modelId,
    (first.getModel eleIdx modelId).map MeshModel.configuration =
      (second.getModel eleIdx modelId).map MeshModel.configuration

/-- Two updates configure models with the same configuration in the same way. -/
def Agree (update stored : MeshModel → Option MeshModel) : Prop :=
  ∀ first second : MeshModel, first.configuration = second.configuration →
    (update first).map MeshModel.configuration =
      (stored second).map MeshModel.configuration

theorem configuration_eq_iff (first second : MeshModel) :
    first.configuration = second.configuration ↔
      first.bindings = second.bindings ∧ first.subscriptions = second.subscriptions ∧
        (first.pub.map fun pub => (pub.addr16, pub.appIdx, pub.ttl)) =
          second.pub.map fun pub => (pub.addr16, pub.appIdx, pub.ttl) := by
  simp only [MeshModel.configuration, Prod.mk.injEq]

theorem agree_bindTo (appIdx : U16) :
    Agree (MeshModel.bindTo appIdx) (MeshModel.bindTo appIdx) := by
  intro first second same
  rcases (configuration_eq_iff first second).mp same with ⟨bindings, subscriptions, pub⟩
  rw [MeshModel.bindTo, MeshModel.bindTo, bindings]
  split
  · rfl
  · rw [Option.map_some, Option.map_some, Option.some_inj, configuration_eq_iff]
    exact ⟨rfl, subscriptions, pub⟩

theorem agree_subscribeTo (addr : U16) :
    Agree (MeshModel.subscribeTo addr) (MeshModel.subscribeTo addr) := by
  intro first second same
  rcases (configuration_eq_iff first second).mp same with ⟨bindings, subscriptions, pub⟩
  rw [MeshModel.subscribeTo, MeshModel.subscribeTo, subscriptions]
  split
  · rfl
  · rw [Option.map_some, Option.map_some, Option.some_inj, configuration_eq_iff]
    exact ⟨bindings, rfl, pub⟩

/-- Period and retransmissions of a publication are not stored. -/
theorem agree_publish (pub : MeshPublication) :
    Agree (MeshModel.publish pub) (MeshModel.publish (storedPub pub)) := by
  intro first second same
  rcases (configuration_eq_iff first second).mp same with ⟨bindings, subscriptions, _⟩
  rw [MeshModel.publish, MeshModel.publish, Option.map_some, Option.map_some,
    Option.some_inj, configuration_eq_iff]
  exact ⟨bindings, subscriptions, rfl⟩

section Updates

variable {update stored : MeshModel → Option MeshModel} {eleIdx : Byte} {modelId : U32}
  {node loaded next : MeshNode}

/-- Where one node can be updated, so can another one with the same
configuration. -/
theorem SameConfiguration.updateModel (same : SameConfiguration node loaded)
    (agree : Agree update stored) (configures : Configures update)
    (storedConfigures : Configures stored)
    (updated : updateModel eleIdx modelId update node = some next) :
    ∃ after, Db.updateModel eleIdx modelId stored loaded = some after ∧
      SameConfiguration next after := by
  have succeeds := @updateModel_isSome update eleIdx modelId node
  have there := same eleIdx modelId
  rw [updated, Option.isSome_some] at succeeds
  cases isModel : node.getModel eleIdx modelId with
  | none =>
      rw [isModel] at succeeds
      cases succeeds
  | some model =>
      rw [isModel, Option.map_some] at there
      rcases Option.map_eq_some_iff.mp there.symm with ⟨other, isOther, sameModel⟩
      have changed := agree model other sameModel.symm
      rw [isModel, Option.bind_some] at succeeds
      have isStored : (Db.updateModel eleIdx modelId stored loaded).isSome := by
        rw [updateModel_isSome, isOther, Option.bind_some, ← Option.isSome_map, ← changed,
          Option.isSome_map]
        exact succeeds.symm
      rcases Option.isSome_iff_exists.mp isStored with ⟨after, isAfter⟩
      refine ⟨after, isAfter, fun otherIdx otherId => ?_⟩
      by_cases here : eleIdx = otherIdx ∧ modelId = otherId
      · rcases here with ⟨rfl, rfl⟩
        rw [getModel_updateModel_self configures updated,
          getModel_updateModel_self storedConfigures isAfter, isModel, isOther]
        exact changed
      · have different : eleIdx ≠ otherIdx ∨ modelId ≠ otherId :=
          not_and_or.mp here
        rw [getModel_updateModel_other configures different updated,
          getModel_updateModel_other storedConfigures different isAfter]
        exact same otherIdx otherId

theorem updateModel_primary
    (updated : Db.updateModel eleIdx modelId update node = some next) :
    next.primary = node.primary := by
  rcases Option.map_eq_some_iff.mp updated with ⟨elements, _, rfl⟩
  rfl

theorem getModel_of_updated (configures : Configures update)
    (updated : Db.updateModel eleIdx modelId update node = some next) {otherIdx : Byte}
    {otherId : U32} (isModel : (next.getModel otherIdx otherId).isSome) :
    (node.getModel otherIdx otherId).isSome := by
  by_cases here : eleIdx = otherIdx ∧ modelId = otherId
  · rcases here with ⟨rfl, rfl⟩
    rw [getModel_updateModel_self configures updated] at isModel
    exact Option.isSome_of_isSome_bind isModel
  · rw [getModel_updateModel_other configures (not_and_or.mp here) updated] at isModel
    exact isModel

end Updates

/-! ## Nodes and their records -/

/-- Reading the database gives the node, with the same configuration. -/
def SurvivesRestart (env : LoadEnv) (file : Json) (node : MeshNode) : Prop :=
  ∃ index db loaded, findNodeByPrimary file node.primary = some index ∧
    readJsonDb env file = some db ∧ db.nodes[index]? = some loaded ∧
    loaded.primary = node.primary ∧ SameConfiguration node loaded

/-- The record of a node has an element for each one with models, in the place that
its index says, and a record for each of its models. -/
def TidyRecord (file : Json) (node : MeshNode) : Prop :=
  ∃ index records record elements, findNodeByPrimary file node.primary = some index ∧
    nodeRecords file = some records ∧ records[index]? = some record ∧
    recordElements record = some elements ∧ TidyElements elements ∧
    ∀ eleIdx modelId, (node.getModel eleIdx modelId).isSome →
      eleIdx.toNat < elements.length

/-- What a node and the database agree on. -/
structure InStep (env : LoadEnv) (file : Json) (node : MeshNode) : Prop where
  survives : SurvivesRestart env file node
  tidy : TidyRecord file node

section InStep

variable {env : LoadEnv} {file : Json} {node next : MeshNode}
  {update stored : MeshModel → Option MeshModel} {change : Json → Json}
  {eleIdx : Byte} {modelId : U32}

/-- An update of the node that is stored keeps it in step with the database. -/
theorem InStep.updated (inStep : InStep env file node) (records : Records change stored)
    (agree : Agree update stored) (configures : Configures update)
    (storedConfigures : Configures stored)
    (updated : updateModel eleIdx modelId update node = some next) :
    ∃ after, changeModelObj file next eleIdx modelId change = some after ∧
      InStep env after next := by
  rcases inStep.survives with ⟨index, db, loaded, found, read, isLoaded, place, same⟩
  rcases inStep.tidy with ⟨_, list, record, elements, found', areRecords, atIndex,
    areElements, tidy, covers⟩
  cases found.symm.trans found'
  have samePrimary := updateModel_primary updated
  have isModel : (node.getModel eleIdx modelId).isSome := by
    have succeeds := @updateModel_isSome update eleIdx modelId node
    rw [updated] at succeeds
    exact Option.isSome_of_isSome_bind succeeds.symm
  have inside := covers eleIdx modelId isModel
  rcases same.updateModel agree configures storedConfigures updated with
    ⟨after, isAfter, sameAfter⟩
  -- the record that is read
  have changed := recordChanged_changeRecord file index
    (configureModel eleIdx modelId change)
  rcases readJsonDb_recordChanged read changed areRecords atIndex with
    ⟨before, final, _, parsed, isNode, changes⟩
  cases isLoaded.symm.trans isNode
  have reparsed := @parseNode_changed change stored eleIdx modelId record elements records
    storedConfigures areElements tidy inside _ _ _ _ _ parsed
  rw [isAfter, Option.map_some] at reparsed
  have reread := changes fun other last isOther => by
    rw [reparsed] at isOther
    cases isOther
    rfl
  rw [reparsed, Option.map_some] at reread
  -- where it is, and its elements
  have refound : findNodeByPrimary (changeRecord file index
      (configureModel eleIdx modelId change)) next.primary = some index := by
    rw [samePrimary, changed.findNodeByPrimary (recordPrimary_configureModel _ _ _) _]
    exact found
  have inNodes : index < db.nodes.length := (List.getElem?_eq_some_iff.mp isLoaded).1
  rcases parseNode_elements areElements parsed with ⟨start, placed, elementsRead⟩
  have isElement := List.getElem?_eq_getElem inside
  generalize elements[eleIdx.toNat] = element at isElement
  rcases element_of_parsed elementsRead (List.mem_of_getElem? isElement) with
    ⟨object, models, areModels⟩
  rw [← samePrimary] at found
  refine ⟨_, changeModelObj_eq found areRecords atIndex areElements isElement object
    areModels modelId change, ?_, ?_⟩
  · refine ⟨index, _, after, refound, reread, List.getElem?_set_self inNodes, ?_,
      sameAfter⟩
    rw [updateModel_primary isAfter, place, samePrimary]
  · refine ⟨index, _, configureModel eleIdx modelId change record,
      elements.modify eleIdx.toNat (changeElementRecord modelId change), refound,
      changed.records.trans (congrArg _ areRecords), ?_,
      recordElements_configureModel areElements, ?_, ?_⟩
    · rw [List.getElem?_modify_eq, atIndex]
      rfl
    · exact tidy.changed records elementsRead eleIdx.toNat
    · intro otherIdx otherId isOther
      rw [List.length_modify]
      exact covers otherIdx otherId (getModel_of_updated configures updated isOther)

end InStep

end Meshctl.Db
