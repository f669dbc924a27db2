import Meshctl.Db.ModelReading

/-! # Reading a changed node record

A change of the record of a model, or a new one, shows as an update of the model
when the node is read.
-/

namespace Meshctl.Db

open Net Text Commutation

/-! ## The models of an element -/

def modelIdOf (model : Json) : Option U32 := readModelId (model.get "modelId")

/-- Each model has one record, which is read to its end. -/
structure TidyModels (models : List Json) : Prop where
  distinct : (models.map modelIdOf).Nodup
  plain : ∀ model ∈ models, Plain model

theorem findConfiguredModel_spec {targetId : U32} {models : List Json} {index : Nat}
    (found : findConfiguredModel targetId models = some index) :
    ∃ model, models[index]? = some model ∧ modelIdOf model = some targetId := by
  induction models generalizing index with
  | nil => cases found
  | cons model models induction =>
      rw [findConfiguredModel] at found
      split at found
      · cases found
      next modelId isId =>
        split at found
        next same =>
          cases found
          exact ⟨model, rfl, by rw [modelIdOf, isId, same]⟩
        next =>
          rcases Option.map_eq_some_iff.mp found with ⟨before, isBefore, rfl⟩
          exact induction isBefore

/-- The search does not miss a model, if all records have an id. -/
theorem findConfiguredModel_none {targetId : U32} {models : List Json}
    (missing : findConfiguredModel targetId models = none)
    (known : ∀ model ∈ models, modelIdOf model ≠ none) :
    ∀ model ∈ models, modelIdOf model ≠ some targetId := by
  induction models with
  | nil => simp
  | cons model models induction =>
      rw [findConfiguredModel] at missing
      have isKnown := known model List.mem_cons_self
      rw [modelIdOf] at isKnown
      split at missing
      next isNone => exact absurd isNone isKnown
      next modelId isId =>
        split at missing
        · cases missing
        next different =>
          have rest := induction (Option.map_eq_none_iff.mp missing) fun other member =>
            known other (List.mem_cons_of_mem _ member)
          intro other member
          rcases List.mem_cons.mp member with rfl | later
          · rw [modelIdOf, isId]
            exact fun same => different (Option.some_inj.mp same)
          · exact rest other later

/-- A loop that ends takes a step with each item. -/
theorem foldlM_takes {State Item : Type*} {step : State → Item → Option State}
    {items : List Item} {start final : State}
    (runs : items.foldlM step start = some final) :
    ∀ item ∈ items, ∃ state next, step state item = some next := by
  induction items generalizing start with
  | nil => simp
  | cons first items induction =>
      rw [List.foldlM_cons] at runs
      rcases Option.bind_eq_some_iff.mp runs with ⟨next, stepped, rest⟩
      intro item member
      rcases List.mem_cons.mp member with rfl | later
      · exact ⟨start, next, stepped⟩
      · exact induction rest item later

theorem modelIds_of_parsed {eleIdx : Byte} {models : List Json} {node next : MeshNode}
    (parsed : models.foldlM (parseConfigurationModel eleIdx) node = some next) :
    ∀ model ∈ models, modelIdOf model ≠ none := by
  intro model member
  rcases foldlM_takes parsed model member with ⟨state, after, taken⟩
  rcases Option.bind_eq_some_iff.mp taken with ⟨modelId, isId, _⟩
  rw [modelIdOf, isId]
  exact Option.some_ne_none modelId

/-- What is in a list of which an item has been changed. -/
theorem mem_modify {α : Type*} {items : List α} {index : Nat} {change : α → α}
    {item : α} (member : item ∈ items.modify index change) :
    item ∈ items ∨ ∃ before, items[index]? = some before ∧ item = change before := by
  rcases List.mem_iff_getElem?.mp member with ⟨position, atPosition⟩
  rw [List.getElem?_modify] at atPosition
  rcases Option.map_eq_some_iff.mp atPosition with ⟨before, isBefore, isItem⟩
  split at isItem
  next same =>
    subst same
    exact Or.inr ⟨before, isBefore, isItem.symm⟩
  next => exact Or.inl (isItem ▸ List.mem_of_getElem? isBefore)

section Changes

variable {change : Json → Json} {update : MeshModel → Option MeshModel}
  {eleIdx : Byte} {modelId : U32} {models : List Json} {node next : MeshNode}

theorem TidyModels.later (tidy : TidyModels models) {index position : Nat}
    {model behind : Json} (after : index < position)
    (atIndex : models[index]? = some model)
    (atPosition : models[position]? = some behind) :
    modelIdOf behind ≠ modelIdOf model := by
  have inside := (List.getElem?_eq_some_iff.mp atPosition).1
  have differs := List.nodup_iff_getElem?_ne_getElem?.mp tidy.distinct index position
    after (by rwa [List.length_map])
  rw [List.getElem?_map, List.getElem?_map, atIndex, atPosition] at differs
  exact fun same => differs (congrArg some same.symm)

/-- A changed record of a model shows as its update, and so does a new one. -/
theorem parseModels_changed (records : Records change update)
    (configures : Configures update) (tidy : TidyModels models)
    (parsed : models.foldlM (parseConfigurationModel eleIdx) node = some next) :
    (changeModelRecords modelId change models).foldlM (parseConfigurationModel eleIdx)
      node = updateModel eleIdx modelId update next := by
  rw [changeModelRecords]
  cases found : findConfiguredModel modelId models with
  | none =>
      have read := records.read _ eleIdx modelId next next
        (plain_newModelRecord modelId) (readModelId_newModelRecord modelId)
        (parseConfigurationModel_new eleIdx modelId next)
      dsimp only
      rw [List.foldlM_append, parsed]
      simp only [Option.bind_eq_bind, Option.bind_some, List.foldlM_cons,
        List.foldlM_nil, read]
      exact Option.bind_fun_some (updateModel eleIdx modelId update next)
  | some index =>
      rcases findConfiguredModel_spec found with ⟨model, atIndex, isId⟩
      have member := List.mem_of_getElem? atIndex
      refine foldlM_modify atIndex ?_ ?_ parsed
      · intro state after read
        exact records.read model eleIdx modelId state after (tidy.plain model member)
          isId read
      · intro position behind later isBehind
        have different := tidy.later later atIndex isBehind
        rw [isId] at different
        exact parseConfigurationModel_putOff configures (Or.inr different)

theorem TidyModels.changed (records : Records change update)
    (tidy : TidyModels models) (known : ∀ model ∈ models, modelIdOf model ≠ none) :
    TidyModels (changeModelRecords modelId change models) := by
  rw [changeModelRecords]
  cases found : findConfiguredModel modelId models with
  | none =>
      have isNew : modelIdOf (change (newModelRecord modelId)) = some modelId := by
        rw [modelIdOf, records.sameId, readModelId_newModelRecord]
      have others := findConfiguredModel_none found known
      constructor
      · rw [List.map_append, List.map_singleton, isNew]
        refine List.nodup_append'.mpr ⟨tidy.distinct, List.nodup_singleton _, ?_⟩
        rw [List.disjoint_singleton]
        intro member
        rcases List.mem_map.mp member with ⟨model, isModel, same⟩
        exact others model isModel same
      · intro model member
        rcases List.mem_append.mp member with old | new
        · exact tidy.plain model old
        · rw [List.mem_singleton.mp new]
          exact records.plain _ (isObject_of_readModelId
            (readModelId_newModelRecord modelId)) (plain_newModelRecord modelId)
  | some index =>
      constructor
      · have sameIds : (models.modify index change).map modelIdOf =
            models.map modelIdOf := by
          apply List.ext_getElem?
          intro position
          rw [List.getElem?_map, List.getElem?_map, List.getElem?_modify]
          cases models[position]? with
          | none => rfl
          | some model =>
              simp only [Option.map_eq_map, Option.map_some, modelIdOf]
              split
              · rw [records.sameId]
              · rfl
        rw [sameIds]
        exact tidy.distinct
      · intro model member
        rcases mem_modify member with old | ⟨before, atIndex, rfl⟩
        · exact tidy.plain model old
        · have isMember := List.mem_of_getElem? atIndex
          rcases Option.ne_none_iff_exists'.mp (known before isMember) with ⟨id, isId⟩
          exact records.plain before (isObject_of_readModelId isId)
            (tidy.plain before isMember)

end Changes

/-! ## An element -/

/-- The list of models of an element, if it has one. -/
def TidyElement (element : Json) : Prop :=
  ∀ models items, element.get "models" = some models → models.items = some items →
    TidyModels items

theorem get_changeElementRecord_ne {key : String} (other : key ≠ "models")
    (modelId : U32) (change : Json → Json) (element : Json) :
    (changeElementRecord modelId change element).get key = element.get key := by
  rw [changeElementRecord.eq_def]
  split
  · exact Json.get_add_ne element _ other
  · exact Json.get_add_ne element _ other
  · rfl

/-- The models of an element, none if there is no list. -/
def elementModels (element : Json) : Option (List Json) :=
  (element.get "models").elim (some []) Json.items

theorem get_changeElementRecord {element : Json} (object : element.IsObject)
    {models : List Json} (areModels : elementModels element = some models)
    (modelId : U32) (change : Json → Json) :
    (changeElementRecord modelId change element).get "models" =
      some (.array (changeModelRecords modelId change models)) := by
  rw [elementModels] at areModels
  rw [changeElementRecord.eq_def]
  cases found : element.get "models" with
  | none =>
      rw [found] at areModels
      cases areModels
      exact Json.get_add_self object (Json.isValue_array _) "models"
  | some list =>
      rw [found, Option.elim_some] at areModels
      cases list with
      | array items =>
          cases areModels
          exact Json.get_add_self object (Json.isValue_array _) "models"
      | _ => cases areModels

theorem parseElementModels_eq_some_iff {eleIdx : Byte} {element : Json}
    {node next : MeshNode} :
    parseIfPresent (parseElementModels eleIdx) node (element.get "models") =
        some next ↔
      ∃ models, elementModels element = some models ∧
        models.foldlM (parseConfigurationModel eleIdx) node = some next := by
  rw [elementModels]
  cases element.get "models" with
  | none =>
      simp only [parseIfPresent, Option.elim_none, Option.some.injEq, exists_eq_left']
      exact Option.some_inj.symm
  | some list =>
      simp only [parseIfPresent, parseElementModels, Option.elim_some,
        Option.bind_eq_bind, Option.bind_eq_some_iff, parseConfigurationModels]

theorem TidyElement.models {element : Json} (tidy : TidyElement element)
    {models : List Json} (areModels : elementModels element = some models) :
    TidyModels models := by
  rw [elementModels] at areModels
  cases found : element.get "models" with
  | none =>
      rw [found] at areModels
      cases areModels
      exact ⟨List.nodup_nil, by simp⟩
  | some list =>
      rw [found, Option.elim_some] at areModels
      exact tidy list models found areModels

section Element

variable {change : Json → Json} {update : MeshModel → Option MeshModel}
  {eleIdx : Byte} {modelId : U32} {element : Json} {node next : MeshNode}

theorem parseElementModels_changed (records : Records change update)
    (configures : Configures update) (object : element.IsObject)
    (tidy : TidyElement element)
    (parsed : parseIfPresent (parseElementModels eleIdx) node (element.get "models") =
      some next) :
    parseIfPresent (parseElementModels eleIdx) node
        ((changeElementRecord modelId change element).get "models") =
      updateModel eleIdx modelId update next := by
  rcases parseElementModels_eq_some_iff.mp parsed with ⟨models, areModels, parsed⟩
  rw [get_changeElementRecord object areModels]
  exact parseModels_changed records configures (tidy.models areModels) parsed

theorem TidyElement.changed (records : Records change update)
    (object : element.IsObject) (tidy : TidyElement element)
    (parsed : parseIfPresent (parseElementModels eleIdx) node (element.get "models") =
      some next) : TidyElement (changeElementRecord modelId change element) := by
  rcases parseElementModels_eq_some_iff.mp parsed with ⟨models, areModels, parsed⟩
  intro list items isList areItems
  rw [get_changeElementRecord object areModels] at isList
  cases isList
  cases areItems
  exact (tidy.models areModels).changed records (modelIds_of_parsed parsed)

theorem parseElementModels_putOff (configures : Configures update) {otherIdx : Byte}
    (different : eleIdx ≠ otherIdx) (models : Option Json) :
    PutOff (fun node => parseIfPresent (parseElementModels eleIdx) node models)
      (updateModel otherIdx modelId update) := by
  apply parseIfPresent_putOff
  intro list
  simp only [parseElementModels]
  cases list.items with
  | none =>
      intro state after parsed
      cases parsed
  | some items =>
      exact PutOff.foldlM fun model _ =>
        parseConfigurationModel_putOff configures (Or.inl different)

end Element

end Meshctl.Db
