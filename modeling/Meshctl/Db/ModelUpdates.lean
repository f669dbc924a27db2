import Meshctl.Foundation.Commutation
import Meshctl.Db.MeshNode

/-! # Updates of a model

What configures a model is an update of one model of one element. Updates of
different models, or of different fields, do not disturb one another.
-/

namespace Meshctl.Db

open Net Commutation

/-! ## Updates -/

namespace MeshModel

def bindTo (appIdx : U16) (model : MeshModel) : Option MeshModel :=
  if model.bindings.contains appIdx then none
  else some { model with bindings := model.bindings ++ [appIdx] }

def subscribeTo (addr : U16) (model : MeshModel) : Option MeshModel :=
  if model.subscriptions.contains addr then none
  else some { model with subscriptions := model.subscriptions ++ [addr] }

def publish (pub : MeshPublication) (model : MeshModel) : Option MeshModel :=
  some { model with pub := some pub }

end MeshModel

/-- Update a model of an element. -/
def updateElement (modelId : U32) (update : MeshModel → Option MeshModel) :
    MeshElement → Option MeshElement :=
  onPart MeshElement.models (fun element models => { element with models })
    (updateFirst (fun model => model.id = modelId) update)

/-- Update a model of a node. -/
def updateModel (eleIdx : Byte) (modelId : U32)
    (update : MeshModel → Option MeshModel) : MeshNode → Option MeshNode :=
  onPart MeshNode.elements (fun node elements => { node with elements })
    (updateFirst (fun element => element.index = eleIdx)
      (updateElement modelId update))

theorem modelsLens : Lens MeshElement.models
    (fun element models => { element with models }) where
  get_set _ _ := rfl
  set_set _ _ _ := rfl

theorem elementsLens : Lens MeshNode.elements
    (fun node elements => { node with elements }) where
  get_set _ _ := rfl
  set_set _ _ _ := rfl

/-! ## The functions of a node -/

theorem updateFirst_eq {α : Type*} (found : α → Bool) (update : α → Option α)
    (entries : List α) :
    updateFirst found update entries = (entries.find? found).bind fun entry =>
      (update entry).map fun changed => changeFirst found (fun _ => changed) entries := by
  induction entries with
  | nil => rfl
  | cons entry rest induction =>
      cases isFound : found entry with
      | true =>
          rw [updateFirst_found isFound, List.find?_cons_of_pos isFound,
            Option.bind_some]
          simp [changeFirst, isFound]
      | false =>
          rw [updateFirst_other isFound, List.find?_cons_of_neg (by simp [isFound]),
            induction]
          simp only [changeFirst, isFound, Bool.false_eq_true, if_false]
          cases rest.find? found with
          | none => rfl
          | some other =>
              simp only [Option.bind_some, Option.map_map]
              rfl

/-- Only the entry that is found is changed. -/
theorem changeFirst_eq {α : Type*} {found : α → Bool} {entries : List α}
    {entry : α} (isFound : entries.find? found = some entry) (change : α → α) :
    changeFirst found change entries =
      changeFirst found (fun _ => change entry) entries := by
  induction entries with
  | nil => rfl
  | cons head rest induction =>
      cases isHead : found head with
      | true =>
          rw [List.find?_cons_of_pos isHead] at isFound
          cases isFound
          simp [changeFirst, isHead]
      | false =>
          rw [List.find?_cons_of_neg (by simp [isHead])] at isFound
          simp [changeFirst, isHead, induction isFound]

theorem changeElement_eq {node : MeshNode} {eleIdx : Byte} {element : MeshElement}
    (isElement : node.findElement eleIdx = some element)
    (change : MeshElement → MeshElement) :
    node.changeElement eleIdx change =
      node.changeElement eleIdx fun _ => change element := by
  rw [MeshNode.changeElement, changeFirst_eq isElement]
  rfl

theorem changeModel_eq {node : MeshNode} {eleIdx : Byte} {modelId : U32}
    {model : MeshModel} (isModel : node.getModel eleIdx modelId = some model)
    (change : MeshModel → MeshModel) :
    node.changeModel eleIdx modelId change =
      node.changeModel eleIdx modelId fun _ => change model := by
  rcases Option.bind_eq_some_iff.mp isModel with ⟨element, isElement, isModel⟩
  have sameElement : element.changeModel modelId change =
      element.changeModel modelId fun _ => change model := by
    rw [MeshElement.changeModel, changeFirst_eq isModel]
    rfl
  rw [MeshNode.changeModel, MeshNode.changeModel, changeElement_eq isElement,
    changeElement_eq isElement (fun element => element.changeModel modelId fun _ =>
      change model), sameElement]

/-- An update of a model, if there is one. -/
theorem updateModel_eq (eleIdx : Byte) (modelId : U32)
    (update : MeshModel → Option MeshModel) (node : MeshNode) :
    updateModel eleIdx modelId update node =
      (node.getModel eleIdx modelId).bind fun model =>
        (update model).map fun changed =>
          node.changeModel eleIdx modelId fun _ => changed := by
  rw [updateModel, onPart, updateFirst_eq, MeshNode.getModel]
  cases isElement : node.elements.find? fun element => element.index = eleIdx with
  | none =>
      have noElement : node.findElement eleIdx = none := isElement
      rw [noElement]
      rfl
  | some element =>
      have found : node.findElement eleIdx = some element := isElement
      rw [found, Option.bind_some, Option.bind_some, updateElement, onPart,
        updateFirst_eq, MeshElement.findModel]
      cases element.models.find? fun model => model.id = modelId with
      | none => rfl
      | some model =>
          rw [Option.bind_some, Option.bind_some]
          cases update model with
          | none => rfl
          | some changed =>
              have changes := changeElement_eq found fun element =>
                element.changeModel modelId fun _ => changed
              simp only [Option.map_some, MeshNode.changeModel]
              rw [changes]
              rfl

theorem addBinding_eq (node : MeshNode) (eleIdx : Byte) (modelId : U32)
    (appIdx : U16) : node.addBinding eleIdx modelId appIdx =
      updateModel eleIdx modelId (MeshModel.bindTo appIdx) node := by
  rw [updateModel_eq, MeshNode.addBinding]
  cases isModel : node.getModel eleIdx modelId with
  | none => rfl
  | some model =>
      simp only [Option.bind_some, MeshModel.bindTo]
      split
      · rfl
      · rw [Option.map_some, changeModel_eq isModel]

theorem addSubscription_eq (node : MeshNode) (eleIdx : Byte) (modelId : U32)
    (addr : U16) : node.addSubscription eleIdx modelId addr =
      updateModel eleIdx modelId (MeshModel.subscribeTo addr) node := by
  rw [updateModel_eq, MeshNode.addSubscription]
  cases isModel : node.getModel eleIdx modelId with
  | none => rfl
  | some model =>
      simp only [Option.bind_some, MeshModel.subscribeTo]
      split
      · rfl
      · rw [Option.map_some, changeModel_eq isModel]

theorem modelPubSet_eq (node : MeshNode) (eleIdx : Byte) (modelId : U32)
    (pub : MeshPublication) : node.modelPubSet eleIdx modelId pub =
      updateModel eleIdx modelId (MeshModel.publish pub) node := by
  rw [updateModel_eq, MeshNode.modelPubSet]
  cases isModel : node.getModel eleIdx modelId with
  | none => rfl
  | some model =>
      rw [changeModel_eq isModel]
      rfl

/-! ## Updates that do not disturb one another -/

/-- An update of what is configured in a model. -/
structure Configures (update : MeshModel → Option MeshModel) : Prop where
  id : ∀ model changed, update model = some changed → changed.id = model.id

theorem configures_bindTo (appIdx : U16) : Configures (MeshModel.bindTo appIdx) := by
  constructor
  intro model changed updated
  rw [MeshModel.bindTo] at updated
  split at updated
  · cases updated
  · cases updated
    rfl

theorem configures_subscribeTo (addr : U16) :
    Configures (MeshModel.subscribeTo addr) := by
  constructor
  intro model changed updated
  rw [MeshModel.subscribeTo] at updated
  split at updated
  · cases updated
  · cases updated
    rfl

theorem configures_publish (pub : MeshPublication) :
    Configures (MeshModel.publish pub) := by
  constructor
  intro model changed updated
  cases updated
  rfl

section Commuting

variable {eleIdx otherIdx : Byte} {modelId otherId : U32}
  {step other : MeshModel → Option MeshModel}

theorem Configures.unseen (configures : Configures step) (modelId : U32) :
    Unseen (fun model => model.id = modelId) step := by
  intro model changed updated
  simp only [configures.id model changed updated]

theorem updateElement_unseen (eleIdx : Byte) (modelId : U32)
    (update : MeshModel → Option MeshModel) :
    Unseen (fun element => element.index = eleIdx) (updateElement modelId update) := by
  intro element changed updated
  rcases Option.map_eq_some_iff.mp updated with ⟨models, _, rfl⟩
  rfl

theorem updateModel_putOff_same (putOff : PutOff step other)
    (stepConfigures : Configures step) (otherConfigures : Configures other) :
    PutOff (updateModel eleIdx modelId step) (updateModel eleIdx modelId other) := by
  apply PutOff.onPart elementsLens
  apply PutOff.updateFirst
  · apply PutOff.onPart modelsLens
    exact putOff.updateFirst (stepConfigures.unseen modelId)
      (otherConfigures.unseen modelId)
  · exact updateElement_unseen eleIdx modelId step
  · exact updateElement_unseen eleIdx modelId other

theorem updateModel_putOff (different : eleIdx ≠ otherIdx ∨ modelId ≠ otherId)
    (stepConfigures : Configures step) (otherConfigures : Configures other) :
    PutOff (updateModel eleIdx modelId step) (updateModel otherIdx otherId other) := by
  apply PutOff.onPart elementsLens
  by_cases sameIdx : eleIdx = otherIdx
  · subst sameIdx
    have differentId : modelId ≠ otherId := different.resolve_left (not_not.mpr rfl)
    apply PutOff.updateFirst
    · apply PutOff.onPart modelsLens
      apply putOff_updateFirst
      · intro model isModel
        simp only [decide_eq_true_eq] at isModel
        simp [isModel, differentId]
      · exact stepConfigures.unseen otherId
      · exact otherConfigures.unseen modelId
    · exact updateElement_unseen eleIdx modelId step
    · exact updateElement_unseen eleIdx otherId other
  · apply putOff_updateFirst
    · intro element isElement
      simp only [decide_eq_true_eq] at isElement
      simp [isElement, sameIdx]
    · exact updateElement_unseen otherIdx modelId step
    · exact updateElement_unseen eleIdx otherId other

theorem subscribeTo_putOff_bindTo (addr appIdx : U16) :
    PutOff (MeshModel.subscribeTo addr) (MeshModel.bindTo appIdx) := by
  intro model next subscribed
  rw [MeshModel.subscribeTo] at subscribed
  split at subscribed
  · cases subscribed
  next fresh =>
    cases subscribed
    simp only [MeshModel.bindTo]
    split
    · rfl
    · simp only [Option.bind_some, MeshModel.subscribeTo, if_neg fresh]

theorem publish_putOff_bindTo (pub : MeshPublication) (appIdx : U16) :
    PutOff (MeshModel.publish pub) (MeshModel.bindTo appIdx) := by
  intro model next published
  cases published
  simp only [MeshModel.bindTo]
  split <;> rfl

theorem publish_putOff_subscribeTo (pub : MeshPublication) (addr : U16) :
    PutOff (MeshModel.publish pub) (MeshModel.subscribeTo addr) := by
  intro model next published
  cases published
  simp only [MeshModel.subscribeTo]
  split <;> rfl

theorem updateModel_lostIn (lost : LostIn step other)
    (stepConfigures : Configures step) :
    LostIn (updateModel eleIdx modelId step) (updateModel eleIdx modelId other) := by
  apply LostIn.onPart elementsLens
  apply LostIn.updateFirst
  · apply LostIn.onPart modelsLens
    exact lost.updateFirst (stepConfigures.unseen modelId)
  · exact updateElement_unseen eleIdx modelId step

theorem publish_lostIn_publish (first second : MeshPublication) :
    LostIn (MeshModel.publish first) (MeshModel.publish second) := by
  intro model next published
  cases published
  rfl

end Commuting

/-! ## What a node has afterwards -/

theorem getModel_eq (node : MeshNode) (eleIdx : Byte) (modelId : U32) :
    node.getModel eleIdx modelId =
      (node.elements.find? fun element => element.index = eleIdx).bind fun element =>
        element.models.find? fun model => model.id = modelId := rfl

section Models

variable {update : MeshModel → Option MeshModel} {eleIdx otherIdx : Byte}
  {modelId otherId : U32} {node next : MeshNode}

/-- The element that an update of a model changes. -/
theorem updateModel_element
    (updated : updateModel eleIdx modelId update node = some next) :
    ∃ element models,
      node.elements.find? (fun element => element.index = eleIdx) = some element ∧
      updateFirst (fun model => model.id = modelId) update element.models =
        some models ∧
      next.elements.find? (fun element => element.index = eleIdx) =
        some { element with models } := by
  rcases Option.map_eq_some_iff.mp updated with ⟨elements, areElements, rfl⟩
  have behind := find?_updateFirst_self (updateElement_unseen eleIdx modelId update)
    areElements
  have succeeds := @updateFirst_isSome_iff _ (fun element => element.index = eleIdx)
    (updateElement modelId update) node.elements
  rw [areElements] at succeeds
  rcases Option.isSome_iff_exists.mp succeeds.symm with ⟨changed, isChanged⟩
  rw [isChanged] at behind
  rcases Option.bind_eq_some_iff.mp isChanged with ⟨element, isElement, updates⟩
  rcases Option.map_eq_some_iff.mp updates with ⟨models, areModels, rfl⟩
  exact ⟨element, models, isElement, areModels, behind⟩

theorem getModel_updateModel_self (configures : Configures update)
    (updated : updateModel eleIdx modelId update node = some next) :
    next.getModel eleIdx modelId = (node.getModel eleIdx modelId).bind update := by
  rcases updateModel_element updated with ⟨element, models, isElement, areModels, behind⟩
  rw [getModel_eq, getModel_eq, isElement, behind]
  exact find?_updateFirst_self (configures.unseen modelId) areModels

theorem getModel_updateModel_other (configures : Configures update)
    (different : eleIdx ≠ otherIdx ∨ modelId ≠ otherId)
    (updated : updateModel eleIdx modelId update node = some next) :
    next.getModel otherIdx otherId = node.getModel otherIdx otherId := by
  by_cases sameIdx : eleIdx = otherIdx
  · subst sameIdx
    have differentId : modelId ≠ otherId := different.resolve_left (not_not.mpr rfl)
    rcases updateModel_element updated with
      ⟨element, models, isElement, areModels, behind⟩
    rw [getModel_eq, getModel_eq, isElement, behind]
    refine find?_updateFirst_other ?_ (configures.unseen otherId) areModels
    intro model isModel
    simp only [decide_eq_true_eq] at isModel
    simp [isModel, differentId]
  · rcases Option.map_eq_some_iff.mp updated with ⟨elements, areElements, rfl⟩
    rw [getModel_eq, getModel_eq]
    congr 1
    refine find?_updateFirst_other ?_ (updateElement_unseen otherIdx modelId update)
      areElements
    intro element isElement
    simp only [decide_eq_true_eq] at isElement
    simp [isElement, sameIdx]

/-- An update succeeds where the model is there and takes it. -/
theorem updateModel_isSome :
    (updateModel eleIdx modelId update node).isSome =
      ((node.getModel eleIdx modelId).bind update).isSome := by
  rw [updateModel_eq]
  cases node.getModel eleIdx modelId with
  | none => rfl
  | some model => simp

end Models

end Meshctl.Db
