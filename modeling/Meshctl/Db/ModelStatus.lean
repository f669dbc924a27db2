import Meshctl.Foundation.Execution
import Meshctl.Node.ConfigClient
import Meshctl.Db.ComposedNode

/-! # Status messages for the models of a node

A status says how a model of a remote node is configured. The client puts it into
the node and, when the node took it, into the database.
-/

namespace Meshctl.Db

open Net Execution Commutation

/-! ## Statuses -/

inductive ModelStatusKind where
  | modelApp
  | modelPub
  | modelSub

def ModelStatusKind.opcode : ModelStatusKind → U32
  | .modelApp => Node.opModelAppStatus
  | .modelPub => Node.opConfigModelPubStatus
  | .modelSub => Node.opConfigModelSubStatus

/-- A status from the primary address of the node; the data is behind the opcode. -/
structure ModelStatus where
  kind : ModelStatusKind
  data : List Byte
  len : U16

/-- What the client is told about a model. -/
inductive ModelUpdate where
  | addBinding (eleIdx : Byte) (modId : U32) (appIdx : U16)
  | modelPub (eleIdx : Byte) (modId : U32) (pub : MeshPublication)
  | addSubscription (eleIdx : Byte) (modId : U32) (addr : U16)
deriving DecidableEq

def modelUpdate : Node.ConfigChange → Option ModelUpdate
  | .addBinding eleIdx modId appIdx => some (.addBinding eleIdx modId appIdx)
  | .modelPub eleIdx modId pub => some (.modelPub eleIdx modId pub)
  | .addSubscription eleIdx modId addr => some (.addSubscription eleIdx modId addr)
  | _ => none

/-- The update that a status asks for, none if it is only printed. -/
def ModelStatus.update (status : ModelStatus) (node : MeshNode) :
    Option ModelUpdate :=
  match Node.clientAction status.kind.opcode status.data status.len node.primary
      false with
  | some (.change change) => modelUpdate change
  | _ => none

/-- These statuses are for models only. -/
theorem modelStatus_action (status : ModelStatus) (node : MeshNode) :
    Node.clientAction status.kind.opcode status.data status.len node.primary false =
        some .printed ∨
      ∃ change update,
        Node.clientAction status.kind.opcode status.data status.len node.primary false =
          some (.change change) ∧ modelUpdate change = some update := by
  rcases status with ⟨kind, data, len⟩
  cases kind with
  | modelApp =>
      rw [ModelStatusKind.opcode, Node.clientAction_modelAppStatus]
      split
      · exact Or.inr ⟨_, _, rfl, rfl⟩
      · exact Or.inl rfl
  | modelPub =>
      rw [ModelStatusKind.opcode, Node.clientAction_modelPubStatus]
      split
      · exact Or.inr ⟨_, _, rfl, rfl⟩
      · exact Or.inl rfl
  | modelSub =>
      rw [ModelStatusKind.opcode, Node.clientAction_modelSubStatus]
      split
      · exact Or.inr ⟨_, _, rfl, rfl⟩
      · exact Or.inl rfl

/-! ## What the client does -/

/-- A remote node and the file of the database. -/
structure RemoteNode where
  node : MeshNode
  file : Json

/-- The node first; a call for the database may write nothing. -/
def applyUpdate (state : RemoteNode) : ModelUpdate → RemoteNode
  | .addBinding eleIdx modId appIdx =>
      match state.node.addBinding eleIdx modId appIdx with
      | none => state
      | some node =>
          { node
            file := (provDbAddBinding state.file node eleIdx modId appIdx).getD
              state.file }
  | .modelPub eleIdx modId pub =>
      match state.node.modelPubSet eleIdx modId pub with
      | none => state
      | some node =>
          { node
            file := (provDbNodeSetModelPub state.file node eleIdx modId
              ((node.getModel eleIdx modId).bind MeshModel.pub)).getD state.file }
  | .addSubscription eleIdx modId addr =>
      match state.node.addSubscription eleIdx modId addr with
      | none => state
      | some node =>
          { node
            file := (provDbAddSubscription state.file node eleIdx modId addr).getD
              state.file }

def modelStatusModel : Model RemoteNode ModelStatus Unit where
  step state status :=
    match status.update state.node with
    | none => ⟨state, ()⟩
    | some update => ⟨applyUpdate state update, ()⟩

/-- A key index that a step adds to a model is one that is accepted when it is
read. -/
def BindsInRange (entry : Entry RemoteNode ModelStatus Unit) : Prop :=
  ∀ eleIdx modId appIdx,
    entry.input.update entry.before.node = some (.addBinding eleIdx modId appIdx) →
    (entry.before.node.addBinding eleIdx modId appIdx).isSome →
      keyIdxInRange appIdx.toNat

/-! ## Runs -/

theorem applyUpdate_inStep {env : LoadEnv} {state : RemoteNode}
    (inStep : InStep env state.file state.node) {update : ModelUpdate}
    (inRange : ∀ eleIdx modId appIdx, update = .addBinding eleIdx modId appIdx →
      (state.node.addBinding eleIdx modId appIdx).isSome → keyIdxInRange appIdx.toNat) :
    InStep env (applyUpdate state update).file (applyUpdate state update).node := by
  cases update with
  | addBinding eleIdx modId appIdx =>
      rw [applyUpdate]
      cases added : state.node.addBinding eleIdx modId appIdx with
      | none => exact inStep
      | some node =>
          have small : appIdx.toNat ≤ 4095 := by
            have range := inRange eleIdx modId appIdx rfl (by rw [added]; rfl)
            exact Int.ofNat_le.mp range.2
          rw [addBinding_eq] at added
          rcases inStep.updated (records_binding small) (agree_bindTo appIdx)
            (configures_bindTo appIdx) (configures_bindTo appIdx) added with
            ⟨after, isAfter, stored⟩
          have written : provDbAddBinding state.file node eleIdx modId appIdx =
            some after := isAfter
          simp only [written, Option.getD_some]
          exact stored
  | modelPub eleIdx modId pub =>
      rw [applyUpdate]
      cases set : state.node.modelPubSet eleIdx modId pub with
      | none => exact inStep
      | some node =>
          rw [modelPubSet_eq] at set
          rcases inStep.updated (records_publication pub) (agree_publish pub)
            (configures_publish pub) (configures_publish (storedPub pub)) set with
            ⟨after, isAfter, stored⟩
          have isPub : (node.getModel eleIdx modId).bind MeshModel.pub = some pub := by
            have succeeds := @updateModel_isSome (MeshModel.publish pub) eleIdx modId
              state.node
            rw [set, Option.isSome_some] at succeeds
            rw [getModel_updateModel_self (configures_publish pub) set]
            cases isModel : state.node.getModel eleIdx modId with
            | none =>
                rw [isModel] at succeeds
                cases succeeds
            | some model => rfl
          have written : provDbNodeSetModelPub state.file node eleIdx modId
              ((node.getModel eleIdx modId).bind MeshModel.pub) = some after := by
            rw [isPub]
            exact isAfter
          simp only [written, Option.getD_some]
          exact stored
  | addSubscription eleIdx modId addr =>
      rw [applyUpdate]
      cases added : state.node.addSubscription eleIdx modId addr with
      | none => exact inStep
      | some node =>
          rw [addSubscription_eq] at added
          rcases inStep.updated (records_subscription addr) (agree_subscribeTo addr)
            (configures_subscribeTo addr) (configures_subscribeTo addr) added with
            ⟨after, isAfter, stored⟩
          have written : provDbAddSubscription state.file node eleIdx modId addr =
            some after := isAfter
          simp only [written, Option.getD_some]
          exact stored

/-- The configuration of the models of a node survives a restart in every state that
statuses lead to, as long as no model is bound to a key index that is refused when
it is read. -/
theorem model_configuration_survives {env : LoadEnv} {start : RemoteNode}
    (inStep : InStep env start.file start.node) (statuses : List ModelStatus)
    (inRange : ∀ entry ∈ modelStatusModel.trace start statuses, BindsInRange entry) :
    ∀ state ∈ modelStatusModel.reached start statuses,
      SurvivesRestart env state.file state.node := by
  have always := (Model.forall_reached_iff modelStatusModel start statuses
    fun state => InStep env state.file state.node).mpr
    ⟨inStep, fun entry member => (modelStatusModel.invariant_of_mem_trace
      (fun state => InStep env state.file state.node) BindsInRange
      (fun state status before range => ?_) inStep inRange member).2⟩
  · exact fun state member => (always state member).survives
  · rw [modelStatusModel]
    dsimp only
    cases isUpdate : status.update state.node with
    | none => exact before
    | some update =>
        refine applyUpdate_inStep before fun eleIdx modId appIdx isBinding => ?_
        subst isBinding
        exact range eleIdx modId appIdx isUpdate

/-! ## A small node -/

/-- The database with the composition of its node. -/
def composedFile : Json :=
  (provDbAddNodeComposition smallFile (composedNode relayComposition) (smallPayload 1)
    21).getD smallFile

def composedStart : RemoteNode where
  node := composedNode relayComposition
  file := composedFile

theorem composedStart_inStep : InStep smallEnv composedFile composedStart.node := by
  have accepted : (readJsonDb smallEnv composedFile).isSome := by decide +kernel
  rcases Option.isSome_iff_exists.mp accepted with ⟨db, read⟩
  have stored : (provDbAddNodeComposition smallFile (composedNode relayComposition)
      (smallPayload 1) 21).isSome := by decide +kernel
  rcases Option.isSome_iff_exists.mp stored with ⟨after, added⟩
  have isFile : composedFile = after := by rw [composedFile, added, Option.getD_some]
  rw [isFile] at read ⊢
  have parses : nodeParseComposition provisionedNode (smallPayload 1) 21 =
      some composedStart.node := by decide +kernel
  have found : findNodeByPrimary smallFile provisionedNode.primary = some 0 := by
    decide +kernel
  exact inStep_composed rfl (by decide) found rfl rfl rfl (by decide +kernel) parses added
    read

/-- A model of the first element is bound to a key. -/
def bindingStatus (low high : Byte) : ModelStatus where
  kind := .modelApp
  data := [0, 2, 0, low, high, 0x00, 0x10]
  len := 7

def publicationStatus : ModelStatus where
  kind := .modelPub
  data := [0, 2, 0, 0x00, 0xc0, 1, 0, 7, 0x41, 0x20, 0x00, 0x10]
  len := 12

theorem model_configuration_survives_small :
    SurvivesRestart smallEnv
      (modelStatusModel.finalState composedStart
        [bindingStatus 1 0, publicationStatus]).file
      (modelStatusModel.finalState composedStart
        [bindingStatus 1 0, publicationStatus]).node := by
  refine model_configuration_survives composedStart_inStep
    [bindingStatus 1 0, publicationStatus] ?_ _ (Model.finalState_mem_reached _ _ _)
  intro entry member eleIdx modId appIdx isUpdate _
  simp only [Model.trace_cons, Model.trace_nil, List.mem_cons, List.not_mem_nil,
    or_false] at member
  rcases member with rfl | rfl
  · have update : (bindingStatus 1 0).update composedStart.node =
        some (.addBinding 0 0xffff1000 1) := by decide +kernel
    cases update.symm.trans isUpdate
    decide
  · have update : publicationStatus.update
        (modelStatusModel.step composedStart (bindingStatus 1 0)).nextState.node =
        some (.modelPub 0 0xffff1000
          { appIdx := 1, addr16 := 0xc000, ttl := 7, period := 0x41,
            retransmit := 0x20 }) := by decide +kernel
    cases update.symm.trans isUpdate

/-- A binding to the key index 4096 makes the database unreadable. -/
theorem model_configuration_not_always_survives :
    ¬∀ (env : LoadEnv) (start : RemoteNode) (statuses : List ModelStatus),
      InStep env start.file start.node →
      ∀ state ∈ modelStatusModel.reached start statuses,
        SurvivesRestart env state.file state.node := by
  intro survives
  rcases survives smallEnv composedStart [bindingStatus 0 0x10] composedStart_inStep _
    (Model.finalState_mem_reached _ _ _) with ⟨_, db, _, _, read, _⟩
  have refused : (readJsonDb smallEnv (modelStatusModel.finalState composedStart
      [bindingStatus 0 0x10]).file).isSome = false := by decide +kernel
  rw [read] at refused
  cases refused

end Meshctl.Db
