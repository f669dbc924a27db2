import Meshctl.Net.AccessReceive
import Meshctl.Node.ConfigClient

/-! # Bindings of the local models

A model of the local node has a callback that is asked whether it takes an
application key. The node keeps the list of bindings, and the callback its own key.
-/

namespace Meshctl.Node

open Net Execution

/-! ## Callbacks -/

inductive BindAction where
  | add
  | delete

def meshStatusInsuffResources : Byte := 0x05

/-- What a model is registered with: `bind` answers with a status. -/
structure ModelOps (World : Type*) where
  bind : Option (U16 → BindAction → World → Byte × World)
  pub : Option (Db.MeshPublication → World → World)

/-- `client_bind` of the On/Off, Level, Lightness, CTL, HSL and Time clients, each of
which keeps one key. -/
def clientBind (appIdx : U16) (action : BindAction) (clientAppIdx : U16) :
    Byte × U16 :=
  match action with
  | .add =>
      if clientAppIdx ≠ appIdxInvalid then (meshStatusInsuffResources, clientAppIdx)
      else (meshStatusSuccess, appIdx)
  | .delete =>
      (meshStatusSuccess, if clientAppIdx = appIdx then appIdxInvalid else clientAppIdx)

/-! ## The local node -/

/-- The local node and what the callbacks of its models keep. -/
structure LocalModels (World : Type*) where
  node : Db.MeshNode
  world : World

/-- What a call of `node_add_binding` returns, and what the callback answered if it
was asked. -/
structure BindingReport where
  returned : Bool
  answer : Option Byte

section

variable {World : Type*} (ops : Byte → U32 → ModelOps World)

/-- `node_add_binding` for the local node. The answer is tested as if it were a
truth value. -/
def nodeAddBinding (eleIdx : Byte) (modelId : U32) (appIdx : U16)
    (state : LocalModels World) : StepResult (LocalModels World) BindingReport :=
  match state.node.getModel eleIdx modelId with
  | none => ⟨state, { returned := false, answer := none }⟩
  | some model =>
      if model.bindings.contains appIdx then
        ⟨state, { returned := false, answer := none }⟩
      else
        let bound := state.node.changeModel eleIdx modelId fun model =>
          { model with bindings := model.bindings ++ [appIdx] }
        match (ops eleIdx modelId).bind with
        | none => ⟨{ state with node := bound }, { returned := true, answer := none }⟩
        | some bind =>
            let (status, world) := bind appIdx .add state.world
            if status = 0 then
              ⟨{ state with world }, { returned := false, answer := some status }⟩
            else
              ⟨{ node := bound, world }, { returned := true, answer := some status }⟩

/-- The bindings are restored until one is refused. -/
def restoreBindings (bind : U16 → BindAction → World → Byte × World) :
    List U16 → World → World
  | [], world => world
  | appIdx :: bindings, world =>
      let (status, world) := bind appIdx .add world
      if status ≠ meshStatusSuccess then world
      else restoreBindings bind bindings world

def restoreModelState (eleIdx : Byte) (modelId : U32) (state : LocalModels World) :
    LocalModels World :=
  match state.node.getModel eleIdx modelId with
  | none => state
  | some model =>
      let world :=
        match (ops eleIdx modelId).bind with
        | none => state.world
        | some bind => restoreBindings bind model.bindings state.world
      let world :=
        match model.pub, (ops eleIdx modelId).pub with
        | some publication, some pub => pub publication world
        | _, _ => world
      { state with world }

/-! ## Runs -/

inductive LocalModelInput where
  | addBinding (eleIdx : Byte) (modelId : U32) (appIdx : U16)
  | restore (eleIdx : Byte) (modelId : U32)

/-- Restoring reports nothing. -/
def localModelsModel : Model (LocalModels World) LocalModelInput BindingReport where
  step state
    | .addBinding eleIdx modelId appIdx =>
        nodeAddBinding ops eleIdx modelId appIdx state
    | .restore eleIdx modelId =>
        ⟨restoreModelState ops eleIdx modelId state, { returned := false, answer := none }⟩

def bindingsOf (state : LocalModels World) (eleIdx : Byte) (modelId : U32) :
    Option (List U16) :=
  (state.node.getModel eleIdx modelId).map Db.MeshModel.bindings

def Added (before after : LocalModels World) (eleIdx : Byte) (modelId : U32)
    (appIdx : U16) : Prop :=
  ∃ bindings, bindingsOf before eleIdx modelId = some bindings ∧
    bindingsOf after eleIdx modelId = some (bindings ++ [appIdx])

/-- A key is added to a model with a callback, and the call returns true, exactly when
the callback accepted the key. -/
def BindingAgrees
    (entry : Entry (LocalModels World) LocalModelInput BindingReport) : Prop :=
  match entry.input with
  | .restore eleIdx modelId =>
      bindingsOf entry.after eleIdx modelId = bindingsOf entry.before eleIdx modelId
  | .addBinding eleIdx modelId appIdx =>
      (ops eleIdx modelId).bind.isSome →
        (entry.observation.returned = true ↔
          entry.observation.answer = some meshStatusSuccess) ∧
        (Added entry.before entry.after eleIdx modelId appIdx ↔
          entry.observation.answer = some meshStatusSuccess)

/-- The callback of the model is asked. -/
def AsksCallback
    (entry : Entry (LocalModels World) LocalModelInput BindingReport) : Prop :=
  match entry.input with
  | .restore _ _ => False
  | .addBinding eleIdx modelId appIdx =>
      (ops eleIdx modelId).bind.isSome ∧
        ∃ bindings, bindingsOf entry.before eleIdx modelId = some bindings ∧
          bindings.contains appIdx = false

end

section Steps

variable {World : Type*} {ops : Byte → U32 → ModelOps World}
  {state : LocalModels World} {eleIdx : Byte} {modelId : U32} {appIdx : U16}

theorem restoreModelState_node :
    (restoreModelState ops eleIdx modelId state).node = state.node := by
  rw [restoreModelState]
  split <;> rfl

theorem not_added_self : ¬Added state state eleIdx modelId appIdx := by
  rintro ⟨bindings, before, after⟩
  rw [before, Option.some_inj] at after
  exact List.append_ne_nil_of_right_ne_nil [] (List.cons_ne_nil appIdx [])
    (List.self_eq_append_right.mp after)

/-- A call that does not ask returns false and adds nothing to a model with a
callback. -/
theorem nodeAddBinding_not_asked {bindings : Option (List U16)}
    (before : bindingsOf state eleIdx modelId = bindings)
    (known : ∀ list, bindings = some list → list.contains appIdx = true) :
    nodeAddBinding ops eleIdx modelId appIdx state =
      ⟨state, { returned := false, answer := none }⟩ := by
  rw [bindingsOf] at before
  rw [nodeAddBinding]
  cases isModel : state.node.getModel eleIdx modelId with
  | none => rfl
  | some model =>
      rw [isModel, Option.map_some] at before
      exact if_pos (known model.bindings before.symm)

/-- The callback is asked, and the node does the opposite of what it answers. -/
theorem nodeAddBinding_asked {bind : U16 → BindAction → World → Byte × World}
    (hasBind : (ops eleIdx modelId).bind = some bind) {bindings : List U16}
    (before : bindingsOf state eleIdx modelId = some bindings)
    (fresh : bindings.contains appIdx = false) :
    (nodeAddBinding ops eleIdx modelId appIdx state).observation =
      { returned := (bind appIdx .add state.world).1 ≠ meshStatusSuccess
        answer := some (bind appIdx .add state.world).1 } := by
  rcases Option.map_eq_some_iff.mp before with ⟨model, isModel, rfl⟩
  simp only [nodeAddBinding, isModel, fresh, hasBind, Bool.false_eq_true, if_false]
  by_cases accepted : (bind appIdx .add state.world).1 = 0
  · rw [if_pos accepted, accepted]
    rfl
  · rw [if_neg accepted, decide_eq_true (show _ ≠ meshStatusSuccess from accepted)]

/-- One step agrees if and only if the callback is not asked. -/
theorem bindingAgrees_entry_iff (input : LocalModelInput) :
    BindingAgrees ops ((localModelsModel ops).entry state input) ↔
      ¬AsksCallback ops ((localModelsModel ops).entry state input) := by
  cases input with
  | restore eleIdx modelId =>
      refine iff_of_true ?_ not_false
      change (Option.map _ ((restoreModelState ops eleIdx modelId state).node.getModel
        eleIdx modelId)) = _
      rw [restoreModelState_node]
      rfl
  | addBinding eleIdx modelId appIdx =>
      simp only [BindingAgrees, AsksCallback, Model.entry_input, Model.entry_observation,
        Model.entry_before, Model.entry_after]
      by_cases asks : ∃ bindings, bindingsOf state eleIdx modelId = some bindings ∧
          bindings.contains appIdx = false
      · rcases asks with ⟨bindings, before, fresh⟩
        cases hasBind : (ops eleIdx modelId).bind with
        | none => simp
        | some bind =>
            have asked := @nodeAddBinding_asked World ops state eleIdx modelId appIdx bind
              hasBind bindings before fresh
            refine iff_of_false (fun agrees => ?_) (fun notAsked => ?_)
            · have returns := (agrees rfl).1
              have report : (localModelsModel ops).step state
                  (.addBinding eleIdx modelId appIdx) =
                    nodeAddBinding ops eleIdx modelId appIdx state := rfl
              rw [report, asked] at returns
              simp only [decide_eq_true_eq, Option.some_inj] at returns
              exact iff_not_self returns.symm
            · exact notAsked ⟨rfl, bindings, before, fresh⟩
      · have known : ∀ list, bindingsOf state eleIdx modelId = some list →
            list.contains appIdx = true := by
          intro list isList
          by_contra unknown
          exact asks ⟨list, isList, Bool.not_eq_true _ ▸ unknown⟩
        have step : (localModelsModel ops).step state (.addBinding eleIdx modelId appIdx) =
            ⟨state, { returned := false, answer := none }⟩ :=
          nodeAddBinding_not_asked rfl known
        rw [step]
        refine iff_of_true (fun _ => ⟨?_, ?_⟩) fun both => asks both.2
        · simp
        · exact iff_of_false not_added_self (by simp)

end Steps

/-- The bindings of the local node and the answers of the callbacks agree throughout a
run, if and only if no callback is asked by it. -/
theorem bindings_agree_iff {World : Type*} (ops : Byte → U32 → ModelOps World)
    (start : LocalModels World) (inputs : List LocalModelInput) :
    (∀ entry ∈ (localModelsModel ops).trace start inputs, BindingAgrees ops entry) ↔
      ∀ entry ∈ (localModelsModel ops).trace start inputs, ¬AsksCallback ops entry := by
  refine forall₂_congr fun entry member => ?_
  rw [Model.entry_of_mem_trace (localModelsModel ops) member]
  exact bindingAgrees_entry_iff entry.input

/-! ### A client -/

/-- Every model is a client that keeps one key. -/
def clientOps (_ : Byte) (_ : U32) : ModelOps U16 where
  bind := some clientBind
  pub := none

/-- A client without a key on the first element. -/
def freshClient : LocalModels U16 where
  node :=
    { Db.MeshNode.new with
      elements := [{ index := 0, loc := 0, models := [Db.MeshModel.new 0xffff1001] }] }
  world := appIdxInvalid

theorem bindings_not_always_agree :
    ¬∀ (start : LocalModels U16) (inputs : List LocalModelInput),
      ∀ entry ∈ (localModelsModel clientOps).trace start inputs,
        BindingAgrees clientOps entry := by
  intro agree
  have agrees := agree freshClient [.addBinding 0 0xffff1001 1] _ List.mem_cons_self
  exact bindingAgrees_entry_iff _ |>.mp agrees ⟨rfl, [], by decide, rfl⟩

end Meshctl.Node
