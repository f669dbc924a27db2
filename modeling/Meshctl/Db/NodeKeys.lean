import Meshctl.Db.MeshNode

/-! # The keys of a node

A node lists the keys that it has been given. An application key belongs to a network
key, which it is listed with, as the key store had it when the key was added.
-/

namespace Meshctl.Db

open Net Execution

/-! ## Deleting keys -/

namespace MeshNode

variable (node : MeshNode)

def netKeyDelete (index : U16) : Option MeshNode :=
  if node.netKeys.contains index then
    some { node with netKeys := node.netKeys.erase index }
  else none

def appKeyDelete (netIdx idx : U16) : Option MeshNode :=
  if node.appKeys.contains (packAppKey netIdx idx) then
    some { node with appKeys := node.appKeys.erase (packAppKey netIdx idx) }
  else none

end MeshNode

/-! ## Runs -/

/-- A node, and the application keys that the program knows. -/
structure KeyHolder where
  node : MeshNode
  appKeys : List MeshAppKey

inductive KeyHolderInput where
  | nodeNetKeyAdd (index : U16)
  | nodeAppKeyAdd (idx : U16)
  | nodeNetKeyDelete (index : U16)
  | nodeAppKeyDelete (netIdx idx : U16)
  | keysAppKeyAdd (netIdx appIdx : U16) (key : Key) (update : Bool)
      (memory : MeshAppKey)
  | keysAppKeyDelete (appIdx : U16)

namespace KeyHolder

variable (holder : KeyHolder)

/-- What a function that returns whether it has changed the node leaves. -/
def changeNode (changed : Option MeshNode) : StepResult KeyHolder Bool where
  nextState := { holder with node := changed.getD holder.node }
  observation := changed.isSome

def changeAppKeys (changed : Bool × List MeshAppKey) : StepResult KeyHolder Bool where
  nextState := { holder with appKeys := changed.2 }
  observation := changed.1

end KeyHolder

/-- The functions that change the keys; an observation is what is returned. -/
def keyHolderModel (crypto : KeyCrypto) : Model KeyHolder KeyHolderInput Bool where
  step holder
    | .nodeNetKeyAdd index => holder.changeNode (holder.node.netKeyAdd index)
    | .nodeAppKeyAdd idx => holder.changeNode (holder.node.appKeyAdd holder.appKeys idx)
    | .nodeNetKeyDelete index => holder.changeNode (holder.node.netKeyDelete index)
    | .nodeAppKeyDelete netIdx idx =>
        holder.changeNode (holder.node.appKeyDelete netIdx idx)
    | .keysAppKeyAdd netIdx appIdx key update memory =>
        holder.changeAppKeys
          (keysAppKeyAdd crypto netIdx appIdx key update memory holder.appKeys)
    | .keysAppKeyDelete appIdx =>
        holder.changeAppKeys (keysAppKeyDelete appIdx holder.appKeys)

/-! ## Keys with their network key -/

/-- The index of the network key in an entry of `app_keys`. -/
def entryNetIdx (entry : U32) : U16 := (entry >>> 16).setWidth 16

@[simp] theorem entryNetIdx_packAppKey (netIdx appIdx : U16) :
    entryNetIdx (MeshNode.packAppKey netIdx appIdx) = netIdx := by
  apply BitVec.eq_of_toNat_eq
  have netBound := netIdx.isLt
  have appBound := appIdx.isLt
  simp only [entryNetIdx, MeshNode.packAppKey, BitVec.toNat_setWidth,
    BitVec.toNat_ushiftRight, BitVec.toNat_add, BitVec.toNat_shiftLeft,
    Nat.shiftLeft_eq, Nat.shiftRight_eq_div_pow]
  omega

/-- Every application key of a node is listed with a network key that the node has, and
no key is listed twice. -/
structure KeysKept (node : MeshNode) : Prop where
  netKeys : node.netKeys.Nodup
  appKeys : node.appKeys.Nodup
  bound : ∀ entry ∈ node.appKeys, entryNetIdx entry ∈ node.netKeys

/-- No application key is listed with the network key that is deleted. -/
def DeletesUnused (entry : Entry KeyHolder KeyHolderInput Bool) : Prop :=
  ∀ index, entry.input = .nodeNetKeyDelete index →
    ∀ appKey ∈ entry.before.node.appKeys, entryNetIdx appKey ≠ index

section Steps

variable {node next : MeshNode}

theorem nodup_concat {α : Type*} {list : List α} {item : α} (nodup : list.Nodup)
    (fresh : item ∉ list) : (list ++ [item]).Nodup :=
  List.nodup_append.mpr ⟨nodup, List.nodup_singleton item, fun _ member _ isItem equal =>
    fresh (List.mem_singleton.mp isItem ▸ equal ▸ member)⟩

theorem KeysKept.netKeyAdd (kept : KeysKept node) {index : U16}
    (added : node.netKeyAdd index = some next) : KeysKept next := by
  unfold MeshNode.netKeyAdd at added
  split at added
  · cases added
  · next fresh =>
      cases added
      rw [List.contains_iff_mem] at fresh
      exact ⟨nodup_concat kept.netKeys fresh, kept.appKeys, fun entry member =>
        List.mem_append_left _ (kept.bound entry member)⟩

theorem KeysKept.appKeyAdd (kept : KeysKept node) {appKeys : List MeshAppKey}
    {idx : U16} (added : node.appKeyAdd appKeys idx = some next) : KeysKept next := by
  unfold MeshNode.appKeyAdd at added
  simp only at added
  split at added
  · cases added
  · split at added
    · cases added
    · next hasNetKey =>
        split at added
        · cases added
        · next fresh =>
            cases added
            rw [List.contains_iff_mem] at fresh
            refine ⟨kept.netKeys, nodup_concat kept.appKeys fresh, ?_⟩
            intro entry member
            rcases List.mem_append.mp member with earlier | last
            · exact kept.bound entry earlier
            · rw [List.mem_singleton.mp last, entryNetIdx_packAppKey]
              simpa using hasNetKey

theorem KeysKept.appKeyDelete (kept : KeysKept node) {netIdx idx : U16}
    (deleted : node.appKeyDelete netIdx idx = some next) : KeysKept next := by
  unfold MeshNode.appKeyDelete at deleted
  split at deleted
  · cases deleted
    exact ⟨kept.netKeys, kept.appKeys.erase _, fun entry member =>
      kept.bound entry (List.mem_of_mem_erase member)⟩
  · cases deleted

/-- The keys that belong to a deleted network key stay. -/
theorem KeysKept.netKeyDelete_iff (kept : KeysKept node) {index : U16} :
    KeysKept ((node.netKeyDelete index).getD node) ↔
      ∀ appKey ∈ node.appKeys, entryNetIdx appKey ≠ index := by
  unfold MeshNode.netKeyDelete
  split
  next =>
    constructor
    · intro after appKey member isIndex
      have still := after.bound appKey member
      change _ ∈ node.netKeys.erase index at still
      exact kept.netKeys.not_mem_erase (isIndex ▸ still)
    · intro unused
      refine ⟨kept.netKeys.erase _, kept.appKeys, fun entry member => ?_⟩
      exact (List.mem_erase_of_ne (unused entry member)).mpr (kept.bound entry member)
  next missing =>
    refine iff_of_true kept fun appKey member isIndex => missing ?_
    exact List.contains_iff_mem.mpr (isIndex ▸ kept.bound appKey member)

end Steps

theorem KeysKept.getD {node : MeshNode} {changed : Option MeshNode} (kept : KeysKept node)
    (keeps : ∀ next, changed = some next → KeysKept next) :
    KeysKept (changed.getD node) := by
  cases changed with
  | none => exact kept
  | some next => exact keeps next rfl

theorem keysKept_step_iff (crypto : KeyCrypto) {holder : KeyHolder}
    (kept : KeysKept holder.node) (input : KeyHolderInput) :
    KeysKept ((keyHolderModel crypto).step holder input).nextState.node ↔
      DeletesUnused ((keyHolderModel crypto).entry holder input) := by
  cases input with
  | nodeNetKeyDelete index =>
      rw [DeletesUnused]
      simp only [Model.entry_input, Model.entry_before, KeyHolderInput.nodeNetKeyDelete.injEq,
        forall_eq']
      exact kept.netKeyDelete_iff
  | nodeNetKeyAdd index =>
      refine iff_of_true (kept.getD fun next added => kept.netKeyAdd added) ?_
      intro deleted same
      cases same
  | nodeAppKeyAdd idx =>
      refine iff_of_true (kept.getD fun next added => kept.appKeyAdd added) ?_
      intro deleted same
      cases same
  | nodeAppKeyDelete netIdx idx =>
      refine iff_of_true (kept.getD fun next deleted => kept.appKeyDelete deleted) ?_
      intro deleted same
      cases same
  | keysAppKeyAdd netIdx appIdx key update memory =>
      refine iff_of_true kept ?_
      intro deleted same
      cases same
  | keysAppKeyDelete appIdx =>
      refine iff_of_true kept ?_
      intro deleted same
      cases same

/-- The keys of a node are kept throughout a run, if and only if they were in its
beginning and no network key is deleted before its application keys. -/
theorem keys_kept_iff (crypto : KeyCrypto) (start : KeyHolder)
    (inputs : List KeyHolderInput) :
    (∀ holder ∈ (keyHolderModel crypto).reached start inputs, KeysKept holder.node) ↔
      KeysKept start.node ∧
        ∀ entry ∈ (keyHolderModel crypto).trace start inputs, DeletesUnused entry := by
  rw [Model.forall_reached_iff]
  refine and_congr_right fun initial => ?_
  exact Model.forall_trace_iff (keyHolderModel crypto) (fun holder => KeysKept holder.node)
    DeletesUnused (fun entry => KeysKept entry.after.node)
    (fun holder input kept allowed => (keysKept_step_iff crypto kept input).mpr allowed)
    (fun holder input kept => keysKept_step_iff crypto kept input) inputs initial

/-- Key derivations of which only that of application keys succeeds. -/
def applicationKeyCrypto : KeyCrypto where
  nkbk _ := none
  k3 _ := none
  k2 _ := { nid := none, encKey := none, privacyKey := none }
  k4 _ := some 0

/-- A network key is added and deleted again, and its application key is added in
between. -/
def deletedNetKeyInputs : List KeyHolderInput :=
  [.keysAppKeyAdd 1 5 0 false
      { idx := 0, netIdx := 0, current := ⟨0, 0⟩, new := ⟨0, 0⟩ },
    .nodeNetKeyAdd 1, .nodeAppKeyAdd 5, .nodeNetKeyDelete 1]

theorem keys_not_always_kept :
    ¬∀ (crypto : KeyCrypto) (inputs : List KeyHolderInput),
      ∀ holder ∈ (keyHolderModel crypto).reached ⟨MeshNode.new, []⟩ inputs,
        KeysKept holder.node := by
  intro always
  have kept := always applicationKeyCrypto deletedNetKeyInputs _
    (Model.finalState_mem_reached _ _ _)
  have bound := kept.bound (MeshNode.packAppKey 1 5)
  rw [entryNetIdx_packAppKey] at bound
  exact absurd (bound (by decide)) (by decide)

end Meshctl.Db
