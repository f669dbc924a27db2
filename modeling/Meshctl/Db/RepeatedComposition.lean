import Meshctl.Db.CompositionReload

/-! # Composition data that is received again

A payload is put into a node whatever elements the node has already.
-/

namespace Meshctl.Db

open Net

/-! ## The indices of the elements -/

def MeshNode.elementIndices (node : MeshNode) : List Byte :=
  node.elements.map MeshElement.index

theorem map_changeFirst {α β : Type*} (found : α → Bool) {change : α → α}
    {value : α → β} (keeps : ∀ entry, value (change entry) = value entry)
    (entries : List α) :
    (changeFirst found change entries).map value = entries.map value := by
  induction entries with
  | nil => rfl
  | cons entry entries induction =>
      rw [changeFirst]
      split
      · rw [List.map_cons, List.map_cons, keeps]
      · rw [List.map_cons, List.map_cons, induction]

theorem MeshElement.setModel_index (element : MeshElement) (id : U32) :
    (element.setModel id).index = element.index := by
  rw [MeshElement.setModel]
  split <;> rfl

theorem MeshNode.findElement_isNone_iff {node : MeshNode} {eleIdx : Byte} :
    (node.findElement eleIdx).isNone = true ↔ eleIdx ∉ node.elementIndices := by
  rw [Option.isNone_iff_eq_none, MeshNode.findElement, List.find?_eq_none,
    MeshNode.elementIndices]
  simp only [decide_eq_true_eq, List.mem_map, not_exists, not_and]

/-- An element that is there takes the model. -/
theorem MeshNode.setModel_of_mem {node : MeshNode} {eleIdx : Byte}
    (member : eleIdx ∈ node.elementIndices) (id : U32) :
    ∃ next, node.setModel eleIdx id = some next ∧
      next.elementIndices = node.elementIndices := by
  have found : ¬(node.findElement eleIdx).isNone = true := fun missing =>
    MeshNode.findElement_isNone_iff.mp missing member
  rw [MeshNode.setModel, if_neg found]
  exact ⟨_, rfl, map_changeFirst _ (fun element => element.setModel_index id)
    node.elements⟩

theorem foldlM_setModel_of_mem {node : MeshNode} {eleIdx : Byte}
    (member : eleIdx ∈ node.elementIndices) (modelId : Nat → U32)
    (offsets : List Nat) :
    ∃ next,
      offsets.foldlM (fun node offset => node.setModel eleIdx (modelId offset)) node =
        some next ∧
      next.elementIndices = node.elementIndices ∧ next.identity = node.identity := by
  induction offsets generalizing node with
  | nil => exact ⟨node, rfl, rfl, rfl⟩
  | cons offset offsets induction =>
      rcases MeshNode.setModel_of_mem member (modelId offset) with
        ⟨changed, set, sameIndices⟩
      rcases induction (sameIndices ▸ member) with ⟨next, rest, indices, identity⟩
      refine ⟨next, ?_, indices.trans sameIndices,
        identity.trans (MeshNode.setModel_identity set)⟩
      rw [List.foldlM_cons, set]
      exact rest

/-! ## One more time through a payload -/

/-- The element that is appended has the index that its models are put into, so that
no element is given up halfway. -/
theorem parseElement_appends (data : Nat → Byte) (node : MeshNode) (cursor : Cursor)
    (index : Nat) :
    ∃ next, parseElement data (node, cursor) index =
        some (next, nextElement 2 data cursor) ∧
      next.elementIndices = node.elementIndices ++ [BitVec.ofNat 8 index] ∧
      next.identity = node.identity := by
  let element : MeshElement :=
    { index := BitVec.ofNat 8 index, loc := getLe16 data cursor.offset, models := [] }
  let appended : MeshNode := { node with elements := node.elements ++ [element] }
  have indices : appended.elementIndices =
      node.elementIndices ++ [BitVec.ofNat 8 index] := List.map_append
  have member : BitVec.ofNat 8 index ∈ appended.elementIndices := by
    rw [indices]
    exact List.mem_append_right _ (List.mem_singleton_self _)
  let span := elementSpan 2 data cursor
  rcases foldlM_setModel_of_mem member (sigModelId data) span.sigOffsets with
    ⟨between, sig, sigIndices, sigIdentity⟩
  rcases foldlM_setModel_of_mem (sigIndices ▸ member) (vendorModelId data)
    span.vendorOffsets with ⟨next, vendor, vendorIndices, vendorIdentity⟩
  refine ⟨next, ?_, (vendorIndices.trans sigIndices).trans indices,
    vendorIdentity.trans sigIdentity⟩
  unfold parseElement
  simp only
  rw [walkElement_eq]
  change Option.map _ (Option.bind (span.sigOffsets.foldlM _ appended) _) = _
  rw [sig, Option.bind_some, vendor]
  rfl

theorem foldlM_parseElement_appends (data : Nat → Byte) (indices : List Nat)
    (node : MeshNode) (cursor : Cursor) :
    ∃ next last, indices.foldlM (parseElement data) (node, cursor) =
        some (next, last) ∧
      next.elementIndices = node.elementIndices ++ indices.map (BitVec.ofNat 8) ∧
      next.identity = node.identity := by
  induction indices generalizing node cursor with
  | nil => exact ⟨node, cursor, rfl, (List.append_nil _).symm, rfl⟩
  | cons index indices induction =>
      rcases parseElement_appends data node cursor index with
        ⟨between, parsed, added, identity⟩
      rcases induction between (nextElement 2 data cursor) with
        ⟨next, last, rest, restAdded, restIdentity⟩
      refine ⟨next, last, ?_, ?_, restIdentity.trans identity⟩
      · rw [List.foldlM_cons, parsed]
        exact rest
      · rw [restAdded, added, List.map_cons, ← List.append_cons]

/-- A payload is always taken, and its elements are put behind those that the node
has. -/
theorem nodeParseComposition_appends (node : MeshNode) (data : Nat → Byte)
    (len : U16) :
    ∃ next, nodeParseComposition node data len = some next ∧
      next.elementIndices = node.elementIndices ++
        (List.range node.numEle.toNat).map (BitVec.ofNat 8) ∧
      next.numEle = node.numEle ∧
      next.comp = some (parseCompositionHeader data) := by
  rcases foldlM_parseElement_appends data (List.range node.numEle.toNat) node
    (elementsStart len) with ⟨next, last, parsed, indices, identity⟩
  have sameNumEle : next.identity.numEle = node.identity.numEle :=
    congrArg MeshNode.numEle identity
  refine ⟨{ next with comp := some (parseCompositionHeader data) }, ?_, indices,
    sameNumEle, rfl⟩
  unfold nodeParseComposition
  rw [parsed]
  rfl

/-! ## The same payload twice -/

/-- A second time changes nothing, and neither time leaves a node with two elements of
one index, or a part of the elements behind a failure. -/
def ReceivedAgain (node : MeshNode) (data : Nat → Byte) (len : U16) : Prop :=
  ∃ once twice, nodeParseComposition node data len = some once ∧
    nodeParseComposition once data len = some twice ∧
    twice.elements = once.elements ∧
    (node.elementIndices.Nodup → twice.elementIndices.Nodup) ∧
    twice.comp = once.comp

theorem numEle_of_receivedAgain {node : MeshNode} {data : Nat → Byte} {len : U16}
    (again : ReceivedAgain node data len) : node.numEle = 0 := by
  rcases again with ⟨once, twice, first, second, sameElements, _⟩
  rcases nodeParseComposition_appends node data len with
    ⟨once', first', _, sameNumEle, _⟩
  have isOnce : once = once' := Option.some_inj.mp (first.symm.trans first')
  subst isOnce
  rcases nodeParseComposition_appends once data len with ⟨twice', second', added, _⟩
  have isTwice : twice = twice' := Option.some_inj.mp (second.symm.trans second')
  subst isTwice
  have lengths := congrArg List.length added
  rw [MeshNode.elementIndices, sameElements, MeshNode.elementIndices, List.length_append,
    List.length_map, List.length_map, List.length_range, sameNumEle] at lengths
  have none : node.numEle.toNat = 0 := by omega
  exact BitVec.eq_of_toNat_eq none

/-- Composition data can be received again for a node without elements of its own, and
for no other. -/
theorem received_again_iff (node : MeshNode) (data : Nat → Byte) (len : U16) :
    ReceivedAgain node data len ↔ node.numEle = 0 := by
  refine ⟨numEle_of_receivedAgain, fun noElements => ?_⟩
  have parsed (node : MeshNode) (noElements : node.numEle = 0) :
      nodeParseComposition node data len =
        some { node with comp := some (parseCompositionHeader data) } := by
    have nothing : List.range node.numEle.toNat = [] := by
      rw [noElements]
      rfl
    unfold nodeParseComposition
    rw [nothing]
    rfl
  exact ⟨_, _, parsed node noElements, parsed _ noElements, rfl, id, rfl⟩

/-- A payload with one element that has one model. -/
def singleModelPayload (offset : Nat) : Byte := if offset = 13 then 1 else 0

/-- A whole payload for a node that has not got any yet. -/
theorem not_always_received_again :
    ¬∀ (node : MeshNode) (data : Nat → Byte) (len : U16), 16 ≤ len.toNat →
      11 + elementBytes data node.numEle.toNat 11 = len.toNat →
      ReceivedAgain node data len := by
  intro again
  have received := again { MeshNode.new with numEle := 1 } singleModelPayload 17
    (by decide) (by decide)
  exact absurd (numEle_of_receivedAgain received) (by decide)

end Meshctl.Db
