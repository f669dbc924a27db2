import Meshctl.Db.Composition
import Meshctl.Db.Reading

/-! # Composition data over a restart

Both functions that go through a payload are brought to the same description,
which says for each element where its models are and how many of them are taken.
The two descriptions differ in what is counted in front of the models.
-/

namespace Meshctl.Db

open Net Text

/-! ## The models of a payload -/

/-- How many models of one size fit into what is left. -/
def Cursor.taken (size count : Nat) (cursor : Cursor) : Nat :=
  min count (cursor.len.toNat / size)

/-- Where the models of an element start, and how many are taken. -/
structure ElementSpan where
  start : Nat
  sig : Nat
  vendor : Nat
deriving DecidableEq

namespace ElementSpan

variable (span : ElementSpan)

def sigOffsets : List Nat :=
  (List.range span.sig).map fun index => span.start + 2 * index

def vendorOffsets : List Nat :=
  (List.range span.vendor).map fun index => span.start + 2 * span.sig + 4 * index

def bytes : Nat := 2 * span.sig + 4 * span.vendor

/-- The ids of the models, in their order. -/
def ids (data : Nat → Byte) : List U32 :=
  span.sigOffsets.map (sigModelId data) ++
    span.vendorOffsets.map (vendorModelId data)

end ElementSpan

def modelsStart (counted : Nat) (cursor : Cursor) : Cursor where
  offset := cursor.offset + 4
  len := cursor.len - BitVec.ofNat 16 counted

def elementSpan (counted : Nat) (data : Nat → Byte) (cursor : Cursor) :
    ElementSpan :=
  let models := modelsStart counted cursor
  let sig := models.taken 2 (data (cursor.offset + 2)).toNat
  { start := models.offset
    sig
    vendor := (models.skip (2 * sig)).taken 4 (data (cursor.offset + 3)).toNat }

/-- Behind an element. -/
def nextElement (counted : Nat) (data : Nat → Byte) (cursor : Cursor) : Cursor :=
  (modelsStart counted cursor).skip (elementSpan counted data cursor).bytes

def elementSpans (counted : Nat) (data : Nat → Byte) :
    Nat → Cursor → List ElementSpan
  | 0, _ => []
  | count + 1, cursor =>
      elementSpan counted data cursor ::
        elementSpans counted data count (nextElement counted data cursor)

@[simp] theorem length_elementSpans (counted : Nat) (data : Nat → Byte)
    (count : Nat) (cursor : Cursor) :
    (elementSpans counted data count cursor).length = count := by
  induction count generalizing cursor with
  | zero => rfl
  | succ count induction => rw [elementSpans, List.length_cons, induction]

@[simp] theorem Cursor.skip_skip (cursor : Cursor) (first second : Nat) :
    (cursor.skip first).skip second = cursor.skip (first + second) := by
  simp only [Cursor.skip, Nat.add_assoc, Cursor.mk.injEq, true_and]
  rw [BitVec.sub_sub, ← BitVec.ofNat_add]

/-! ## The loops -/

theorem Cursor.taken_succ {size count : Nat} {cursor : Cursor}
    (positive : 0 < size) (small : size < 65536)
    (fits : size ≤ cursor.len.toNat) :
    cursor.taken size (count + 1) = (cursor.skip size).taken size count + 1 := by
  have left : (cursor.skip size).len.toNat = cursor.len.toNat - size := by
    have bound := cursor.len.isLt
    rw [Cursor.skip, BitVec.toNat_sub, BitVec.toNat_ofNat,
      Nat.mod_eq_of_lt small]
    omega
  rw [Cursor.taken, Cursor.taken, left, ← Nat.add_min_add_right,
    ← Nat.div_eq_sub_div positive fits]

/-- A loop takes the models that fit, one behind the other. -/
theorem walkModels_eq {State : Type} {size : Nat} (positive : 0 < size)
    (small : size < 65536) (take : State → Nat → Option State) (count : Nat)
    (state : State) (cursor : Cursor) :
    walkModels size take count state cursor =
      (((List.range (cursor.taken size count)).map fun index =>
        cursor.offset + size * index).foldlM take state).map fun state =>
          (state, cursor.skip (size * cursor.taken size count)) := by
  induction count generalizing state cursor with
  | zero =>
      have nothing : cursor.taken size 0 = 0 := Nat.zero_min _
      rw [nothing]
      simp [walkModels, Cursor.skip]
  | succ count induction =>
      rw [walkModels]
      by_cases short : cursor.len.toNat < size
      · have nothing : cursor.taken size (count + 1) = 0 := by
          rw [Cursor.taken, Nat.div_eq_of_lt short, Nat.min_zero]
        rw [if_pos short, nothing]
        simp [Cursor.skip]
      · have offsets : (List.range ((cursor.skip size).taken size count)).map
            ((fun index => cursor.offset + size * index) ∘ Nat.succ) =
            (List.range ((cursor.skip size).taken size count)).map fun index =>
              (cursor.skip size).offset + size * index := by
          refine List.map_congr_left fun index _ => ?_
          simp only [Function.comp_apply, Cursor.skip, Nat.mul_succ]
          omega
        rw [if_neg short, Cursor.taken_succ positive small (not_lt.mp short),
          List.range_succ_eq_map, List.map_cons, List.foldlM_cons, List.map_map,
          offsets, Nat.mul_zero, Nat.add_zero]
        cases take state cursor.offset with
        | none => rfl
        | some next =>
            simp only [Option.bind_eq_bind, Option.bind_some]
            rw [induction, Cursor.skip_skip, Nat.mul_succ, Nat.add_comm size]

theorem walkElement_eq {State : Type} (counted : Nat) (data : Nat → Byte)
    (takeSig takeVendor : State → Nat → Option State) (state : State)
    (cursor : Cursor) :
    walkElement counted data takeSig takeVendor state cursor =
      let span := elementSpan counted data cursor
      ((span.sigOffsets.foldlM takeSig state).bind fun state =>
        span.vendorOffsets.foldlM takeVendor state).map fun state =>
          (state, nextElement counted data cursor) := by
  unfold walkElement
  simp only [walkModels_eq (by decide : 0 < 2) (by decide : 2 < 65536),
    walkModels_eq (by decide : 0 < 4) (by decide : 4 < 65536)]
  change Option.bind (Option.map _ ((elementSpan counted data cursor).sigOffsets.foldlM
    takeSig state)) _ = _
  cases (elementSpan counted data cursor).sigOffsets.foldlM takeSig state with
  | none => rfl
  | some next =>
      simp only [Option.map_some, Option.bind_some, Cursor.skip_skip]
      rfl

/-! ## What the node has -/

def addNew (seen : List U32) (id : U32) : List U32 :=
  if seen.contains id then seen else seen ++ [id]

/-- Of ids that are the same the first one is kept. -/
def distinctIds (ids : List U32) : List U32 := ids.foldl addNew []

/-- A node whose last element has models that have not been configured. -/
def withModels (node : MeshNode) (before : List MeshElement) (index : Byte)
    (loc : U16) (ids : List U32) : MeshNode :=
  { node with
    elements := before ++ [{ index, loc, models := ids.map MeshModel.new }] }

theorem changeFirst_append {α : Type*} {found : α → Bool} {before : List α}
    (skipped : ∀ entry ∈ before, found entry = false) {last : α}
    (isFound : found last = true) (change : α → α) :
    changeFirst found change (before ++ [last]) = before ++ [change last] := by
  induction before with
  | nil => simp [changeFirst, isFound]
  | cons entry before induction =>
      rw [List.cons_append, changeFirst, skipped entry List.mem_cons_self]
      simp only [Bool.false_eq_true, if_false]
      rw [induction fun other member => skipped other (List.mem_cons_of_mem _ member),
        List.cons_append]

section

variable {node : MeshNode} {before : List MeshElement} {index : Byte} {loc : U16}

theorem findElement_withModels (fresh : ∀ element ∈ before, element.index ≠ index)
    (ids : List U32) :
    (withModels node before index loc ids).findElement index =
      some { index, loc, models := ids.map MeshModel.new } := by
  have skipped : before.find? (fun element => element.index = index) = none := by
    rw [List.find?_eq_none]
    intro element member
    simpa using fresh element member
  rw [MeshNode.findElement, withModels, List.find?_append, skipped]
  simp

theorem setModel_withModels (fresh : ∀ element ∈ before, element.index ≠ index)
    (ids : List U32) (id : U32) :
    (withModels node before index loc ids).setModel index id =
      some (withModels node before index loc (addNew ids id)) := by
  have present : ((MeshElement.mk index loc (ids.map MeshModel.new)).findModel
      id).isSome = ids.contains id := by
    rw [Bool.eq_iff_iff]
    simp only [MeshElement.findModel, List.find?_isSome, List.contains_iff_mem,
      List.mem_map, exists_exists_and_eq_and, MeshModel.new]
    constructor
    · rintro ⟨other, member, same⟩
      exact of_decide_eq_true same ▸ member
    · intro member
      exact ⟨id, member, decide_eq_true rfl⟩
  rw [MeshNode.setModel, findElement_withModels fresh]
  simp only [Option.isNone_some, Bool.false_eq_true, if_false]
  rw [MeshNode.changeElement, withModels, changeFirst_append
    (fun element member => by simpa using fresh element member) (by simp)]
  rw [withModels, MeshElement.setModel, present, addNew]
  split <;> simp

/-- The loop over the models of one size. -/
theorem foldlM_setModel (fresh : ∀ element ∈ before, element.index ≠ index)
    (modelId : Nat → U32) (offsets : List Nat) (ids : List U32) :
    offsets.foldlM (fun node offset => node.setModel index (modelId offset))
        (withModels node before index loc ids) =
      some (withModels node before index loc
        ((offsets.map modelId).foldl addNew ids)) := by
  induction offsets generalizing ids with
  | nil => rfl
  | cons offset offsets induction =>
      rw [List.foldlM_cons, setModel_withModels fresh]
      exact induction _

/-- An element with the models of a span. -/
def spanElement (data : Nat → Byte) (loc : U16) (entry : ElementSpan × Nat) :
    MeshElement where
  index := BitVec.ofNat 8 entry.2
  loc := loc
  models := (distinctIds (entry.1.ids data)).map MeshModel.new

/-- Elements with indices below a bound. -/
def IndicesBelow (bound : Nat) (elements : List MeshElement) : Prop :=
  ∀ element ∈ elements, element.index.toNat < bound

theorem IndicesBelow.fresh {bound : Nat} {elements : List MeshElement}
    (below : IndicesBelow bound elements) (small : bound < 256) :
    ∀ element ∈ elements, element.index ≠ BitVec.ofNat 8 bound := by
  intro element member same
  have bounded := below element member
  rw [same, BitVec.toNat_ofNat, Nat.mod_eq_of_lt small] at bounded
  exact Nat.lt_irrefl _ bounded

theorem IndicesBelow.append {bound : Nat} {elements : List MeshElement}
    (below : IndicesBelow bound elements) (small : bound < 256)
    {element : MeshElement} (index : element.index = BitVec.ofNat 8 bound) :
    IndicesBelow (bound + 1) (elements ++ [element]) := by
  intro other member
  rcases List.mem_append.mp member with earlier | last
  · exact Nat.lt_succ_of_lt (below other earlier)
  · rw [List.mem_singleton.mp last, index, BitVec.toNat_ofNat,
      Nat.mod_eq_of_lt small]
    exact Nat.lt_succ_self bound

theorem parseElement_eq (data : Nat → Byte) {node : MeshNode} {index : Nat}
    (below : IndicesBelow index node.elements) (small : index < 256)
    (cursor : Cursor) :
    parseElement data (node, cursor) index =
      some ({ node with
        elements := node.elements ++ [spanElement data (getLe16 data cursor.offset)
          (elementSpan 2 data cursor, index)] }, nextElement 2 data cursor) := by
  have fresh := below.fresh small
  have sig := @foldlM_setModel node node.elements (BitVec.ofNat 8 index)
    (getLe16 data cursor.offset) fresh (sigModelId data)
    (elementSpan 2 data cursor).sigOffsets []
  have vendor := @foldlM_setModel node node.elements (BitVec.ofNat 8 index)
    (getLe16 data cursor.offset) fresh (vendorModelId data)
    (elementSpan 2 data cursor).vendorOffsets
    (((elementSpan 2 data cursor).sigOffsets.map (sigModelId data)).foldl addNew [])
  unfold parseElement
  simp only
  rw [walkElement_eq]
  change Option.map _ (Option.bind ((elementSpan 2 data cursor).sigOffsets.foldlM _
    (withModels node node.elements (BitVec.ofNat 8 index)
      (getLe16 data cursor.offset) [])) _) = _
  rw [sig, Option.bind_some, vendor, ← List.foldl_append]
  rfl

/-- The elements of a node that are made from spans, the first of them with the
given index. -/
def spanElements (data : Nat → Byte) (loc : ElementSpan → U16)
    (spans : List ElementSpan) (first : Nat) : List MeshElement :=
  (spans.zipIdx first).map fun entry => spanElement data (loc entry.1) entry

theorem foldlM_parseElement (data : Nat → Byte) (count : Nat) {node : MeshNode}
    {first : Nat} (below : IndicesBelow first node.elements)
    (small : first + count ≤ 256) (cursor : Cursor) :
    ∃ last, (List.range' first count).foldlM (parseElement data) (node, cursor) =
      some ({ node with
        elements := node.elements ++
          spanElements data (fun span => getLe16 data (span.start - 4))
            (elementSpans 2 data count cursor) first }, last) := by
  induction count generalizing node first cursor with
  | zero => exact ⟨cursor, by simp [elementSpans, spanElements]⟩
  | succ count induction =>
      let element := spanElement data (getLe16 data cursor.offset)
        (elementSpan 2 data cursor, first)
      have rest : first + 1 + count ≤ 256 := by omega
      have stillBelow : IndicesBelow (first + 1) (node.elements ++ [element]) :=
        below.append (by omega) rfl
      rcases @induction { node with elements := node.elements ++ [element] } _
        stillBelow rest (nextElement 2 data cursor) with ⟨last, parsed⟩
      rw [List.range'_succ, List.foldlM_cons, parseElement_eq data below (by omega)]
      have split : spanElements data (fun span => getLe16 data (span.start - 4))
          (elementSpans 2 data (count + 1) cursor) first =
          element :: spanElements data (fun span => getLe16 data (span.start - 4))
            (elementSpans 2 data count (nextElement 2 data cursor)) (first + 1) := rfl
      refine ⟨last, ?_⟩
      simp only [Option.bind_eq_bind, Option.bind_some]
      rw [parsed, split, List.append_cons _ _ (spanElements _ _ _ _)]

/-- A node without elements gets those that the payload describes. -/
theorem nodeParseComposition_eq {node : MeshNode} (noElements : node.elements = [])
    (data : Nat → Byte) (len : U16) :
    nodeParseComposition node data len =
      some { node with
        elements := spanElements data (fun span => getLe16 data (span.start - 4))
          (elementSpans 2 data node.numEle.toNat (elementsStart len)) 0
        comp := some (parseCompositionHeader data) } := by
  have below : IndicesBelow 0 node.elements := by
    intro element member
    rw [noElements] at member
    cases member
  rcases foldlM_parseElement data node.numEle.toNat below
    (by have bound := node.numEle.isLt; omega) (elementsStart len) with ⟨last, parsed⟩
  unfold nodeParseComposition
  rw [List.range_eq_range', parsed, noElements]
  rfl

end

/-! ## What the database has -/

/-- The entries of a record for the models of a span. -/
def ElementSpan.entries (data : Nat → Byte) (span : ElementSpan) : List Json :=
  span.sigOffsets.map (sigModelEntry data) ++
    span.vendorOffsets.map (vendorModelEntry data)

def spanRecord (data : Nat → Byte) (entry : ElementSpan × Nat) : Json :=
  elementRecord entry.2 (getLe16 data (entry.1.start - 4)) (entry.1.entries data)

def spanRecords (data : Nat → Byte) (spans : List ElementSpan) (first : Nat) :
    List Json :=
  (spans.zipIdx first).map (spanRecord data)

theorem foldlM_entries (entry : Nat → Json) (offsets : List Nat)
    (models : List Json) :
    offsets.foldlM (fun models offset => some (models ++ [entry offset])) models =
      some (models ++ offsets.map entry) := by
  induction offsets generalizing models with
  | nil => simp
  | cons offset offsets induction =>
      rw [List.foldlM_cons]
      simp only [Option.bind_eq_bind, Option.bind_some]
      rw [induction, List.map_cons, List.append_assoc, List.singleton_append]

theorem addElementRecord_eq (data : Nat → Byte) (elements : List Json)
    (index : Nat) (cursor : Cursor) :
    addElementRecord data (elements, cursor) index =
      some (elements ++ [spanRecord data (elementSpan 4 data cursor, index)],
        nextElement 4 data cursor) := by
  unfold addElementRecord
  simp only [walkElement_eq, foldlM_entries (sigModelEntry data),
    foldlM_entries (vendorModelEntry data), Option.bind_eq_bind, Option.bind_some,
    Option.map_some]
  rfl

theorem foldlM_addElementRecord (data : Nat → Byte) (count : Nat)
    (elements : List Json) (first : Nat) (cursor : Cursor) :
    ∃ last, (List.range' first count).foldlM (addElementRecord data)
        (elements, cursor) =
      some (elements ++ spanRecords data (elementSpans 4 data count cursor) first,
        last) := by
  induction count generalizing elements first cursor with
  | zero => exact ⟨cursor, by simp [elementSpans, spanRecords]⟩
  | succ count induction =>
      rcases induction (elements ++
        [spanRecord data (elementSpan 4 data cursor, first)]) (first + 1)
        (nextElement 4 data cursor) with ⟨last, added⟩
      have split : spanRecords data (elementSpans 4 data (count + 1) cursor) first =
          spanRecord data (elementSpan 4 data cursor, first) ::
            spanRecords data (elementSpans 4 data count (nextElement 4 data cursor))
              (first + 1) := rfl
      refine ⟨last, ?_⟩
      rw [List.range'_succ, List.foldlM_cons, addElementRecord_eq]
      simp only [Option.bind_eq_bind, Option.bind_some]
      rw [added, split, List.append_cons _ _ (spanRecords _ _ _)]

/-- The composition is put into the record that has the address of the node. -/
theorem provDbAddNodeComposition_eq_some_iff {file after : Json}
    {node : MeshNode} {data : Nat → Byte} {len : U16} :
    provDbAddNodeComposition file node data len = some after ↔
      ∃ comp index, node.comp = some comp ∧
        findNodeByPrimary file node.primary = some index ∧
        after = changeRecord file index fun record =>
          record.add "composition" (compositionRecord comp (spanRecords data
            (elementSpans 4 data node.numEle.toNat (elementsStart len)) 0)) := by
  rcases foldlM_addElementRecord data node.numEle.toNat [] 0 (elementsStart len) with
    ⟨last, added⟩
  unfold provDbAddNodeComposition
  simp only [List.range_eq_range', added, List.nil_append, Option.bind_eq_bind,
    Option.bind_eq_some_iff, Option.some.injEq]
  constructor
  · rintro ⟨comp, isComp, index, isIndex, _, rfl, rfl⟩
    exact ⟨comp, index, isComp, isIndex, rfl⟩
  · rintro ⟨comp, index, isComp, isIndex, rfl⟩
    exact ⟨comp, isComp, index, isIndex, _, rfl, rfl⟩

/-! ## What is read back -/

theorem readModelId_sig (data : Nat → Byte) (offset : Nat) :
    readModelId (some (sigModelEntry data offset)) = some (sigModelId data offset) := by
  rw [sigModelEntry, readModelId_hex16, sigModelId]

theorem readModelId_vendor (data : Nat → Byte) (offset : Nat) :
    readModelId (some (vendorModelEntry data offset)) =
      some (vendorModelId data offset) :=
  readModelId_hex32 (vendorModelId data offset)

/-- The loop over the entries of a record. -/
theorem foldlM_readModels {node : MeshNode} {before : List MeshElement}
    {index : Byte} {loc : U16}
    (fresh : ∀ element ∈ before, element.index ≠ index)
    (entry : Nat → Json) (modelId : Nat → U32)
    (isRead : ∀ offset, readModelId (entry offset).pointer = some (modelId offset))
    (offsets : List Nat) (ids : List U32) :
    parseCompositionModels (withModels node before index loc ids) index
        (offsets.map entry) =
      some (withModels node before index loc
        ((offsets.map modelId).foldl addNew ids)) := by
  unfold parseCompositionModels
  induction offsets generalizing ids with
  | nil => rfl
  | cons offset offsets induction =>
      rw [List.map_cons, List.foldlM_cons, isRead]
      simp only [Option.bind_eq_bind, Option.bind_some, setModel_withModels fresh,
        Option.getD_some]
      exact induction _

theorem parseCompositionModels_entries {node : MeshNode}
    {before : List MeshElement} {index : Byte} {loc : U16}
    (fresh : ∀ element ∈ before, element.index ≠ index) (data : Nat → Byte)
    (span : ElementSpan) :
    parseCompositionModels (withModels node before index loc []) index
        (span.entries data) =
      some (withModels node before index loc (distinctIds (span.ids data))) := by
  have sig := @foldlM_readModels node before index loc fresh (sigModelEntry data)
    (sigModelId data) (readModelId_sig data) span.sigOffsets []
  have vendor := @foldlM_readModels node before index loc fresh
    (vendorModelEntry data) (vendorModelId data) (readModelId_vendor data)
    span.vendorOffsets ((span.sigOffsets.map (sigModelId data)).foldl addNew [])
  unfold parseCompositionModels at sig vendor ⊢
  rw [ElementSpan.entries, List.foldlM_append, sig, distinctIds, ElementSpan.ids,
    List.foldl_append]
  exact vendor

theorem parseCompositionElement_spanRecord (data : Nat → Byte) {node : MeshNode}
    {count index : Nat} (below : IndicesBelow index node.elements)
    (inside : index < count) (small : count ≤ 256) (span : ElementSpan) :
    parseCompositionElement count node (spanRecord data (span, index)) =
      some { node with
        elements := node.elements ++ [spanElement data 0 (span, index)] } := by
  have fresh := below.fresh (lt_of_lt_of_le inside small)
  have value : (spanRecord data (span, index)).get "elementIndex" =
      some (.int index) := rfl
  have models : (spanRecord data (span, index)).get "models" =
      some (.array (span.entries data)) := rfl
  have isIndex : Json.getInt (some (.int index)) = index := Json.getInt_int (by omega)
  have absent : node.findElement (BitVec.ofNat 8 index) = none := by
    rw [MeshNode.findElement, List.find?_eq_none]
    intro element member
    simpa using fresh element member
  have read := @parseCompositionModels_entries node node.elements
    (BitVec.ofNat 8 index) 0 fresh data span
  unfold parseCompositionElement
  rw [value, models]
  simp only [Option.bind_eq_bind, Option.bind_some, isIndex, Json.items]
  rw [if_neg (by omega), BitVec.ofInt_natCast, MeshNode.setElement, absent]
  exact read

theorem foldlM_spanRecords (data : Nat → Byte) {count : Nat} (small : count ≤ 256)
    (spans : List ElementSpan) {node : MeshNode} {first : Nat}
    (below : IndicesBelow first node.elements)
    (inside : first + spans.length ≤ count) :
    (spanRecords data spans first).foldlM (parseCompositionElement count) node =
      some { node with
        elements := node.elements ++ spanElements data (fun _ => 0) spans first } := by
  induction spans generalizing node first with
  | nil => simp [spanRecords, spanElements]
  | cons span spans induction =>
      let element := spanElement data 0 (span, first)
      rw [List.length_cons] at inside
      have stillBelow : IndicesBelow (first + 1) (node.elements ++ [element]) :=
        below.append (by omega) rfl
      have parsed := @induction { node with elements := node.elements ++ [element] }
        _ stillBelow (by omega)
      have records : spanRecords data (span :: spans) first =
          spanRecord data (span, first) :: spanRecords data spans (first + 1) := rfl
      have elements : spanElements data (fun _ => 0) (span :: spans) first =
          element :: spanElements data (fun _ => 0) spans (first + 1) := rfl
      rw [records, List.foldlM_cons,
        parseCompositionElement_spanRecord data below (by omega) small span]
      simp only [Option.bind_eq_bind, Option.bind_some]
      rw [parsed, elements, List.append_cons _ _ (spanElements _ _ _ _)]

/-- The elements of a stored composition are those that its spans describe, and
no node is a low power node. -/
theorem parseNodeComposition_compositionRecord (data : Nat → Byte)
    {start : MeshNode} (without : start.comp = none)
    (noElements : start.elements = []) (comp : MeshNodeComposition)
    {spans : List ElementSpan} (small : spans.length ≤ 256) :
    parseNodeComposition start (compositionRecord comp (spanRecords data spans 0)) =
      some { start with
        numEle := BitVec.ofNat 8 spans.length
        elements := spanElements data (fun _ => 0) spans 0
        comp := some { comp with lpn := false } } := by
  have below : IndicesBelow 0 start.elements := by
    intro element member
    rw [noElements] at member
    cases member
  have count : (spanRecords data spans 0).length = spans.length := by
    simp [spanRecords]
  have read := @foldlM_spanRecords data spans.length small spans
    { start with
      numEle := BitVec.ofNat 8 spans.length
      comp := some { comp with lpn := false } } 0 below (by omega)
  have cid : (compositionRecord comp (spanRecords data spans 0)).get "cid" =
      some (Json.hex16 comp.cid.toNat) := rfl
  have pid : (compositionRecord comp (spanRecords data spans 0)).get "pid" =
      some (Json.hex16 comp.pid.toNat) := rfl
  have vid : (compositionRecord comp (spanRecords data spans 0)).get "vid" =
      some (Json.hex16 comp.vid.toNat) := rfl
  have crpl : (compositionRecord comp (spanRecords data spans 0)).get "crpl" =
      some (Json.hex16 comp.crpl.toNat) := rfl
  have features : (compositionRecord comp (spanRecords data spans 0)).get
      "features" = some (featureRecord comp) := rfl
  have elements : (compositionRecord comp (spanRecords data spans 0)).get
      "elements" = some (.array (spanRecords data spans 0)) := rfl
  have set : start.setComposition { comp with lpn := false } =
      some { start with comp := some { comp with lpn := false } } := by
    rw [MeshNode.setComposition, without]
    rfl
  unfold parseNodeComposition
  rw [cid, pid, vid, crpl, features, elements]
  simp only [readHex16_hex16, Option.bind_eq_bind, Option.bind_some]
  change ((start.setComposition { comp with lpn := false }).bind _) = _
  rw [set, Option.bind_some]
  simp only [Json.items, Option.bind_some]
  rw [parseCompositionElements, count]
  refine read.trans ?_
  simp only [noElements, List.nil_append]

/-! ## Looking at the elements -/

def MeshElement.modelIds (element : MeshElement) : List U32 :=
  element.models.map (·.id)

/-- An element is found in the place that its index says. -/
theorem find_spanElements (data : Nat → Byte) (loc : ElementSpan → U16)
    (spans : List ElementSpan) (eleIdx : Byte) {first : Nat}
    (below : first ≤ eleIdx.toNat) (small : first + spans.length ≤ 256) :
    ((spanElements data loc spans first).find?
        fun element => element.index = eleIdx).map MeshElement.modelIds =
      spans[eleIdx.toNat - first]?.map fun span => distinctIds (span.ids data) := by
  induction spans generalizing first with
  | nil => rfl
  | cons span spans induction =>
      rw [List.length_cons] at small
      have elements : spanElements data loc (span :: spans) first =
          spanElement data (loc span) (span, first) ::
            spanElements data loc spans (first + 1) := rfl
      have index : (spanElement data (loc span) (span, first)).index =
          BitVec.ofNat 8 first := rfl
      rw [elements, List.find?_cons, index]
      by_cases same : first = eleIdx.toNat
      · have isIndex : BitVec.ofNat 8 first = eleIdx := by
          rw [same, BitVec.ofNat_toNat, BitVec.setWidth_eq]
        rw [isIndex, same, Nat.sub_self, decide_eq_true rfl]
        simp only [Option.map_some, List.getElem?_cons_zero, Option.some.injEq]
        rw [MeshElement.modelIds, spanElement, List.map_map]
        exact List.map_id _
      · have notIndex : BitVec.ofNat 8 first ≠ eleIdx := by
          intro equal
          refine same ?_
          rw [← equal, BitVec.toNat_ofNat, Nat.mod_eq_of_lt (by omega)]
        have later : eleIdx.toNat - first = eleIdx.toNat - (first + 1) + 1 := by
          omega
        rw [decide_eq_false notIndex, later, List.getElem?_cons_succ]
        exact induction (by omega) (by omega)

/-- The header fields are the same, and every element has the same models. -/
def SameComposition (first second : MeshNode) : Prop :=
  first.comp = second.comp ∧
    ∀ eleIdx, (first.findElement eleIdx).map MeshElement.modelIds =
      (second.findElement eleIdx).map MeshElement.modelIds

/-- The record of a node has a composition that is read back the same, into a node
that has been made for it. -/
def ReloadsComposition (start : MeshNode) (file : Json) (node : MeshNode) :
    Prop :=
  ∃ index records record comp reloaded,
    findNodeByPrimary file node.primary = some index ∧
    nodeRecords file = some records ∧ records[index]? = some record ∧
    record.get "composition" = some comp ∧
    parseNodeComposition start comp = some reloaded ∧
    SameComposition node reloaded

/-- For every element, counting two and counting four of the bytes in front of
the models makes room for the same models. -/
def SameModels (data : Nat → Byte) (len : U16) (numEle : Byte) : Prop :=
  (elementSpans 2 data numEle.toNat (elementsStart len)).map
      (fun span => distinctIds (span.ids data)) =
    (elementSpans 4 data numEle.toNat (elementsStart len)).map
      fun span => distinctIds (span.ids data)

instance (data : Nat → Byte) (len : U16) (numEle : Byte) :
    Decidable (SameModels data len numEle) :=
  inferInstanceAs (Decidable (_ = _))

theorem sameElements_iff (data : Nat → Byte) {first second : List ElementSpan}
    (firstLoc secondLoc : ElementSpan → U16)
    (firstSmall : first.length ≤ 256) (secondSmall : second.length ≤ 256) :
    (∀ eleIdx : Byte,
      ((spanElements data firstLoc first 0).find?
        fun element => element.index = eleIdx).map MeshElement.modelIds =
      ((spanElements data secondLoc second 0).find?
        fun element => element.index = eleIdx).map MeshElement.modelIds) ↔
    first.map (fun span => distinctIds (span.ids data)) =
      second.map fun span => distinctIds (span.ids data) := by
  have firstFind := fun eleIdx : Byte =>
    find_spanElements data firstLoc first eleIdx (Nat.zero_le _)
      (by rw [Nat.zero_add]; exact firstSmall)
  have secondFind := fun eleIdx : Byte =>
    find_spanElements data secondLoc second eleIdx (Nat.zero_le _)
      (by rw [Nat.zero_add]; exact secondSmall)
  simp only [firstFind, secondFind, Nat.sub_zero, ← List.getElem?_map]
  constructor
  · intro each
    refine List.ext_getElem? fun position => ?_
    by_cases inside : position < 256
    · have at_position := each (BitVec.ofNat 8 position)
      rw [BitVec.toNat_ofNat, Nat.mod_eq_of_lt inside] at at_position
      exact at_position
    · rw [List.getElem?_eq_none (by rw [List.length_map]; omega),
        List.getElem?_eq_none (by rw [List.length_map]; omega)]
  · intro same eleIdx
    rw [same]

/-! ## Complete payloads -/

/-- How many bytes the elements of a payload have. -/
def elementBytes (data : Nat → Byte) : Nat → Nat → Nat
  | 0, _ => 0
  | count + 1, offset =>
      let bytes := 4 + 2 * (data (offset + 2)).toNat + 4 * (data (offset + 3)).toNat
      bytes + elementBytes data count (offset + bytes)

/-- The spans of elements that are there as a whole. -/
def wholeSpans (data : Nat → Byte) : Nat → Nat → List ElementSpan
  | 0, _ => []
  | count + 1, offset =>
      let span :=
        { start := offset + 4
          sig := (data (offset + 2)).toNat
          vendor := (data (offset + 3)).toNat }
      span :: wholeSpans data count (offset + 4 + span.bytes)

theorem Cursor.len_skip {cursor : Cursor} {bytes : Nat}
    (inside : bytes ≤ cursor.len.toNat) :
    (cursor.skip bytes).len.toNat = cursor.len.toNat - bytes := by
  have bound := cursor.len.isLt
  rw [Cursor.skip, BitVec.toNat_sub, BitVec.toNat_ofNat,
    Nat.mod_eq_of_lt (by omega : bytes < 2 ^ 16)]
  omega

theorem Cursor.taken_of_le {size count : Nat} {cursor : Cursor}
    (positive : 0 < size) (inside : size * count ≤ cursor.len.toNat) :
    cursor.taken size count = count := by
  rw [Cursor.taken, Nat.min_eq_left]
  rwa [Nat.le_div_iff_mul_le positive, Nat.mul_comm]

theorem elementSpans_of_complete {counted : Nat} (atMost : counted ≤ 4)
    (data : Nat → Byte) (count : Nat) {cursor : Cursor}
    (complete : elementBytes data count cursor.offset ≤ cursor.len.toNat) :
    elementSpans counted data count cursor = wholeSpans data count cursor.offset := by
  induction count generalizing cursor with
  | zero => rfl
  | succ count induction =>
      let m := (data (cursor.offset + 2)).toNat
      let v := (data (cursor.offset + 3)).toNat
      have bytes : 4 + 2 * m + 4 * v +
          elementBytes data count (cursor.offset + (4 + 2 * m + 4 * v)) ≤
            cursor.len.toNat := complete
      have models : (modelsStart counted cursor).len.toNat =
          cursor.len.toNat - counted :=
        Cursor.len_skip (by omega : counted ≤ cursor.len.toNat)
      have sig : (modelsStart counted cursor).taken 2 m = m :=
        Cursor.taken_of_le (by decide) (by omega)
      have left : ((modelsStart counted cursor).skip (2 * m)).len.toNat =
          cursor.len.toNat - counted - 2 * m := by
        rw [Cursor.len_skip (by omega), models]
      have vendor : ((modelsStart counted cursor).skip (2 * m)).taken 4 v = v :=
        Cursor.taken_of_le (by decide) (by omega)
      have span : elementSpan counted data cursor =
          { start := cursor.offset + 4, sig := m, vendor := v } := by
        unfold elementSpan
        simp only
        rw [sig, vendor]
        rfl
      have spanBytes : (elementSpan counted data cursor).bytes = 2 * m + 4 * v := by
        rw [span]
        rfl
      have next : (nextElement counted data cursor).len.toNat =
          cursor.len.toNat - counted - (2 * m + 4 * v) := by
        rw [nextElement, spanBytes, Cursor.len_skip (by omega), models]
      have offset : (nextElement counted data cursor).offset =
          cursor.offset + 4 + (2 * m + 4 * v) := by
        rw [nextElement, spanBytes]
        rfl
      have behind : cursor.offset + (4 + 2 * m + 4 * v) =
          cursor.offset + 4 + (2 * m + 4 * v) := by omega
      rw [behind] at bytes
      rw [elementSpans, span, induction (by rw [next, offset]; omega), offset]
      rfl

/-- A payload that is not cut off has the same models for both. -/
theorem sameModels_of_complete {data : Nat → Byte} {len : U16} {numEle : Byte}
    (complete : 11 + elementBytes data numEle.toNat 11 ≤ len.toNat) :
    SameModels data len numEle := by
  have left : elementBytes data numEle.toNat (elementsStart len).offset ≤
      (elementsStart len).len.toNat := by
    have bound := len.isLt
    have start : (elementsStart len).len.toNat = len.toNat - 11 := by
      rw [elementsStart, BitVec.toNat_sub]
      change (2 ^ 16 - 11 + len.toNat) % 2 ^ 16 = len.toNat - 11
      omega
    rw [start]
    change elementBytes data numEle.toNat 11 ≤ len.toNat - 11
    omega
  rw [SameModels, elementSpans_of_complete (by decide) data _ left,
    elementSpans_of_complete (by decide) data _ left]

/-! ## Composition data over a restart -/

/-- What is put into a record is what is read back. -/
theorem reloadsComposition_iff (start : MeshNode) {file : Json} {node : MeshNode}
    {index : Nat} (found : findNodeByPrimary file node.primary = some index)
    (comp : Json) (isValue : comp.IsValue) :
    ReloadsComposition start
        (changeRecord file index fun record => record.add "composition" comp) node ↔
      ∃ reloaded, parseNodeComposition start comp = some reloaded ∧
        SameComposition node reloaded := by
  let change : Json → Json := fun record => record.add "composition" comp
  have changed := recordChanged_changeRecord file index change
  rcases findNodeByPrimary_spec found with
    ⟨records, record, areRecords, _, atIndex, isPrimary⟩
  rcases configuration_of_recordPrimary isPrimary with ⟨config, isConfig, _⟩
  have samePrimary : ∀ record, recordPrimary (change record) =
      recordPrimary record := by
    intro record
    unfold recordPrimary
    rw [Json.get_add_ne record comp (by decide : "configuration" ≠ "composition")]
  have foundAgain : findNodeByPrimary (changeRecord file index change)
      node.primary = some index :=
    (changed.findNodeByPrimary samePrimary node.primary).trans found
  have recordsAgain : nodeRecords (changeRecord file index change) =
      some (records.modify index change) :=
    changed.records.trans (congrArg _ areRecords)
  have recordAgain : (records.modify index change)[index]? =
      some (change record) := by
    rw [List.getElem?_modify_eq, atIndex]
    rfl
  have compAgain : (change record).get "composition" = some comp :=
    Json.get_add_self (Json.isObject_of_get isConfig) isValue "composition"
  constructor
  · rintro ⟨_, _, _, _, reloaded, isIndex, areRecords, isRecord, isComp, parsed, same⟩
    cases foundAgain.symm.trans isIndex
    cases recordsAgain.symm.trans areRecords
    cases recordAgain.symm.trans isRecord
    cases compAgain.symm.trans isComp
    exact ⟨reloaded, parsed, same⟩
  · rintro ⟨reloaded, parsed, same⟩
    exact ⟨index, _, _, comp, reloaded, foundAgain, recordsAgain, recordAgain,
      compAgain, parsed, same⟩

/-- The composition of a node is read back the same exactly when the node is no
low power node and the payload makes room for the same models in the node and in
the database. -/
theorem composition_survives_iff {node parsed : MeshNode} {data : Nat → Byte}
    {len : U16} {file after : Json} {start : MeshNode}
    (noElements : node.elements = [])
    (parses : nodeParseComposition node data len = some parsed)
    (stores : provDbAddNodeComposition file parsed data len = some after)
    (fresh : start.comp = none) (freshElements : start.elements = []) :
    ReloadsComposition start after parsed ↔
      getLe16 data 9 &&& featureLpn = 0 ∧ SameModels data len node.numEle := by
  rw [nodeParseComposition_eq noElements] at parses
  cases parses
  rcases provDbAddNodeComposition_eq_some_iff.mp stores with
    ⟨comp, index, isComp, found, rfl⟩
  cases isComp
  have readBack := reloadsComposition_iff start found (compositionRecord
    (parseCompositionHeader data) (spanRecords data
      (elementSpans 4 data node.numEle.toNat (elementsStart len)) 0))
  have small : node.numEle.toNat ≤ 256 := node.numEle.isLt.le
  have parsed := parseNodeComposition_compositionRecord data fresh freshElements
    (parseCompositionHeader data)
    ((length_elementSpans 4 data node.numEle.toNat (elementsStart len)).trans_le small)
  have elements := sameElements_iff data
    (fun span => getLe16 data (span.start - 4)) (fun _ => 0)
    ((length_elementSpans 2 data node.numEle.toNat (elementsStart len)).trans_le small)
    ((length_elementSpans 4 data node.numEle.toNat (elementsStart len)).trans_le small)
  have header : parseCompositionHeader data =
      { parseCompositionHeader data with lpn := false } ↔
      getLe16 data 9 &&& featureLpn = 0 := by
    simp [parseCompositionHeader]
  rw [readBack rfl, parsed]
  simp only [Option.some.injEq, exists_eq_left', SameComposition]
  exact and_congr header elements

/-- One element with a model of the Bluetooth SIG and one of a vendor. -/
def smallPayload (features : Byte) (offset : Nat) : Byte :=
  [0, 0x01, 0, 0x02, 0, 0x03, 0, 0x08, 0, features, 0,
    0, 0, 1, 1, 0x00, 0x10, 0x05, 0, 0x34, 0x12].getD offset 0

def provisionedNode : MeshNode :=
  { MeshNode.new with netKeys := [0], primary := 2, numEle := 1 }

def composedNode (comp : MeshNodeComposition) : MeshNode :=
  { provisionedNode with
    elements := [{ index := 0, loc := 0,
                   models := [MeshModel.new 0xffff1000, MeshModel.new 0x00051234] }]
    comp := some comp }

def relayComposition : MeshNodeComposition :=
  { relay := true, proxy := false, lpn := false, friend := false
    cid := 1, pid := 2, vid := 3, crpl := 8 }

def lowPowerComposition : MeshNodeComposition :=
  { relayComposition with relay := false, lpn := true }

/-- The composition of a relay is read back. -/
theorem composition_survives_relay :
    ∃ after, ReloadsComposition MeshNode.new after (composedNode relayComposition) := by
  have parses : nodeParseComposition provisionedNode (smallPayload 1) 21 =
      some (composedNode relayComposition) := by decide +kernel
  have found : findNodeByPrimary smallFile 2 = some 0 := by decide +kernel
  have stores := (@provDbAddNodeComposition_eq_some_iff smallFile _
    (composedNode relayComposition) (smallPayload 1) 21).mpr
      ⟨relayComposition, 0, rfl, found, rfl⟩
  exact ⟨_, (composition_survives_iff rfl parses stores rfl rfl).mpr
    ⟨by decide, by decide +kernel⟩⟩

/-- Whether a node is a low power node is stored under another key than it is
read from. -/
theorem composition_not_always_survives :
    ¬∀ (node parsed : MeshNode) (data : Nat → Byte) (len : U16) (file after : Json)
        (start : MeshNode), 16 ≤ len.toNat → node.comp = none → node.elements = [] →
      nodeParseComposition node data len = some parsed →
      provDbAddNodeComposition file parsed data len = some after →
      start.comp = none → start.elements = [] →
      ReloadsComposition start after parsed := by
  intro survives
  have parses : nodeParseComposition provisionedNode (smallPayload 8) 21 =
      some (composedNode lowPowerComposition) := by decide +kernel
  have found : findNodeByPrimary smallFile 2 = some 0 := by decide +kernel
  have stores := (@provDbAddNodeComposition_eq_some_iff smallFile _
    (composedNode lowPowerComposition) (smallPayload 8) 21).mpr
      ⟨lowPowerComposition, 0, rfl, found, rfl⟩
  have isBack := survives provisionedNode _ (smallPayload 8) 21 smallFile _
    MeshNode.new (by decide) rfl rfl parses stores rfl rfl
  rcases (reloadsComposition_iff MeshNode.new found
    (compositionRecord lowPowerComposition _) rfl).mp isBack with
    ⟨reloaded, read, same, _⟩
  rw [parseNodeComposition_compositionRecord _ rfl rfl _ (by simp; decide)] at read
  rw [← Option.some.inj read] at same
  exact absurd same (by decide)

end Meshctl.Db
