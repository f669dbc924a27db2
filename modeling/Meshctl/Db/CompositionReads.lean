import Meshctl.Db.RepeatedComposition

/-! # What is read of composition data

The two functions that go through a payload, with every byte noted that they read,
and when all of these are in the message.
-/

namespace Meshctl.Db

open Net

/-! ## Reads are noted -/

/-- What is done with a model, with the bytes that are read of it. -/
def noting {State : Type} (size : Nat) (take : State → Nat → Option State)
    (noted : State × List Nat) (offset : Nat) : Option (State × List Nat) :=
  (take noted.1 offset).map fun next => (next, noted.2 ++ List.range' offset size)

def parseElementNoting (data : Nat → Byte) (state : (MeshNode × List Nat) × Cursor)
    (index : Nat) : Option ((MeshNode × List Nat) × Cursor) :=
  let ((node, reads), cursor) := state
  let element :=
    { index := BitVec.ofNat 8 index
      loc := getLe16 data cursor.offset
      models := [] }
  walkElement 2 data
    (noting 2 fun node offset => node.setModel element.index (sigModelId data offset))
    (noting 4 fun node offset =>
      node.setModel element.index (vendorModelId data offset))
    ({ node with elements := node.elements ++ [element] },
      reads ++ List.range' cursor.offset 4) cursor

/-- The page in front of the header is not looked at. -/
def nodeParseCompositionNoting (node : MeshNode) (data : Nat → Byte) (len : U16) :
    Option (MeshNode × List Nat) := do
  let ((node, reads), _) ← (List.range node.numEle.toNat).foldlM
    (parseElementNoting data) ((node, List.range' 1 10), elementsStart len)
  some ({ node with comp := some (parseCompositionHeader data) }, reads)

def addElementRecordNoting (data : Nat → Byte)
    (state : (List Json × List Nat) × Cursor) (index : Nat) :
    Option ((List Json × List Nat) × Cursor) := do
  let ((elements, reads), cursor) := state
  let ((models, reads), next) ← walkElement 4 data
    (noting 2 fun models offset => some (models ++ [sigModelEntry data offset]))
    (noting 4 fun models offset => some (models ++ [vendorModelEntry data offset]))
    ([], reads ++ List.range' cursor.offset 4) cursor
  let element := elementRecord index (getLe16 data cursor.offset) models
  some ((elements ++ [element], reads), next)

/-- The header is taken from the composition that the node has by now. -/
def provDbAddNodeCompositionNoting (file : Json) (node : MeshNode)
    (data : Nat → Byte) (len : U16) : Option (Json × List Nat) := do
  let comp ← node.comp
  let index ← findNodeByPrimary file node.primary
  let ((elements, reads), _) ← (List.range node.numEle.toNat).foldlM
    (addElementRecordNoting data) (([], []), elementsStart len)
  some (changeRecord file index fun record =>
    record.add "composition" (compositionRecord comp elements), reads)

/-! ## The reads are one block -/

/-- Blocks of one size that follow each other. -/
theorem flatMap_range'_blocks (start size count : Nat) :
    (List.range count).flatMap (fun index => List.range' (start + size * index) size) =
      List.range' start (size * count) := by
  induction count with
  | zero => rfl
  | succ count induction =>
      rw [List.range_succ, List.flatMap_append, induction, List.flatMap_singleton,
        List.range'_append_1, Nat.mul_succ]

theorem foldlM_noting {State : Type} (size : Nat) (take : State → Nat → Option State)
    (offsets : List Nat) (state : State) (reads : List Nat) :
    offsets.foldlM (noting size take) (state, reads) =
      (offsets.foldlM take state).map fun next =>
        (next, reads ++ offsets.flatMap fun offset => List.range' offset size) := by
  induction offsets generalizing state reads with
  | nil => simp
  | cons offset offsets induction =>
      rw [List.foldlM_cons, List.foldlM_cons, noting]
      cases take state offset with
      | none => rfl
      | some next =>
          simp only [Option.map_some, Option.bind_eq_bind, Option.bind_some]
          rw [induction, List.flatMap_cons, List.append_assoc]

/-- Behind the numbers of an element its models are read, and nothing else. -/
theorem walkElement_noting {State : Type} (counted : Nat) (data : Nat → Byte)
    (takeSig takeVendor : State → Nat → Option State) (state : State)
    (reads : List Nat) (cursor : Cursor) :
    walkElement counted data (noting 2 takeSig) (noting 4 takeVendor)
        (state, reads ++ List.range' cursor.offset 4) cursor =
      (walkElement counted data takeSig takeVendor state cursor).map fun next =>
        ((next.1, reads ++
          List.range' cursor.offset (4 + (elementSpan counted data cursor).bytes)),
          next.2) := by
  let span := elementSpan counted data cursor
  have sigReads : span.sigOffsets.flatMap (fun offset => List.range' offset 2) =
      List.range' (cursor.offset + 4) (2 * span.sig) := by
    rw [ElementSpan.sigOffsets, List.flatMap_map]
    exact flatMap_range'_blocks _ _ _
  have vendorReads : span.vendorOffsets.flatMap (fun offset => List.range' offset 4) =
      List.range' (cursor.offset + 4 + 2 * span.sig) (4 * span.vendor) := by
    rw [ElementSpan.vendorOffsets, List.flatMap_map]
    exact flatMap_range'_blocks _ _ _
  have block : reads ++ List.range' cursor.offset 4 ++
      List.range' (cursor.offset + 4) (2 * span.sig) ++
      List.range' (cursor.offset + 4 + 2 * span.sig) (4 * span.vendor) =
        reads ++ List.range' cursor.offset (4 + span.bytes) := by
    rw [List.append_assoc, List.append_assoc, List.range'_append_1,
      List.range'_append_1]
    rfl
  rw [walkElement_eq, walkElement_eq]
  change Option.map _ (Option.bind (span.sigOffsets.foldlM _ _) _) =
    Option.map _ (Option.map _ (Option.bind (span.sigOffsets.foldlM takeSig state) _))
  rw [foldlM_noting, sigReads]
  cases span.sigOffsets.foldlM takeSig state with
  | none => rfl
  | some between =>
      change Option.map _ (span.vendorOffsets.foldlM _ _) =
        Option.map _ (Option.map _ (span.vendorOffsets.foldlM takeVendor between))
      rw [foldlM_noting, vendorReads, block]
      cases span.vendorOffsets.foldlM takeVendor between with
      | none => rfl
      | some next => rfl

/-- How many bytes are read of the elements that the spans are in. -/
def spannedBytes (spans : List ElementSpan) : Nat :=
  (spans.map fun span => 4 + span.bytes).sum

theorem spannedBytes_cons (span : ElementSpan) (spans : List ElementSpan) :
    spannedBytes (span :: spans) = 4 + span.bytes + spannedBytes spans := by
  rw [spannedBytes, List.map_cons, List.sum_cons, spannedBytes]

/-- A loop over the elements whose body notes the bytes of an element. -/
theorem foldlM_elements_noting {State : Type} (counted : Nat) (data : Nat → Byte)
    {step : State × Cursor → Nat → Option (State × Cursor)}
    {noted : (State × List Nat) × Cursor → Nat →
      Option ((State × List Nat) × Cursor)}
    (goesOn : ∀ state cursor index next, step (state, cursor) index = some next →
      next.2 = nextElement counted data cursor)
    (notes : ∀ state reads cursor index, noted ((state, reads), cursor) index =
      (step (state, cursor) index).map fun next =>
        ((next.1, reads ++
          List.range' cursor.offset (4 + (elementSpan counted data cursor).bytes)),
          next.2))
    (indices : List Nat) (state : State) (reads : List Nat) (cursor : Cursor) :
    indices.foldlM noted ((state, reads), cursor) =
      (indices.foldlM step (state, cursor)).map fun last =>
        ((last.1, reads ++ List.range' cursor.offset
          (spannedBytes (elementSpans counted data indices.length cursor))),
          last.2) := by
  induction indices generalizing state reads cursor with
  | nil => simp [spannedBytes, elementSpans]
  | cons index indices induction =>
      rw [List.foldlM_cons, List.foldlM_cons, notes]
      cases stepped : step (state, cursor) index with
      | none => rfl
      | some next =>
          rcases next with ⟨state, behind⟩
          have isNext := goesOn _ cursor index _ stepped
          change behind = nextElement counted data cursor at isNext
          subst isNext
          have offset : (nextElement counted data cursor).offset =
              cursor.offset + (4 + (elementSpan counted data cursor).bytes) :=
            Nat.add_assoc _ _ _
          simp only [Option.map_some, Option.bind_eq_bind, Option.bind_some]
          rw [induction, offset, List.append_assoc, List.range'_append_1,
            List.length_cons, elementSpans, spannedBytes_cons]

theorem nodeParseCompositionNoting_eq (node : MeshNode) (data : Nat → Byte)
    (len : U16) :
    nodeParseCompositionNoting node data len =
      (nodeParseComposition node data len).map fun next =>
        (next, List.range' 1 (10 + spannedBytes
          (elementSpans 2 data node.numEle.toNat (elementsStart len)))) := by
  have looped := @foldlM_elements_noting MeshNode 2 data (parseElement data)
    (parseElementNoting data) ?_ ?_ (List.range node.numEle.toNat) node
    (List.range' 1 10) (elementsStart len)
  · unfold nodeParseCompositionNoting nodeParseComposition
    rw [looped, List.length_range]
    change Option.bind (Option.map _ _) _ = Option.map _ (Option.bind _ _)
    cases (List.range node.numEle.toNat).foldlM (parseElement data)
        (node, elementsStart len) with
    | none => rfl
    | some last =>
        simp only [Option.map_some, Option.bind_some]
        rw [← List.range'_append_1]
        rfl
  · intro node cursor index next parsed
    rcases parseElement_appends data node cursor index with ⟨next', parsed', _⟩
    rw [parsed'] at parsed
    cases parsed
    rfl
  · intro node reads cursor index
    exact walkElement_noting 2 data _ _ _ reads cursor

theorem provDbAddNodeCompositionNoting_eq (file : Json) (node : MeshNode)
    (data : Nat → Byte) (len : U16) :
    provDbAddNodeCompositionNoting file node data len =
      (provDbAddNodeComposition file node data len).map fun stored =>
        (stored, List.range' 11 (spannedBytes
          (elementSpans 4 data node.numEle.toNat (elementsStart len)))) := by
  have looped := @foldlM_elements_noting (List Json) 4 data (addElementRecord data)
    (addElementRecordNoting data) ?_ ?_ (List.range node.numEle.toNat) []
    [] (elementsStart len)
  · unfold provDbAddNodeCompositionNoting provDbAddNodeComposition
    cases node.comp with
    | none => rfl
    | some comp =>
        simp only [Option.bind_eq_bind, Option.bind_some]
        cases findNodeByPrimary file node.primary with
        | none => rfl
        | some index =>
            simp only [Option.bind_some]
            rw [looped, List.length_range]
            cases (List.range node.numEle.toNat).foldlM (addElementRecord data)
                ([], elementsStart len) with
            | none => rfl
            | some last => rfl
  · intro elements cursor index next added
    rw [addElementRecord_eq] at added
    cases added
    rfl
  · intro elements reads cursor index
    unfold addElementRecordNoting addElementRecord
    simp only [walkElement_noting]
    cases walkElement 4 data _ _ [] cursor with
    | none => rfl
    | some next => rfl

/-! ## Elements inside the message -/

theorem spannedBytes_wholeSpans (data : Nat → Byte) (count offset : Nat) :
    spannedBytes (wholeSpans data count offset) = elementBytes data count offset := by
  induction count generalizing offset with
  | zero => rfl
  | succ count induction =>
      rw [wholeSpans, spannedBytes_cons, elementBytes]
      simp only [ElementSpan.bytes]
      rw [Nat.add_assoc offset, ← Nat.add_assoc 4, induction]

theorem spannedBytes_of_complete {counted : Nat} (atMost : counted ≤ 4)
    (data : Nat → Byte) (count : Nat) {cursor : Cursor}
    (complete : elementBytes data count cursor.offset ≤ cursor.len.toNat) :
    spannedBytes (elementSpans counted data count cursor) =
      elementBytes data count cursor.offset := by
  rw [elementSpans_of_complete atMost data count complete, spannedBytes_wholeSpans]

theorem elementSpan_sig {counted : Nat} (data : Nat → Byte) {cursor : Cursor}
    (left : counted ≤ cursor.len.toNat) :
    (elementSpan counted data cursor).sig =
      min (data (cursor.offset + 2)).toNat ((cursor.len.toNat - counted) / 2) := by
  have models : (modelsStart counted cursor).len.toNat = cursor.len.toNat - counted :=
    Cursor.len_skip left
  rw [elementSpan, Cursor.taken, models]

theorem elementSpan_vendor {counted : Nat} (data : Nat → Byte) {cursor : Cursor}
    (left : counted ≤ cursor.len.toNat) :
    (elementSpan counted data cursor).vendor =
      min (data (cursor.offset + 3)).toNat
        ((cursor.len.toNat - counted - 2 * (elementSpan counted data cursor).sig) /
          4) := by
  have models : (modelsStart counted cursor).len.toNat = cursor.len.toNat - counted :=
    Cursor.len_skip left
  have sig := elementSpan_sig data left
  have behindSig : ((modelsStart counted cursor).skip
      (2 * (elementSpan counted data cursor).sig)).len.toNat =
        cursor.len.toNat - counted - 2 * (elementSpan counted data cursor).sig := by
    rw [Cursor.len_skip (by rw [models, sig]; omega), models]
  rw [← behindSig]
  rfl

theorem nextElement_len {counted : Nat} (data : Nat → Byte) {cursor : Cursor}
    (left : counted ≤ cursor.len.toNat) :
    (nextElement counted data cursor).len.toNat =
      cursor.len.toNat - counted - (elementSpan counted data cursor).bytes := by
  have models : (modelsStart counted cursor).len.toNat = cursor.len.toNat - counted :=
    Cursor.len_skip left
  have sig := elementSpan_sig data left
  have vendor := elementSpan_vendor data left
  rw [nextElement, Cursor.len_skip, models]
  rw [models, ElementSpan.bytes]
  omega

/-- Once more than two bytes too many are thought to be left behind the numbers of an
element, its models can only be inside the message if none of them is cut off. -/
theorem complete_of_spannedBytes (data : Nat → Byte) (count : Nat) {cursor : Cursor}
    {len ahead : Nat} (isAhead : cursor.offset + cursor.len.toNat = len + ahead)
    (tooMany : 2 ≤ ahead)
    (inside : cursor.offset + spannedBytes (elementSpans 2 data count cursor) ≤ len) :
    cursor.offset + elementBytes data count cursor.offset ≤ len := by
  induction count generalizing cursor ahead with
  | zero => exact inside
  | succ count induction =>
      rw [elementSpans, spannedBytes_cons] at inside
      have left : 2 ≤ cursor.len.toNat := by omega
      have sig := elementSpan_sig data left
      have vendor := elementSpan_vendor data left
      have behind := nextElement_len data left
      rw [ElementSpan.bytes] at inside behind
      have allSig : (elementSpan 2 data cursor).sig = (data (cursor.offset + 2)).toNat := by
        omega
      have allVendor : (elementSpan 2 data cursor).vendor =
          (data (cursor.offset + 3)).toNat := by
        omega
      have offset : (nextElement 2 data cursor).offset = cursor.offset +
          (4 + 2 * (data (cursor.offset + 2)).toNat +
            4 * (data (cursor.offset + 3)).toNat) := by
        rw [← allSig, ← allVendor, Nat.add_assoc 4, ← Nat.add_assoc]
        rfl
      have rest := @induction (nextElement 2 data cursor) (ahead + 2) (by omega)
        (by omega) (by omega)
      rw [elementBytes, ← offset]
      omega

/-! ## The whole payload -/

theorem elementsStart_len {len : U16} (header : 11 ≤ len.toNat) :
    (elementsStart len).len.toNat = len.toNat - 11 :=
  @Cursor.len_skip { offset := 0, len } 11 header

/-- The elements of a node are in the payload as a whole; or there is one of them, whose
last model is cut off so that at most one byte of it is in the payload. -/
def ElementsInside (data : Nat → Byte) (numEle : Byte) (len : U16) : Prop :=
  11 + elementBytes data numEle.toNat 11 ≤ len.toNat ∨
    numEle = 1 ∧ 15 + 2 * (data 13).toNat ≤ len.toNat ∧
      (len.toNat - 15 - 2 * (data 13).toNat) % 4 < 2

instance (data : Nat → Byte) (numEle : Byte) (len : U16) :
    Decidable (ElementsInside data numEle len) :=
  inferInstanceAs (Decidable (_ ∨ _))

theorem elements_inside_iff {data : Nat → Byte} {numEle : Byte} {len : U16}
    (long : 16 ≤ len.toNat) :
    11 + spannedBytes (elementSpans 2 data numEle.toNat (elementsStart len)) ≤
        len.toNat ↔
      ElementsInside data numEle len := by
  have start := elementsStart_len (by omega : 11 ≤ len.toNat)
  have left : 2 ≤ (elementsStart len).len.toNat := by omega
  have sig := elementSpan_sig data left
  have vendor := elementSpan_vendor data left
  have behind := nextElement_len data left
  rw [ElementSpan.bytes] at behind
  have offset : (nextElement 2 data (elementsStart len)).offset = 15 +
      (2 * (elementSpan 2 data (elementsStart len)).sig +
        4 * (elementSpan 2 data (elementsStart len)).vendor) := rfl
  change _ = min (data 13).toNat _ at sig
  change _ = min (data 14).toNat _ at vendor
  rw [start] at sig vendor behind
  rw [ElementsInside]
  constructor
  · intro inside
    cases count : numEle.toNat with
    | zero => exact .inl (by rw [elementBytes]; omega)
    | succ more =>
        rw [count, elementSpans, spannedBytes_cons, ElementSpan.bytes] at inside
        cases more with
        | zero =>
            have single : numEle = 1 := BitVec.eq_of_toNat_eq count
            have bytes : elementBytes data 1 11 =
                4 + 2 * (data 13).toNat + 4 * (data 14).toNat := rfl
            rw [bytes]
            refine or_iff_not_imp_left.mpr fun cutOff => ?_
            exact ⟨single, by omega, by omega⟩
        | succ rest =>
            -- The numbers of the next element are read as well.
            have further := spannedBytes_cons
              (elementSpan 2 data (nextElement 2 data (elementsStart len)))
              (elementSpans 2 data rest
                (nextElement 2 data (nextElement 2 data (elementsStart len))))
            rw [elementSpans, further] at inside
            have allSig : (elementSpan 2 data (elementsStart len)).sig =
                (data 13).toNat := by
              omega
            have allVendor : (elementSpan 2 data (elementsStart len)).vendor =
                (data 14).toNat := by
              omega
            have complete := @complete_of_spannedBytes data (rest + 1)
              (nextElement 2 data (elementsStart len)) len.toNat 2 (by omega)
              (by decide) (by rw [elementSpans, further]; omega)
            have bytes : elementBytes data (rest + 1 + 1) 11 =
                4 + 2 * (data 13).toNat + 4 * (data 14).toNat +
                  elementBytes data (rest + 1)
                    (11 + (4 + 2 * (data 13).toNat + 4 * (data 14).toNat)) := rfl
            have next : (nextElement 2 data (elementsStart len)).offset =
                11 + (4 + 2 * (data 13).toNat + 4 * (data 14).toNat) := by
              omega
            rw [next] at complete
            rw [bytes]
            omega
  · rintro (complete | ⟨single, sigInside, cutOff⟩)
    · have inside : elementBytes data numEle.toNat (elementsStart len).offset ≤
          (elementsStart len).len.toNat := by
        rw [start]
        exact Nat.le_sub_of_add_le' complete
      rw [spannedBytes_of_complete (by decide) data _ inside]
      exact complete
    · rw [single]
      change 11 + spannedBytes [_] ≤ _
      rw [spannedBytes_cons, ElementSpan.bytes]
      change 11 + (_ + 0) ≤ _
      omega

/-- The database takes no more models than are left. -/
theorem stored_inside_of_elements_inside {data : Nat → Byte} {numEle : Byte} {len : U16}
    (long : 16 ≤ len.toNat) (inside : ElementsInside data numEle len) :
    11 + spannedBytes (elementSpans 4 data numEle.toNat (elementsStart len)) ≤
      len.toNat := by
  have start := elementsStart_len (by omega : 11 ≤ len.toNat)
  rcases inside with complete | ⟨single, _⟩
  · have inside : elementBytes data numEle.toNat (elementsStart len).offset ≤
        (elementsStart len).len.toNat := by
      rw [start]
      exact Nat.le_sub_of_add_le' complete
    rw [spannedBytes_of_complete (by decide) data _ inside]
    exact complete
  · have left : 4 ≤ (elementsStart len).len.toNat := by omega
    have sig := elementSpan_sig data left
    have vendor := elementSpan_vendor data left
    rw [single]
    change 11 + spannedBytes [_] ≤ _
    rw [spannedBytes_cons, ElementSpan.bytes]
    change 11 + (_ + 0) ≤ _
    omega

/-- Every byte that the node and the database read of a payload is in it. -/
def ReadsInside (node : MeshNode) (data : Nat → Byte) (len : U16) : Prop :=
  (∃ next reads, nodeParseCompositionNoting node data len = some (next, reads) ∧
    ∀ offset ∈ reads, offset < len.toNat) ∧
  ∀ file stored reads,
    provDbAddNodeCompositionNoting file node data len = some (stored, reads) →
      ∀ offset ∈ reads, offset < len.toNat

theorem range'_inside_iff {start count len : Nat} (short : start ≤ len) :
    (∀ offset ∈ List.range' start count, offset < len) ↔ start + count ≤ len := by
  simp only [List.mem_range'_1]
  constructor
  · intro inside
    by_contra outside
    have last := inside (start + count - 1) (by omega)
    omega
  · intro inside offset member
    omega

theorem node_reads_inside_iff {node : MeshNode} {data : Nat → Byte} {len : U16}
    (long : 16 ≤ len.toNat) :
    (∃ next reads, nodeParseCompositionNoting node data len = some (next, reads) ∧
      ∀ offset ∈ reads, offset < len.toNat) ↔ ElementsInside data node.numEle len := by
  rcases nodeParseComposition_appends node data len with ⟨next, parsed, _⟩
  rw [nodeParseCompositionNoting_eq, parsed, ← elements_inside_iff long]
  simp only [Option.map_some, Option.some_inj, Prod.mk.injEq, and_assoc,
    exists_and_left, exists_eq_left']
  rw [range'_inside_iff (by omega), ← Nat.add_assoc]

theorem stored_reads_inside {file stored : Json} {node : MeshNode} {data : Nat → Byte}
    {len : U16} {reads : List Nat} (long : 16 ≤ len.toNat)
    (inside : ElementsInside data node.numEle len)
    (added : provDbAddNodeCompositionNoting file node data len = some (stored, reads)) :
    ∀ offset ∈ reads, offset < len.toNat := by
  rw [provDbAddNodeCompositionNoting_eq, Option.map_eq_some_iff] at added
  rcases added with ⟨_, _, same⟩
  cases same
  exact (range'_inside_iff (by omega)).mpr (stored_inside_of_elements_inside long inside)

/-- A composition is parsed inside the message exactly when its elements are. -/
theorem composition_reads_inside_iff (node : MeshNode) (data : Nat → Byte) (len : U16)
    (long : 16 ≤ len.toNat) :
    ReadsInside node data len ↔ ElementsInside data node.numEle len := by
  rw [ReadsInside, node_reads_inside_iff long, and_iff_left_of_imp]
  exact fun inside file stored reads added => stored_reads_inside long inside added

theorem composition_reads_inside_single :
    ReadsInside { MeshNode.new with numEle := 1 } singleModelPayload 17 :=
  (composition_reads_inside_iff _ singleModelPayload 17 (by decide)).mpr (by decide)

/-- Two of the 255 models are in front of the end for the node, and one of them is not. -/
def cutOffPayload (offset : Nat) : Byte := if offset = 13 then 255 else 0

theorem reads_not_always_inside :
    ¬∀ (node : MeshNode) (data : Nat → Byte) (len : U16), 16 ≤ len.toNat →
      ReadsInside node data len := by
  intro inside
  have reads := inside { MeshNode.new with numEle := 1 } cutOffPayload 17 (by decide)
  exact absurd ((node_reads_inside_iff (by decide)).mp reads.1) (by decide)

end Meshctl.Db
