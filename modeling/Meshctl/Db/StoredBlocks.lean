import Meshctl.Db.NewNode
import Meshctl.Net.PoolRanges

/-! # The addresses of stored nodes

Reading the database takes the addresses of one record after another out of the
provisioner's ranges. A block that is apart from all of them can still be taken.
-/

namespace Meshctl.Db

open Net

/-! ## Room in a pool -/

structure StoredBlock where
  addr : U16
  count : Byte
deriving DecidableEq

/-- One of the blocks ends before the other one starts. -/
def StoredBlock.Apart (first second : StoredBlock) : Prop :=
  first.addr.toNat + first.count.toNat ≤ second.addr.toNat ∨
    second.addr.toNat + second.count.toNat ≤ first.addr.toNat

instance (first second : StoredBlock) : Decidable (first.Apart second) :=
  inferInstanceAs (Decidable (_ ∨ _))

theorem StoredBlock.Apart.symm {first second : StoredBlock}
    (apart : first.Apart second) : second.Apart first :=
  Or.symm apart

/-- A range of the pool holds the block. -/
def HasRoom (pool : List U32) (block : StoredBlock) : Prop :=
  ∃ range ∈ pool, rangeHolds block.addr block.count range

theorem HasRoom.mono {pool larger : List U32} {block : StoredBlock}
    (room : HasRoom pool block) (inside : pool ⊆ larger) : HasRoom larger block := by
  rcases room with ⟨range, member, holds⟩
  exact ⟨range, inside member, holds⟩

/-- A reservation keeps the other ranges and what is left on both sides of the
block. -/
theorem netReserveAddressRange_cut {pool : List U32} {base : U16}
    {numElements : Byte} {range : U32}
    (found : pool.find? (rangeHolds base numElements) = some range) :
    (netReserveAddressRange pool base numElements).1 = true ∧
      pool.eraseP (rangeHolds base numElements) ⊆
        (netReserveAddressRange pool base numElements).2 ∧
      (rangeMin range < base → packRange (rangeMin range) (base - 1) ∈
        (netReserveAddressRange pool base numElements).2) ∧
      (base.toNat + numElements.toNat ≤ (rangeMax range).toNat →
        packRange (base + numElements.setWidth 16) (rangeMax range) ∈
          (netReserveAddressRange pool base numElements).2) := by
  by_cases outermost : TakesOutermost range base numElements
  · rcases netReserveAddressRange_outermost found outermost with ⟨succeeds, left⟩
    rcases outermost with ⟨low, whole, _⟩
    refine ⟨succeeds, fun other member =>
      left.mem_iff.mpr (List.mem_cons_of_mem _ member), fun below => ?_, fun above => ?_⟩
    · rw [low] at below
      exact absurd below (BitVec.lt_irrefl _)
    · omega
  · rcases netReserveAddressRange_beside found outermost with ⟨succeeds, left⟩
    refine ⟨succeeds, fun other member =>
      left.mem_iff.mpr (List.mem_append_right _ member), fun below => ?_, fun above => ?_⟩
    · rw [left.mem_iff, rangesBeside, if_pos below]
      simp
    · rw [left.mem_iff, rangesBeside, if_pos above]
      simp

/-- A block that is apart from the one that is reserved keeps its room. -/
theorem HasRoom.reserve {pool : List U32} {block other : StoredBlock}
    (room : HasRoom pool block) (positive : 0 < block.count.toNat)
    (apart : block.Apart other) :
    HasRoom (netReserveAddressRange pool other.addr other.count).2 block := by
  cases found : pool.find? (rangeHolds other.addr other.count) with
  | none =>
      rw [netReserveAddressRange, found]
      exact room
  | some range =>
      rcases netReserveAddressRange_cut found with ⟨_, others, below, above⟩
      rcases room with ⟨held, member, holds⟩
      rcases List.mem_cons.mp ((perm_cons_eraseP_of_find found).mem_iff.mp member)
        with isRange | isOther
      swap
      · exact ⟨held, others isOther, holds⟩
      subst isRange
      have cut := List.find?_some found
      have maxBound := (rangeMax held).isLt
      simp only [rangeHolds, decide_eq_true_eq, BitVec.le_def] at holds cut
      rcases apart with before | behind
      · refine ⟨_, below (by rw [BitVec.lt_def]; omega), ?_⟩
        have last : (other.addr - 1).toNat = other.addr.toNat - 1 := by
          simp only [BitVec.toNat_sub, BitVec.ofNat_eq_ofNat, BitVec.toNat_ofNat]
          omega
        simp only [rangeHolds, rangeMin_packRange, rangeMax_packRange,
          decide_eq_true_eq, BitVec.le_def, last]
        omega
      · refine ⟨_, above (by omega), ?_⟩
        have first : (other.addr + other.count.setWidth 16).toNat =
            other.addr.toNat + other.count.toNat := by
          have countBound := other.count.isLt
          simp only [BitVec.toNat_add, BitVec.toNat_setWidth]
          omega
        simp only [rangeHolds, rangeMin_packRange, rangeMax_packRange,
          decide_eq_true_eq, BitVec.le_def, first]
        omega

theorem hasRoom_iff_reserves (pool : List U32) (block : StoredBlock) :
    (netReserveAddressRange pool block.addr block.count).1 = true ↔
      HasRoom pool block := by
  cases found : pool.find? (rangeHolds block.addr block.count) with
  | none =>
      rw [netReserveAddressRange, found]
      rw [List.find?_eq_none] at found
      simp only [Bool.false_eq_true, false_iff]
      rintro ⟨range, member, holds⟩
      exact found range member holds
  | some range =>
      exact ⟨fun _ => ⟨range, List.mem_of_find?_eq_some found, List.find?_some found⟩,
        fun _ => (netReserveAddressRange_cut found).1⟩

/-! ## The blocks of the records -/

/-- The block that an element with index zero stands for. -/
def elementBlock (count : Nat) (element : Json) : Option StoredBlock :=
  if Json.getInt (element.get "elementIndex") = 0 then
    (readHex16 (element.get "unicastAddress")).map fun addr =>
      { addr, count := BitVec.ofNat 8 count }
  else none

def configurationElements (record : Json) : List Json :=
  (((record.get "configuration").bind fun config =>
    config.get "elements").bind Json.items).getD []

def recordBlocks (record : Json) : List StoredBlock :=
  (configurationElements record).filterMap
    (elementBlock (configurationElements record).length)

/-- The blocks of addresses that the nodes of a file claim. -/
def storedBlocks (file : Json) : List StoredBlock :=
  ((nodeRecords file).getD []).flatMap recordBlocks

section

variable {pool next : List U32} {block : StoredBlock}

theorem HasRoom.parseConfigurationElement {count : Nat}
    {state after : MeshNode × List U32} {element : Json}
    (room : HasRoom state.2 block) (positive : 0 < block.count.toNat)
    (apart : ∀ other, elementBlock count element = some other → block.Apart other)
    (parsed : parseConfigurationElement count false state element = some after) :
    HasRoom after.2 block := by
  rcases parseConfigurationElement_eq_some_iff.mp parsed with
    ⟨value, placed, node, isValue, _, isPlaced, _, rfl⟩
  unfold placeNode at isPlaced
  split at isPlaced
  · next first =>
      rcases Option.map_eq_some_iff.mp isPlaced with ⟨⟨addr, pool⟩, primary, rfl⟩
      unfold parsePrimary at primary
      rcases Option.bind_eq_some_iff.mp primary with ⟨addr, isAddr, reserved⟩
      simp only [Bool.false_eq_true, if_false] at reserved
      split at reserved
      · cases reserved
        have other : elementBlock count element =
            some { addr, count := BitVec.ofNat 8 count } := by
          rw [elementBlock, isValue, if_pos first, isAddr, Option.map_some]
        exact room.reserve positive (apart _ other)
      · cases reserved
  · cases isPlaced
    exact room

theorem HasRoom.parseNode {random : Option Key} {appKeys : List MeshAppKey}
    {record : Json} {node : MeshNode} (room : HasRoom pool block)
    (positive : 0 < block.count.toNat)
    (apart : ∀ other ∈ recordBlocks record, block.Apart other)
    (parsed : parseNode random appKeys pool false record = some (node, next)) :
    HasRoom next block := by
  rcases parseNode_eq_some_iff.mp parsed with
    ⟨start, config, elements, items, placed, _, isConfig, isElements, areItems,
      isPlaced, _⟩
  have areElements : configurationElements record = items := by
    simp [configurationElements, isConfig, isElements, areItems]
  refine foldlM_invariant_of_mem (fun state => HasRoom state.2 block) ?_ room isPlaced
  intro state element after member before step
  refine before.parseConfigurationElement positive (fun other isOther => ?_) step
  refine apart other (List.mem_filterMap.mpr ⟨element, ?_, ?_⟩)
  · rw [areElements]
    exact member
  · rw [areElements]
    exact isOther

theorem HasRoom.readNodes {env : LoadEnv} {appKeys : List MeshAppKey}
    {place : Nat} {records : List Json} {nodes : List MeshNode}
    (room : HasRoom pool block) (positive : 0 < block.count.toNat)
    (apart : ∀ record ∈ records, ∀ other ∈ recordBlocks record, block.Apart other)
    (read : readNodes env appKeys place pool records = some (nodes, next)) :
    HasRoom next block := by
  induction records generalizing place pool nodes with
  | nil =>
      cases read
      exact room
  | cons record records induction =>
      rcases readNodes_cons_eq_some_iff.mp read with
        ⟨node, between, rest, parsed, readRest, rfl⟩
      have later := room.parseNode positive (apart record List.mem_cons_self) parsed
      exact induction later
        (fun other member => apart other (List.mem_cons_of_mem _ member)) readRest

end

theorem configurationElements_newNodeRecord (node : MeshNode) :
    configurationElements (newNodeRecord node) =
      (List.range node.numEle.toNat).map (newElementRecord node.primary) := rfl

/-- A new record claims the addresses of its node. -/
theorem recordBlocks_newNodeRecord {node : MeshNode} (positive : node.numEle ≠ 0) :
    recordBlocks (newNodeRecord node) =
      [{ addr := node.primary, count := node.numEle }] := by
  have notZero : node.numEle.toNat ≠ 0 := by
    intro zero
    exact positive (BitVec.eq_of_toNat_eq zero)
  have small : node.numEle.toNat < 65536 := lt_trans node.numEle.isLt (by decide)
  rcases Nat.exists_eq_succ_of_ne_zero notZero with ⟨more, isSucc⟩
  have places : List.range node.numEle.toNat =
      0 :: (List.range more).map Nat.succ := by
    rw [isSucc, List.range_succ_eq_map]
  have block : ∀ index, index < 65536 →
      elementBlock node.numEle.toNat (newElementRecord node.primary index) =
        if index = 0 then some { addr := node.primary, count := node.numEle }
        else none := by
    intro index inside
    have value : (newElementRecord node.primary index).get "elementIndex" =
        some (.int index) := rfl
    have address : (newElementRecord node.primary index).get "unicastAddress" =
        some (Json.hex16 (node.primary + BitVec.ofNat 16 index).toNat) := rfl
    rw [elementBlock, value, Json.getInt_int inside, address, readHex16_hex16]
    by_cases isFirst : index = 0
    · simp [isFirst]
    · rw [if_neg (by omega), if_neg isFirst]
  rw [recordBlocks, configurationElements_newNodeRecord, List.length_map,
    List.length_range, places, List.map_cons, List.filterMap_cons,
    block 0 (by decide)]
  simp only [if_true, List.cons.injEq, true_and]
  rw [List.filterMap_eq_nil_iff]
  intro element member
  simp only [List.map_map, List.mem_map, List.mem_range, Function.comp_apply]
    at member
  rcases member with ⟨index, inside, rfl⟩
  rw [block (index + 1) (by omega), if_neg (by omega)]

end Meshctl.Db
