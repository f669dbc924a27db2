import Meshctl.Net.AddressPool

/-! # Who owns which unicast address

The pool together with the blocks that were handed out of it. A block is handed
back only while it is allocated, as a failed provisioning and a node reset do.
-/

namespace Meshctl.Net

open Coverage Execution

/-- Nobody asks for a block of no elements. -/
abbrev ElementCount := {numElements : Byte // 0 < numElements.toNat}

structure Block where
  addr : U16
  numElements : ElementCount
deriving DecidableEq

def Block.addresses (block : Block) : Finset Nat :=
  Finset.Ico block.addr.toNat (block.addr.toNat + block.numElements.val.toNat)

@[simp] theorem Block.mem_addresses (block : Block) (address : Nat) :
    address ∈ block.addresses ↔ block.addr.toNat ≤ address ∧
      address < block.addr.toNat + block.numElements.val.toNat := by
  simp [Block.addresses]

structure AddressState where
  pool : List U32
  allocated : List Block

inductive AddressInput where
  | obtain (numEles : ElementCount)
  | reserve (base : U16) (numElements : ElementCount)
  | release (block : Block)

/-- The three callers of the pool. The observation is the block that changed
hands. -/
def addressStep (state : AddressState) :
    AddressInput → StepResult AddressState (Option Block)
  | .obtain numEles =>
      let (addr, pool) := netObtainAddress state.pool numEles.val
      if addr = unassignedAddress then
        ⟨{ state with pool }, none⟩
      else
        let block : Block := ⟨addr, numEles⟩
        ⟨{ pool, allocated := block :: state.allocated }, some block⟩
  | .reserve base numElements =>
      match netReserveAddressRange state.pool base numElements.val with
      | (false, pool) => ⟨{ state with pool }, none⟩
      | (true, pool) =>
          let block : Block := ⟨base, numElements⟩
          ⟨{ pool, allocated := block :: state.allocated }, some block⟩
  | .release block =>
      if block ∈ state.allocated then
        let pool :=
          netReleaseAddress state.pool block.addr block.numElements.val
        ⟨{ pool, allocated := state.allocated.erase block }, some block⟩
      else
        ⟨state, none⟩

def addressModel : Model AddressState AddressInput (Option Block) where
  step := addressStep

/-! ## Building the pool -/

/-- The pool after a call of `net_add_address_pool` for every range. -/
def addAddressPools : List U32 → List (U16 × U16) → List U32
  | pool, [] => pool
  | pool, (min, max) :: rest =>
      addAddressPools (netAddAddressPool pool min max).2 rest

def initialRange (range : U16 × U16) : Finset Nat :=
  Finset.Icc range.1.toNat range.2.toNat

/-- Ranges of unicast addresses that do not overlap. -/
structure InitialRanges (ranges : List (U16 × U16)) : Prop where
  unicast : ∀ range ∈ ranges, 0 < range.1.toNat ∧ range.2.toNat < 0x8000
  disjoint : (ranges.map initialRange).Pairwise Disjoint

def initialAddresses (ranges : List (U16 × U16)) : Finset Nat :=
  union (ranges.map initialRange)

def startAddresses (ranges : List (U16 × U16)) : AddressState where
  pool := addAddressPools [] ranges
  allocated := []

/-! ## Ownership -/

/-- The owners of addresses: the allocated blocks and the free ranges. -/
def AddressState.owners (state : AddressState) : List (Finset Nat) :=
  state.allocated.map Block.addresses ++ state.pool.map rangeAddresses

/-- A block is released next to a range that the release loop mistakes for a
neighbour. -/
def ReleasesBesideMistaken (state : AddressState) : AddressInput → Prop
  | .obtain _ => False
  | .reserve _ _ => False
  | .release block => block ∈ state.allocated ∧
      ∃ range ∈ state.pool,
        MistakenNeighbour block.addr block.numElements.val range

structure AddressInvariant (whole : Finset Nat) (state : AddressState) :
    Prop where
  free : ∀ range ∈ state.pool, UnicastRange range
  blocks : ∀ block ∈ state.allocated, 0 < block.addr.toNat ∧
    block.addr.toNat + block.numElements.val.toNat ≤ 0x8000
  partitions : Partitions state.owners whole

theorem coverCount_owners (state : AddressState) (address : Nat) :
    coverCount state.owners address =
      coverCount (state.allocated.map Block.addresses) address +
        freeCount state.pool address := by
  simp [AddressState.owners, freeCount]

/-- A block that leaves the pool and becomes allocated keeps the invariant. -/
theorem AddressInvariant.allocate {whole : Finset Nat} {state : AddressState}
    (invariant : AddressInvariant whole state) {pool : List U32} {block : Block}
    (taken : TakesBlock state.pool pool block.addr.toNat
      block.numElements.val.toNat) :
    AddressInvariant whole
      { pool, allocated := block :: state.allocated } where
  free := taken.unicast
  blocks := by
    intro other member
    rcases List.mem_cons.mp member with equal | present
    · exact equal ▸ ⟨taken.positive, taken.inRange⟩
    · exact invariant.blocks other present
  partitions := by
    apply invariant.partitions.of_coverCount
    intro address
    rw [coverCount_owners, coverCount_owners, taken.moved address,
      List.map_cons, coverCount_cons]
    simp only [Block.mem_addresses]
    omega

/-- Dropping an allocated block takes its addresses away once. -/
theorem coverCount_erase {allocated : List Block} {block : Block}
    (present : block ∈ allocated) (address : Nat) :
    coverCount (allocated.map Block.addresses) address =
      coverCount ((allocated.erase block).map Block.addresses) address +
        if block.addr.toNat ≤ address ∧
          address < block.addr.toNat + block.numElements.val.toNat
        then 1 else 0 := by
  rw [coverCount_perm ((List.perm_cons_erase present).map Block.addresses),
    List.map_cons, coverCount_cons]
  simp only [Block.mem_addresses]

theorem AddressInvariant.release {whole : Finset Nat} {state : AddressState}
    (invariant : AddressInvariant whole state) {block : Block}
    (present : block ∈ state.allocated)
    (apart : ∀ range ∈ state.pool,
      ¬MistakenNeighbour block.addr block.numElements.val range) :
    AddressInvariant whole
      { pool := netReleaseAddress state.pool block.addr block.numElements.val
        allocated := state.allocated.erase block } := by
  have ⟨blockPositive, inRange⟩ := invariant.blocks block present
  have countPositive := block.numElements.property
  have returned := netReleaseAddress_perm apart
  have blockMax : (block.addr + block.numElements.val.setWidth 16 - 1).toNat =
      block.addr.toNat + block.numElements.val.toNat - 1 := by
    simp only [BitVec.toNat_add, BitVec.toNat_sub, BitVec.toNat_setWidth,
      BitVec.ofNat_eq_ofNat, BitVec.toNat_ofNat]
    omega
  refine ⟨?_, ?_, ?_⟩
  · intro range member
    rcases List.mem_cons.mp (returned.mem_iff.mp member) with equal | inPool
    · subst equal
      exact ⟨by simpa using blockPositive, by simp; omega,
        by simp only [rangeMax_packRange, blockMax]; omega⟩
    · exact invariant.free range inPool
  · intro other member
    exact invariant.blocks other (List.mem_of_mem_erase member)
  · apply invariant.partitions.of_coverCount
    intro address
    rw [coverCount_owners, coverCount_owners, coverCount_erase present,
      freeCount_perm returned, freeCount_cons,
      rangeMin_packRange, rangeMax_packRange, blockMax]
    dsimp only
    split_ifs <;> omega

/-- Next to a mistaken neighbour the address behind the block becomes free
without ever having belonged to the block. -/
theorem not_partitions_of_mistaken {whole : Finset Nat} {state : AddressState}
    (invariant : AddressInvariant whole state) {block : Block}
    (present : block ∈ state.allocated)
    (mistaken : ∃ range ∈ state.pool,
      MistakenNeighbour block.addr block.numElements.val range) :
    ¬Partitions (AddressState.owners
      { pool := netReleaseAddress state.pool block.addr block.numElements.val
        allocated := state.allocated.erase block }) whole := by
  have ⟨_, inRange⟩ := invariant.blocks block present
  cases found : widenNeighbour block.addr block.numElements.val state.pool with
  | none =>
      rcases mistaken with ⟨range, inPool, isMistaken⟩
      exact absurd isMistaken
        ((widenNeighbour_eq_none_iff _ _ _).mp found range inPool)
  | some widened =>
      have gained :=
        freeCount_widenNeighbour inRange invariant.free found
      apply invariant.partitions.not_of_gained
      change coverCount _ (block.addr.toNat + block.numElements.val.toNat) = _
      rw [coverCount_owners, coverCount_owners, coverCount_erase present]
      simp only [netReleaseAddress, found, gained]
      split_ifs <;> omega

/-! ## Runs -/

/-- The pool grows at its end, so the induction carries what it held before. -/
theorem addAddressPools_spec (ranges : List (U16 × U16))
    (unicast : ∀ range ∈ ranges, 0 < range.1.toNat ∧ range.2.toNat < 0x8000)
    (pool : List U32) (poolUnicast : ∀ range ∈ pool, UnicastRange range) :
    (∀ range ∈ addAddressPools pool ranges, UnicastRange range) ∧
      ∀ address, freeCount (addAddressPools pool ranges) address =
        freeCount pool address +
          coverCount (ranges.map initialRange) address := by
  induction ranges generalizing pool with
  | nil => exact ⟨poolUnicast, fun _ => rfl⟩
  | cons range rest induction =>
      rcases range with ⟨min, max⟩
      rcases unicast (min, max) List.mem_cons_self with
        ⟨minPositive, maxUnicast⟩
      have later := induction fun other member =>
        unicast other (List.mem_cons_of_mem _ member)
      simp only [addAddressPools, netAddAddressPool, List.map_cons,
        coverCount_cons, initialRange, Finset.mem_Icc]
      split
      next empty =>
        rcases later pool poolUnicast with ⟨restUnicast, count⟩
        rw [BitVec.lt_def] at empty
        refine ⟨restUnicast, fun address => ?_⟩
        rw [count address, if_neg (by omega)]
        rfl
      next ordered =>
        rw [BitVec.lt_def] at ordered
        have added : ∀ other ∈ pool ++ [packRange min max],
            UnicastRange other := by
          intro other member
          rcases List.mem_append.mp member with inPool | new
          · exact poolUnicast other inPool
          · rw [List.mem_singleton.mp new]
            exact ⟨by simpa using minPositive, by simp; omega,
              by simpa using maxUnicast⟩
        rcases later _ added with ⟨restUnicast, count⟩
        refine ⟨restUnicast, fun address => ?_⟩
        rw [count address]
        simp only [freeCount_append, freeCount_cons,
          freeCount_nil, rangeMin_packRange, rangeMax_packRange]
        omega

theorem startAddresses_invariant {ranges : List (U16 × U16)}
    (initial : InitialRanges ranges) :
    AddressInvariant (initialAddresses ranges) (startAddresses ranges) := by
  have ⟨free, count⟩ := addAddressPools_spec ranges initial.unicast []
    (fun range member => (by cases member))
  refine ⟨free, fun block member => (by cases member), ?_⟩
  apply (partitions_union initial.disjoint).of_coverCount
  intro address
  rw [coverCount_owners]
  simpa [startAddresses] using count address

theorem addressStep_invariant {whole : Finset Nat} {state : AddressState}
    (invariant : AddressInvariant whole state) (input : AddressInput)
    (apart : ¬ReleasesBesideMistaken state input) :
    AddressInvariant whole (addressStep state input).nextState := by
  cases input with
  | obtain numEles =>
      simp only [addressStep]
      rcases netObtainAddress_spec numEles.val numEles.property state.pool
        invariant.free with ⟨none, same⟩ | taken
      · rw [if_pos none, same]
        exact invariant
      · rw [if_neg (fun none => by
          have positive := taken.positive
          rw [none] at positive
          exact absurd positive (by decide))]
        exact invariant.allocate taken
  | reserve base numElements =>
      simp only [addressStep]
      rcases netReserveAddressRange_spec base numElements.val state.pool
        invariant.free with refused | ⟨granted, taken⟩
      · rw [refused]
        exact invariant
      · cases reserved :
          netReserveAddressRange state.pool base numElements.val with
        | mk result pool =>
          rw [reserved] at granted taken
          dsimp only at granted
          rw [granted]
          exact invariant.allocate taken
  | release block =>
      simp only [addressStep]
      split
      next present =>
        apply invariant.release present
        intro range inPool isMistaken
        exact apart ⟨present, range, inPool, isMistaken⟩
      next => exact invariant

/-- From a state in which every address has one owner, a step keeps it so
exactly when it does not release a block beside a mistaken neighbour. -/
theorem addressStep_partitions_iff {whole : Finset Nat} {state : AddressState}
    (invariant : AddressInvariant whole state) (input : AddressInput) :
    Partitions (addressStep state input).nextState.owners whole ↔
      ¬ReleasesBesideMistaken state input := by
  constructor
  · intro partitions beside
    cases input with
    | obtain => exact beside
    | reserve => exact beside
    | release block =>
        rcases beside with ⟨present, mistaken⟩
        simp only [addressStep, if_pos present] at partitions
        exact not_partitions_of_mistaken invariant present mistaken partitions
  · intro apart
    exact (addressStep_invariant invariant input apart).partitions

/-- Along every run, the allocated blocks and the free ranges partition the
initial addresses exactly as long as no block is released beside a mistaken
neighbour. -/
theorem addresses_partitioned_iff {ranges : List (U16 × U16)}
    (initial : InitialRanges ranges) (inputs : List AddressInput) :
    (∀ state ∈ addressModel.reached (startAddresses ranges) inputs,
        Partitions state.owners (initialAddresses ranges)) ↔
      ∀ entry ∈ addressModel.trace (startAddresses ranges) inputs,
        ¬ReleasesBesideMistaken entry.before entry.input := by
  rw [Model.forall_reached_iff]
  have start := startAddresses_invariant initial
  rw [and_iff_right start.partitions]
  exact addressModel.forall_trace_iff
    (AddressInvariant (initialAddresses ranges))
    (fun entry => ¬ReleasesBesideMistaken entry.before entry.input)
    (fun entry => Partitions entry.after.owners (initialAddresses ranges))
    (fun state input invariant apart =>
      addressStep_invariant invariant input apart)
    (fun state input invariant => addressStep_partitions_iff invariant input)
    inputs start

/-- The run that breaks it: two neighbouring blocks of one element each, the
lower of which is released beside the free range behind the upper one. -/
def releaseBelowAllocated : List AddressInput :=
  let one : ElementCount := ⟨1, by decide⟩
  [.obtain one, .obtain one, .release ⟨1, one⟩]

theorem onlyRange_initial : InitialRanges [(1, 4)] where
  unicast := by simp
  disjoint := List.pairwise_singleton _ _

theorem addresses_not_always_partitioned :
    ¬∀ ranges : List (U16 × U16), InitialRanges ranges →
      ∀ inputs : List AddressInput,
        ∀ state ∈ addressModel.reached (startAddresses ranges) inputs,
          Partitions state.owners (initialAddresses ranges) := by
  intro always
  have partitioned := always [(1, 4)] onlyRange_initial
    releaseBelowAllocated _ (List.mem_of_getElem? (i := 3) rfl)
  have apart := partitioned.disjoint
  revert apart
  decide

theorem addresses_partitioned_iff_single_range :
    (∀ state ∈ addressModel.reached (startAddresses [(1, 4)])
        releaseBelowAllocated,
        Partitions state.owners (initialAddresses [(1, 4)])) ↔
      ∀ entry ∈ addressModel.trace (startAddresses [(1, 4)])
        releaseBelowAllocated,
        ¬ReleasesBesideMistaken entry.before entry.input :=
  addresses_partitioned_iff onlyRange_initial releaseBelowAllocated

end Meshctl.Net
