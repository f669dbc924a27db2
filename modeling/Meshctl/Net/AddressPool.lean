import Meshctl.Net.Protocol
import Meshctl.Foundation.Coverage
import Meshctl.Foundation.Execution

/-! # The pool of unicast addresses

The provisioner hands out blocks of unicast addresses from a list of free
ranges. A range is stored as one 32-bit word, its upper end in the high half.
-/

namespace Meshctl.Net

open Coverage

/-! ## Packed ranges -/

def packRange (min max : U16) : U32 :=
  min.setWidth 32 + (max.setWidth 32 <<< 16)

def rangeMax (range : U32) : U16 := (range >>> 16).setWidth 16

def rangeMin (range : U32) : U16 := (range &&& 0xffff).setWidth 16

@[simp] theorem rangeMax_packRange (min max : U16) :
    rangeMax (packRange min max) = max := by
  apply BitVec.eq_of_toNat_eq
  have minBound := min.isLt
  have maxBound := max.isLt
  simp only [rangeMax, packRange, BitVec.toNat_setWidth,
    BitVec.toNat_ushiftRight, BitVec.toNat_add, BitVec.toNat_shiftLeft,
    Nat.shiftLeft_eq, Nat.shiftRight_eq_div_pow]
  omega

@[simp] theorem rangeMin_packRange (min max : U16) :
    rangeMin (packRange min max) = min := by
  apply BitVec.eq_of_toNat_eq
  have minBound := min.isLt
  have maxBound := max.isLt
  have mask : (0xffff#32).toNat = 2 ^ 16 - 1 := rfl
  simp only [rangeMin, packRange, BitVec.toNat_setWidth, BitVec.toNat_and,
    BitVec.ofNat_eq_ofNat, mask, Nat.and_two_pow_sub_one_eq_mod,
    BitVec.toNat_add, BitVec.toNat_shiftLeft, Nat.shiftLeft_eq]
  omega

/-- The addresses a free range stands for. -/
def rangeAddresses (range : U32) : Finset Nat :=
  Finset.Icc (rangeMin range).toNat (rangeMax range).toNat

@[simp] theorem mem_rangeAddresses (range : U32) (address : Nat) :
    address ∈ rangeAddresses range ↔
      (rangeMin range).toNat ≤ address ∧ address ≤ (rangeMax range).toNat := by
  simp [rangeAddresses]

/-! ## The operations -/

def netAddAddressPool (pool : List U32) (min max : U16) : Bool × List U32 :=
  if max < min then
    (false, pool)
  else
    (true, pool ++ [packRange min max])

def matchAddressRange (range : U32) (numElements : Byte) : Bool :=
  let max := rangeMax range
  let min := rangeMin range
  (numElements.toNat : Int) - 1 ≤ (max.toNat : Int) - min.toNat

def netObtainAddress : List U32 → Byte → U16 × List U32
  | [], _ => (unassignedAddress, [])
  | range :: rest, numEles =>
      if matchAddressRange range numEles then
        let max := rangeMax range
        let min := rangeMin range
        let addr := min
        let min := min + numEles.setWidth 16
        if max < min then
          (addr, rest)
        else
          (addr, packRange min max :: rest)
      else
        let (addr, rest) := netObtainAddress rest numEles
        (addr, range :: rest)

/-- The difference of two unsigned words, returned as a signed one. -/
def rangeCmp (range1 range2 : U32) : Int := (range2 - range1).toInt

/-- `g_list_insert_sorted` with `range_cmp`: in front of the first range that
does not compare greater. -/
def insertRange (pool : List U32) (range : U32) : List U32 :=
  pool.orderedInsert (fun inserted present => rangeCmp inserted present ≤ 0)
    range

/-- The loop of `net_release_address`: the first range next to the released
block is widened in place. -/
def widenNeighbour (addr : U16) (numElements : Byte) :
    List U32 → Option (List U32)
  | [] => none
  | range :: rest =>
      let max := rangeMax range
      let min := rangeMin range
      if min.toNat = addr.toNat + numElements.toNat + 1 then
        some (packRange addr max :: rest)
      else if addr ≠ 0 ∧ max.toNat = addr.toNat - 1 then
        some (packRange min (addr + numElements.setWidth 16 + 1) :: rest)
      else
        (widenNeighbour addr numElements rest).map (range :: ·)

def netReleaseAddress (pool : List U32) (addr : U16) (numElements : Byte) :
    List U32 :=
  match widenNeighbour addr numElements pool with
  | some widened => widened
  | none =>
      let range := addr.setWidth 32 +
        ((addr.setWidth 32 + numElements.setWidth 32 - 1) <<< 16)
      insertRange pool range

/-- Whether the whole block lies in the range. -/
def rangeHolds (base : U16) (numElements : Byte) (range : U32) : Bool :=
  let max := rangeMax range
  let min := rangeMin range
  min ≤ base ∧ (base.toNat : Int) + numElements.toNat - 1 ≤ max.toNat

def netReserveAddressRange (pool : List U32) (base : U16)
    (numElements : Byte) : Bool × List U32 :=
  match pool.find? (rangeHolds base numElements) with
  | none => (false, pool)
  | some range =>
      let max := rangeMax range
      let min := rangeMin range
      let pool := pool.eraseP (rangeHolds base numElements)
      let atMin : Bool := base = min
      let min := if atMin then base + numElements.setWidth 16 else min
      let atMax : Bool :=
        (max.toNat : Int) = (base.toNat : Int) + numElements.toNat - 1
      let max := if atMax then max - numElements.setWidth 16 else max
      if max < min then
        (true, pool)
      else if atMin || atMax then
        (true, insertRange pool (packRange min max))
      else
        let pool := insertRange pool
          (min.setWidth 32 + ((base.setWidth 32 - 1) <<< 16))
        (true, insertRange pool
          (base.setWidth 32 + numElements.setWidth 32 +
            (max.setWidth 32 <<< 16)))

/-! ## What each operation does to the free addresses -/

/-- A range of unicast addresses that is not empty. -/
structure UnicastRange (range : U32) : Prop where
  positive : 0 < (rangeMin range).toNat
  ordered : (rangeMin range).toNat ≤ (rangeMax range).toNat
  unicast : (rangeMax range).toNat < 0x8000

/-- How many free ranges contain `address`. -/
def freeCount (pool : List U32) (address : Nat) : Nat :=
  coverCount (pool.map rangeAddresses) address

@[simp] theorem freeCount_nil (address : Nat) :
    freeCount [] address = 0 := rfl

@[simp] theorem freeCount_cons (range : U32) (pool : List U32)
    (address : Nat) :
    freeCount (range :: pool) address =
      freeCount pool address +
        if (rangeMin range).toNat ≤ address ∧
          address ≤ (rangeMax range).toNat then 1 else 0 := by
  simp [freeCount]

@[simp] theorem freeCount_append (left right : List U32)
    (address : Nat) :
    freeCount (left ++ right) address =
      freeCount left address + freeCount right address := by
  simp [freeCount]

theorem insertRange_perm (pool : List U32) (range : U32) :
    (insertRange pool range).Perm (range :: pool) :=
  List.perm_orderedInsert _ range pool

theorem freeCount_perm {left right : List U32}
    (permutation : left.Perm right) (address : Nat) :
    freeCount left address = freeCount right address :=
  coverCount_perm (permutation.map rangeAddresses) address

/-- A block of unicast addresses leaves the pool and nothing else does. -/
structure TakesBlock (before after : List U32) (base count : Nat) : Prop where
  positive : 0 < base
  inRange : base + count ≤ 0x8000
  unicast : ∀ range ∈ after, UnicastRange range
  moved : ∀ address, freeCount before address =
    freeCount after address +
      if base ≤ address ∧ address < base + count then 1 else 0

theorem netObtainAddress_spec (numEles : Byte) (positive : 0 < numEles.toNat)
    (pool : List U32) (unicast : ∀ range ∈ pool, UnicastRange range) :
    ((netObtainAddress pool numEles).1 = unassignedAddress ∧
        (netObtainAddress pool numEles).2 = pool) ∨
      TakesBlock pool (netObtainAddress pool numEles).2
        (netObtainAddress pool numEles).1.toNat numEles.toNat := by
  induction pool with
  | nil => exact Or.inl ⟨rfl, rfl⟩
  | cons range rest induction =>
      have here := unicast range List.mem_cons_self
      have later : ∀ other ∈ rest, UnicastRange other :=
        fun other member => unicast other (List.mem_cons_of_mem _ member)
      have ⟨minPositive, ordered, maxUnicast⟩ := here
      have countBound := numEles.isLt
      by_cases fits : matchAddressRange range numEles
      · right
        have newMin : (rangeMin range + numEles.setWidth 16).toNat =
            (rangeMin range).toNat + numEles.toNat := by
          simp only [BitVec.toNat_add, BitVec.toNat_setWidth]
          omega
        have longEnough := fits
        simp only [matchAddressRange, decide_eq_true_eq] at longEnough
        rw [netObtainAddress, if_pos fits]
        by_cases exhausted :
            rangeMax range < rangeMin range + numEles.setWidth 16
        · rw [if_pos exhausted]
          rw [BitVec.lt_def, newMin] at exhausted
          refine ⟨minPositive, by dsimp only; omega, later,
            fun address => ?_⟩
          rw [freeCount_cons]
          dsimp only
          split_ifs <;> omega
        · rw [if_neg exhausted]
          rw [BitVec.lt_def, newMin] at exhausted
          refine ⟨minPositive, by dsimp only; omega, ?_, fun address => ?_⟩
          · intro other member
            rcases List.mem_cons.mp member with equal | inRest
            · subst equal
              exact ⟨by simp [newMin]; omega, by simp [newMin]; omega,
                by simpa using maxUnicast⟩
            · exact later other inRest
          · simp only [freeCount_cons, rangeMin_packRange,
              rangeMax_packRange, newMin]
            split <;> split <;> split <;> omega
      · simp only [netObtainAddress, fits, if_false, Bool.false_eq_true]
        rcases induction later with ⟨none, same⟩ | taken
        · exact Or.inl ⟨none, by rw [same]⟩
        · refine Or.inr ⟨taken.positive, taken.inRange, ?_, fun address => ?_⟩
          · intro other member
            rcases List.mem_cons.mp member with equal | inRest
            · exact equal ▸ here
            · exact taken.unicast other inRest
          · rw [freeCount_cons, freeCount_cons,
              taken.moved address]
            omega

/-- Deleting the range that a search found leaves the other ranges. -/
theorem perm_cons_eraseP_of_find {pool : List U32} {range : U32}
    {holds : U32 → Bool} (found : pool.find? holds = some range) :
    pool.Perm (range :: pool.eraseP holds) := by
  rcases List.find?_eq_some_iff_append.mp found with
    ⟨holdsRange, before, after, split, notBefore⟩
  have erased : pool.eraseP holds = before ++ after := by
    rw [split, List.eraseP_append_right _ (by simpa using notBefore),
      List.eraseP_cons_of_pos holdsRange]
  rw [erased, split]
  exact List.perm_middle

/-! ### The ranges beside a block -/

/-- The two words that `net_reserve_address_range` stores for a block in the
middle of a range are packed ranges. -/
theorem lowerWord (range : U32) (base : U16) :
    (rangeMin range).setWidth 32 + ((base.setWidth 32 - 1) <<< 16) =
      packRange (rangeMin range) (base - 1) := by
  apply BitVec.eq_of_toNat_eq
  simp only [packRange, BitVec.toNat_add, BitVec.toNat_setWidth,
    BitVec.toNat_shiftLeft, BitVec.toNat_sub, BitVec.ofNat_eq_ofNat,
    BitVec.toNat_ofNat, Nat.shiftLeft_eq]
  omega

/-- The word that is stored for what is left above a block. -/
theorem upperWord_of_le {range : U32} {base : U16} {numElements : Byte}
    (inside : base.toNat + numElements.toNat ≤ (rangeMax range).toNat) :
    base.setWidth 32 + numElements.setWidth 32 +
        ((rangeMax range).setWidth 32 <<< 16) =
      packRange (base + numElements.setWidth 16) (rangeMax range) := by
  have maxBound := (rangeMax range).isLt
  have countBound := numElements.isLt
  apply BitVec.eq_of_toNat_eq
  simp only [packRange, BitVec.toNat_add, BitVec.toNat_setWidth,
    BitVec.toNat_shiftLeft, Nat.shiftLeft_eq]
  omega

/-- What lies in a range on both sides of a block. -/
def rangesBeside (range : U32) (base : U16) (numElements : Byte) : List U32 :=
  (if rangeMin range < base then [packRange (rangeMin range) (base - 1)] else []) ++
  (if base.toNat + numElements.toNat ≤ (rangeMax range).toNat then
    [packRange (base + numElements.setWidth 16) (rangeMax range)] else [])

/-- The block is the whole range, and there is no address in front of it or behind. -/
def TakesOutermost (range : U32) (base : U16) (numElements : Byte) : Prop :=
  base = rangeMin range ∧
    (rangeMax range).toNat + 1 = base.toNat + numElements.toNat ∧
    (base = 0 ∨ rangeMax range = 0xffff)

instance (range : U32) (base : U16) (numElements : Byte) :
    Decidable (TakesOutermost range base numElements) :=
  inferInstanceAs (Decidable (_ ∧ _ ∧ (_ ∨ _)))

/-- The pieces beside a block and the block itself make the range. -/
theorem freeCount_rangesBeside {range : U32} {base : U16} {numElements : Byte}
    (holds : rangeHolds base numElements range = true) (address : Nat) :
    freeCount (rangesBeside range base numElements) address +
        (if base.toNat ≤ address ∧ address < base.toNat + numElements.toNat
          then 1 else 0) =
      if (rangeMin range).toNat ≤ address ∧ address ≤ (rangeMax range).toNat
        then 1 else 0 := by
  have maxBound := (rangeMax range).isLt
  have countBound := numElements.isLt
  simp only [rangeHolds, decide_eq_true_eq, BitVec.le_def] at holds
  have below : freeCount (if rangeMin range < base then
        [packRange (rangeMin range) (base - 1)] else []) address =
      if (rangeMin range).toNat ≤ address ∧ address < base.toNat then 1 else 0 := by
    split
    · next below =>
        rw [BitVec.lt_def] at below
        have before : (base - 1).toNat = base.toNat - 1 := by
          simp only [BitVec.toNat_sub, BitVec.ofNat_eq_ofNat, BitVec.toNat_ofNat]
          omega
        rw [freeCount_cons, freeCount_nil, rangeMin_packRange, rangeMax_packRange, before]
        split_ifs <;> omega
    · next notBelow =>
        rw [BitVec.lt_def] at notBelow
        rw [freeCount_nil, if_neg (by omega)]
  have above : freeCount (if base.toNat + numElements.toNat ≤ (rangeMax range).toNat then
        [packRange (base + numElements.setWidth 16) (rangeMax range)] else []) address =
      if base.toNat + numElements.toNat ≤ address ∧ address ≤ (rangeMax range).toNat
        then 1 else 0 := by
    split
    · next above =>
        have newMin : (base + numElements.setWidth 16).toNat =
            base.toNat + numElements.toNat := by
          simp only [BitVec.toNat_add, BitVec.toNat_setWidth]
          omega
        rw [freeCount_cons, freeCount_nil, rangeMin_packRange, rangeMax_packRange, newMin]
        split_ifs <;> omega
    · next notAbove => rw [freeCount_nil, if_neg (by omega)]
  rw [rangesBeside, freeCount_append, below, above]
  split_ifs <;> omega

/-- The first range that holds the block is replaced by what lies beside the block. -/
theorem netReserveAddressRange_beside {pool : List U32} {base : U16} {numElements : Byte}
    {range : U32} (found : pool.find? (rangeHolds base numElements) = some range)
    (notOutermost : ¬TakesOutermost range base numElements) :
    (netReserveAddressRange pool base numElements).1 = true ∧
      (netReserveAddressRange pool base numElements).2.Perm
        (rangesBeside range base numElements ++
          pool.eraseP (rangeHolds base numElements)) := by
  have holds := List.find?_some found
  have maxBound := (rangeMax range).isLt
  have countBound := numElements.isLt
  have isZero : base = 0 ↔ base.toNat = 0 := BitVec.toNat_inj.symm
  have isLast : rangeMax range = 0xffff ↔ (rangeMax range).toNat = 0xffff :=
    BitVec.toNat_inj.symm
  have isMin : base = rangeMin range ↔ base.toNat = (rangeMin range).toNat :=
    BitVec.toNat_inj.symm
  simp only [rangeHolds, decide_eq_true_eq, BitVec.le_def] at holds
  rw [TakesOutermost, isZero, isLast, isMin] at notOutermost
  have newMax : (rangeMax range - numElements.setWidth 16).toNat =
      ((rangeMax range).toNat + 65536 - numElements.toNat) % 65536 := by
    simp only [BitVec.toNat_sub, BitVec.toNat_setWidth]
    omega
  have newMin : (base + numElements.setWidth 16).toNat =
      (base.toNat + numElements.toNat) % 65536 := by
    simp only [BitVec.toNat_add, BitVec.toNat_setWidth]
    omega
  have lowerIff : rangeMin range < base ↔ ¬base = rangeMin range := by
    rw [BitVec.lt_def, isMin]
    omega
  have upperIff : base.toNat + numElements.toNat ≤ (rangeMax range).toNat ↔
      ¬((rangeMax range).toNat : Int) = (base.toNat : Int) + numElements.toNat - 1 := by
    omega
  simp only [netReserveAddressRange, found, rangesBeside, lowerIff]
  by_cases low : base = rangeMin range <;>
    by_cases high : ((rangeMax range).toNat : Int) =
      (base.toNat : Int) + numElements.toNat - 1
  · have notAbove := mt upperIff.mp (not_not.mpr high)
    have empty : rangeMax range - numElements.setWidth 16 <
        base + numElements.setWidth 16 := by
      rw [isMin] at low
      rw [BitVec.lt_def, newMin, newMax]
      omega
    simp [eq_true low, eq_true high, notAbove, empty]
  · have above := upperIff.mpr high
    have notEmpty : ¬rangeMax range < base + numElements.setWidth 16 := by
      rw [BitVec.lt_def, newMin]
      omega
    simp [eq_true low, eq_false high, above, notEmpty, insertRange_perm]
  · have notAbove := mt upperIff.mp (not_not.mpr high)
    have below := BitVec.lt_def.mp (lowerIff.mpr low)
    have before : (base - 1).toNat = base.toNat - 1 := by
      simp only [BitVec.toNat_sub, BitVec.ofNat_eq_ofNat, BitVec.toNat_ofNat]
      omega
    have newEnd : rangeMax range - numElements.setWidth 16 = base - 1 := by
      apply BitVec.eq_of_toNat_eq
      rw [newMax, before]
      omega
    have notEmpty : ¬base - 1 < rangeMin range := by
      rw [BitVec.lt_def, before]
      omega
    simp only [eq_false low, eq_true high, decide_true, decide_false, newEnd,
      Bool.false_eq_true, if_true, if_false, notEmpty, Bool.or_true, notAbove,
      not_false_eq_true, List.append_nil, true_and]
    exact insertRange_perm _ _
  · have above := upperIff.mpr high
    have notEmpty : ¬rangeMax range < rangeMin range := by
      rw [BitVec.lt_def]
      omega
    simp only [eq_false low, eq_false high, decide_false, Bool.false_eq_true, if_true,
      if_false, notEmpty, Bool.or_self, lowerWord, upperWord_of_le above, above,
      not_false_eq_true, true_and]
    apply (insertRange_perm _ _).trans
    apply ((insertRange_perm _ _).cons _).trans
    exact List.Perm.swap _ _ _

/-! ### Unicast ranges -/

/-- What is left of a range when a block is cut out of it. -/
def residualRanges (range : U32) (base : U16) (numElements : Byte) :
    List U32 :=
  (if rangeMin range < base then [packRange (rangeMin range) (base - 1)]
    else []) ++
  (if base + numElements.setWidth 16 ≤ rangeMax range then
    [packRange (base + numElements.setWidth 16) (rangeMax range)] else [])

section CutBlock

variable {range : U32} {base : U16} {numElements : Byte}

theorem toNat_blockEnd (unicast : UnicastRange range)
    (holds : rangeHolds base numElements range) :
    (base + numElements.setWidth 16).toNat =
      base.toNat + numElements.toNat := by
  have ⟨_, _, maxUnicast⟩ := unicast
  have countBound := numElements.isLt
  simp only [rangeHolds, decide_eq_true_eq, BitVec.le_def] at holds
  simp only [BitVec.toNat_add, BitVec.toNat_setWidth]
  omega

theorem toNat_beforeBlock (unicast : UnicastRange range)
    (holds : rangeHolds base numElements range) :
    (base - 1).toNat = base.toNat - 1 := by
  have ⟨minPositive, _, _⟩ := unicast
  simp only [rangeHolds, decide_eq_true_eq, BitVec.le_def] at holds
  simp only [BitVec.toNat_sub, BitVec.ofNat_eq_ofNat, BitVec.toNat_ofNat]
  omega

theorem residualRanges_unicast (unicast : UnicastRange range)
    (holds : rangeHolds base numElements range) :
    ∀ left ∈ residualRanges range base numElements, UnicastRange left := by
  have blockEnd := toNat_blockEnd unicast holds
  have before := toNat_beforeBlock unicast holds
  have ⟨minPositive, ordered, maxUnicast⟩ := unicast
  simp only [rangeHolds, decide_eq_true_eq, BitVec.le_def] at holds
  intro left member
  rcases List.mem_append.mp member with lower | upper
  · split at lower
    next shorter =>
      rw [List.mem_singleton.mp lower]
      rw [BitVec.lt_def] at shorter
      exact ⟨by simpa using minPositive, by simp; omega,
        by simp only [rangeMax_packRange, before]; omega⟩
    next => cases lower
  · split at upper
    next shorter =>
      rw [List.mem_singleton.mp upper]
      rw [BitVec.le_def, blockEnd] at shorter
      exact ⟨by simp [blockEnd]; omega, by simpa [blockEnd] using shorter,
        by simpa using maxUnicast⟩
    next => cases upper

/-- The end of a block of unicast addresses does not wrap around. -/
theorem residualRanges_eq (unicast : UnicastRange range)
    (holds : rangeHolds base numElements range) :
    residualRanges range base numElements = rangesBeside range base numElements := by
  rw [residualRanges, rangesBeside]
  simp only [BitVec.le_def, toNat_blockEnd unicast holds]

/-- A reservation cuts the block out of the first range that holds it. -/
theorem netReserveAddressRange_found {pool : List U32} (unicast : UnicastRange range)
    (found : pool.find? (rangeHolds base numElements) = some range) :
    (netReserveAddressRange pool base numElements).1 = true ∧
      (netReserveAddressRange pool base numElements).2.Perm
        (residualRanges range base numElements ++
          pool.eraseP (rangeHolds base numElements)) := by
  rw [residualRanges_eq unicast (List.find?_some found)]
  apply netReserveAddressRange_beside found
  have ⟨minPositive, _, maxUnicast⟩ := unicast
  rintro ⟨low, _, first | last⟩
  · rw [← low, first] at minPositive
    exact absurd minPositive (by decide)
  · rw [last] at maxUnicast
    exact absurd maxUnicast (by decide)

end CutBlock

theorem netReserveAddressRange_spec (base : U16) (numElements : Byte) (pool : List U32)
    (unicast : ∀ range ∈ pool, UnicastRange range) :
    netReserveAddressRange pool base numElements = (false, pool) ∨
      ((netReserveAddressRange pool base numElements).1 = true ∧
        TakesBlock pool (netReserveAddressRange pool base numElements).2
          base.toNat numElements.toNat) := by
  cases found : pool.find? (rangeHolds base numElements) with
  | none => exact Or.inl (by simp [netReserveAddressRange, found])
  | some range =>
      right
      have here := unicast range (List.mem_of_find?_eq_some found)
      have holds := List.find?_some found
      have ⟨succeeded, cut⟩ := netReserveAddressRange_found here found
      have ⟨minPositive, _, maxUnicast⟩ := here
      have inside := holds
      simp only [rangeHolds, decide_eq_true_eq, BitVec.le_def] at inside
      refine ⟨succeeded, by omega, by omega, ?_, fun address => ?_⟩
      · intro other member
        rcases List.mem_append.mp (cut.mem_iff.mp member) with isLeft | isOther
        · exact residualRanges_unicast here holds other isLeft
        · exact unicast other (List.mem_of_mem_eraseP isOther)
      · rw [freeCount_perm (perm_cons_eraseP_of_find found),
          freeCount_perm cut, freeCount_cons,
          freeCount_append, residualRanges_eq here holds,
          ← freeCount_rangesBeside holds address]
        omega

/-! ### Releasing a block -/

/-- The release loop takes a range for a neighbour of the block when it starts
two above the last address of the block or ends right below the first. -/
def MistakenNeighbour (addr : U16) (numElements : Byte) (range : U32) : Prop :=
  (rangeMin range).toNat = addr.toNat + numElements.toNat + 1 ∨
    (rangeMax range).toNat + 1 = addr.toNat

theorem below_iff (addr : U16) (range : U32) :
    (addr ≠ 0 ∧ (rangeMax range).toNat = addr.toNat - 1) ↔
      (rangeMax range).toNat + 1 = addr.toNat := by
  have isZero : addr = 0 ↔ addr.toNat = 0 := BitVec.toNat_inj.symm
  rw [ne_eq, isZero]
  omega

theorem widenNeighbour_eq_none_iff (addr : U16) (numElements : Byte)
    (pool : List U32) :
    widenNeighbour addr numElements pool = none ↔
      ∀ range ∈ pool, ¬MistakenNeighbour addr numElements range := by
  induction pool with
  | nil => simp [widenNeighbour]
  | cons range rest induction =>
      simp only [widenNeighbour, below_iff, List.forall_mem_cons,
        MistakenNeighbour]
      split
      next above => simp [above]
      next notAbove =>
        split
        next below => simp [below]
        next notBelow =>
          simp [notAbove, notBelow, induction, MistakenNeighbour]

/-- A widened neighbour always swallows the address behind the block. -/
theorem freeCount_widenNeighbour {addr : U16} {numElements : Byte}
    {pool widened : List U32} (inRange : addr.toNat + numElements.toNat ≤ 0x8000)
    (unicast : ∀ range ∈ pool, UnicastRange range)
    (found : widenNeighbour addr numElements pool = some widened) :
    freeCount widened (addr.toNat + numElements.toNat) =
      freeCount pool (addr.toNat + numElements.toNat) + 1 := by
  induction pool generalizing widened with
  | nil => cases found
  | cons range rest induction =>
      have ⟨_, ordered, _⟩ := unicast range List.mem_cons_self
      have later : ∀ other ∈ rest, UnicastRange other :=
        fun other member => unicast other (List.mem_cons_of_mem _ member)
      simp only [widenNeighbour, below_iff] at found
      split at found
      next above =>
        cases found
        simp only [freeCount_cons, rangeMin_packRange,
          rangeMax_packRange]
        split_ifs <;> omega
      next notAbove =>
        split at found
        next below =>
          cases found
          have newMax : (addr + numElements.setWidth 16 + 1).toNat =
              addr.toNat + numElements.toNat + 1 := by
            simp only [BitVec.toNat_add, BitVec.toNat_setWidth,
              BitVec.ofNat_eq_ofNat, BitVec.toNat_ofNat]
            omega
          simp only [freeCount_cons, rangeMin_packRange,
            rangeMax_packRange, newMax]
          split_ifs <;> omega
        next notBelow =>
          rcases Option.map_eq_some_iff.mp found with ⟨tail, inRest, equal⟩
          rw [← equal, freeCount_cons, freeCount_cons,
            induction later inRest]
          omega

/-- Without a mistaken neighbour the block comes back as a range of its own. -/
theorem netReleaseAddress_perm {addr : U16} {numElements : Byte}
    {pool : List U32}
    (apart : ∀ range ∈ pool, ¬MistakenNeighbour addr numElements range) :
    (netReleaseAddress pool addr numElements).Perm
      (packRange addr (addr + numElements.setWidth 16 - 1) :: pool) := by
  have notFound := (widenNeighbour_eq_none_iff addr numElements pool).mpr apart
  have word : addr.setWidth 32 +
      ((addr.setWidth 32 + numElements.setWidth 32 - 1) <<< 16) =
        packRange addr (addr + numElements.setWidth 16 - 1) := by
    apply BitVec.eq_of_toNat_eq
    simp only [packRange, BitVec.toNat_add, BitVec.toNat_setWidth,
      BitVec.toNat_shiftLeft, BitVec.toNat_sub, BitVec.ofNat_eq_ofNat,
      BitVec.toNat_ofNat, Nat.shiftLeft_eq]
    omega
  simp only [netReleaseAddress, notFound, word]
  exact insertRange_perm _ _

end Meshctl.Net
