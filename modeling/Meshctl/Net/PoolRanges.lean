import Meshctl.Net.AddressPool

/-! # The ranges of a pool

What an allocation and a reservation make of the range that they take a block from,
whatever the addresses of the range are.
-/

namespace Meshctl.Net

/-- An address is free if a range has it. -/
theorem freeCount_pos_iff (pool : List U32) (address : Nat) :
    0 < freeCount pool address ↔ ∃ range ∈ pool,
      (rangeMin range).toNat ≤ address ∧ address ≤ (rangeMax range).toNat := by
  simp [freeCount, Coverage.coverCount_pos_iff]

/-! ## Reserving a block -/

/-- The range that is left of an outermost one goes over all other addresses. -/
theorem TakesOutermost.inOrder {range : U32} {base : U16} {numElements : Byte}
    (outermost : TakesOutermost range base numElements) :
    base + numElements.setWidth 16 ≤ rangeMax range - numElements.setWidth 16 := by
  rcases outermost with ⟨low, whole, outer⟩
  have countBound := numElements.isLt
  have maxBound := (rangeMax range).isLt
  rw [← BitVec.toNat_inj, ← BitVec.toNat_inj] at outer
  change base.toNat = 0 ∨ (rangeMax range).toNat = 65535 at outer
  rw [BitVec.le_def]
  simp only [BitVec.toNat_sub, BitVec.toNat_add, BitVec.toNat_setWidth]
  omega

/-- It has an address that was not in the range. -/
theorem TakesOutermost.gains {range : U32} {base : U16} {numElements : Byte}
    (outermost : TakesOutermost range base numElements) :
    ∃ address : Nat,
      ¬((rangeMin range).toNat ≤ address ∧ address ≤ (rangeMax range).toNat) ∧
      (base + numElements.setWidth 16).toNat ≤ address ∧
        address ≤ (rangeMax range - numElements.setWidth 16).toNat := by
  rcases outermost with ⟨low, whole, outer⟩
  have countBound := numElements.isLt
  have maxBound := (rangeMax range).isLt
  rw [← BitVec.toNat_inj, ← BitVec.toNat_inj] at outer
  change base.toNat = 0 ∨ (rangeMax range).toNat = 65535 at outer
  subst low
  simp only [BitVec.toNat_sub, BitVec.toNat_add, BitVec.toNat_setWidth]
  rcases outer with first | last
  · exact ⟨65535, by omega, by omega, by omega⟩
  · exact ⟨0, by omega, by omega, by omega⟩

theorem rangesBeside_inOrder {range : U32} {base : U16} {numElements : Byte} :
    ∀ beside ∈ rangesBeside range base numElements,
      rangeMin beside ≤ rangeMax beside := by
  intro beside member
  have maxBound := (rangeMax range).isLt
  have countBound := numElements.isLt
  rcases List.mem_append.mp member with lower | upper
  · split at lower
    · next below =>
        rw [BitVec.lt_def] at below
        rw [List.mem_singleton.mp lower, rangeMin_packRange, rangeMax_packRange,
          BitVec.le_def]
        simp only [BitVec.toNat_sub, BitVec.ofNat_eq_ofNat, BitVec.toNat_ofNat]
        omega
    · cases lower
  · split at upper
    · next above =>
        rw [List.mem_singleton.mp upper, rangeMin_packRange, rangeMax_packRange,
          BitVec.le_def]
        simp only [BitVec.toNat_add, BitVec.toNat_setWidth]
        omega
    · cases upper

section Reserve

variable {pool : List U32} {base : U16} {numElements : Byte} {range : U32}
  (found : pool.find? (rangeHolds base numElements) = some range)
include found

/-- An end of the range that is left wraps around. -/
theorem netReserveAddressRange_outermost
    (outermost : TakesOutermost range base numElements) :
    (netReserveAddressRange pool base numElements).1 = true ∧
      (netReserveAddressRange pool base numElements).2.Perm
        (packRange (base + numElements.setWidth 16)
            (rangeMax range - numElements.setWidth 16) ::
          pool.eraseP (rangeHolds base numElements)) := by
  have ⟨low, whole, _⟩ := outermost
  have high : ((rangeMax range).toNat : Int) =
      (base.toNat : Int) + numElements.toNat - 1 := by
    omega
  have notEmpty : ¬rangeMax range - numElements.setWidth 16 <
      base + numElements.setWidth 16 :=
    BitVec.not_lt.mpr outermost.inOrder
  simp only [netReserveAddressRange, found]
  simp only [eq_true low, eq_true high, decide_true, if_true, notEmpty, if_false,
    Bool.or_self, true_and]
  exact insertRange_perm _ _

end Reserve

/-! ## Obtaining a block -/

/-- What is left of a range when its first addresses are handed out. -/
def rangeBehind (range : U32) (numEles : Byte) : List U32 :=
  if rangeMax range < rangeMin range + numEles.setWidth 16 then []
  else [packRange (rangeMin range + numEles.setWidth 16) (rangeMax range)]

theorem netObtainAddress_cons {range : U32} {numEles : Byte}
    (fits : matchAddressRange range numEles = true) (rest : List U32) :
    netObtainAddress (range :: rest) numEles =
      (rangeMin range, rangeBehind range numEles ++ rest) := by
  rw [netObtainAddress, if_pos fits, rangeBehind]
  dsimp only
  split
  · rfl
  · rfl

/-- The block is taken from the first range that is long enough. -/
theorem netObtainAddress_found {pool : List U32} {numEles : Byte} {range : U32}
    (found : pool.find? (matchAddressRange · numEles) = some range) :
    ∃ before after, pool = before ++ range :: after ∧
      netObtainAddress pool numEles =
        (rangeMin range, before ++ rangeBehind range numEles ++ after) := by
  induction pool with
  | nil => cases found
  | cons first rest induction =>
      by_cases fits : matchAddressRange first numEles = true
      · rw [List.find?_cons, fits] at found
        cases found
        exact ⟨[], rest, rfl, netObtainAddress_cons fits rest⟩
      · rw [List.find?_cons, eq_false_of_ne_true fits] at found
        rcases induction found with ⟨before, after, rfl, obtained⟩
        refine ⟨first :: before, after, rfl, ?_⟩
        rw [netObtainAddress, if_neg fits, obtained]
        rfl

/-- No address becomes free when the end of the block does not wrap around. -/
theorem freeCount_netObtainAddress_le {pool : List U32} {numEles : Byte} {range : U32}
    (found : pool.find? (matchAddressRange · numEles) = some range)
    (noWrap : (rangeMin range).toNat + numEles.toNat < 65536) (address : Nat) :
    freeCount (netObtainAddress pool numEles).2 address ≤ freeCount pool address := by
  rcases netObtainAddress_found found with ⟨before, after, rfl, obtained⟩
  have next : (rangeMin range + numEles.setWidth 16).toNat =
      (rangeMin range).toNat + numEles.toNat := by
    simp only [BitVec.toNat_add, BitVec.toNat_setWidth]
    omega
  rw [obtained, freeCount_append, freeCount_append, freeCount_append, freeCount_cons,
    rangeBehind]
  split
  · rw [freeCount_nil]
    omega
  · rw [freeCount_cons, freeCount_nil, rangeMin_packRange, rangeMax_packRange, next]
    split_ifs <;> omega

theorem netObtainAddress_notFound {pool : List U32} {numEles : Byte}
    (notFound : pool.find? (matchAddressRange · numEles) = none) :
    netObtainAddress pool numEles = (unassignedAddress, pool) := by
  induction pool with
  | nil => rfl
  | cons first rest induction =>
      rw [List.find?_eq_none, List.forall_mem_cons] at notFound
      rw [netObtainAddress, if_neg notFound.1, induction (List.find?_eq_none.mpr notFound.2)]

end Meshctl.Net
