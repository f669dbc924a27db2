import Meshctl.Net.AddressPool

/-! # What a taken block leaves

A pool of disjoint ranges as the set of its free addresses. Taking a block from
the pool takes the addresses of the block from the set.
-/

namespace Meshctl.Net

open Coverage

/-! ## Pools as sets -/

/-- Disjoint ranges of unicast addresses. -/
structure FreePool (pool : List U32) : Prop where
  unicast : ∀ range ∈ pool, UnicastRange range
  disjoint : (pool.map rangeAddresses).Pairwise Disjoint

def poolAddresses (pool : List U32) : Finset Nat :=
  union (pool.map rangeAddresses)

def blockAddresses (base count : Nat) : Finset Nat :=
  Finset.Ico base (base + count)

theorem mem_poolAddresses (pool : List U32) (address : Nat) :
    address ∈ poolAddresses pool ↔ 0 < freeCount pool address := by
  rw [poolAddresses, mem_union, freeCount, coverCount_pos_iff]

theorem mem_blockAddresses (base count address : Nat) :
    address ∈ blockAddresses base count ↔
      base ≤ address ∧ address < base + count := by
  rw [blockAddresses, Finset.mem_Ico]

theorem FreePool.freeCount_le_one {pool : List U32} (free : FreePool pool)
    (address : Nat) : freeCount pool address ≤ 1 :=
  (pairwise_disjoint_iff _).mp free.disjoint address

/-- A pool that lost exactly the addresses of a block. -/
structure Removes (before after : List U32) (base count : Nat) : Prop where
  free : FreePool after
  addresses : poolAddresses after =
    poolAddresses before \ blockAddresses base count

theorem TakesBlock.removes {before after : List U32} {base count : Nat}
    (free : FreePool before) (taken : TakesBlock before after base count) :
    Removes before after base count := by
  refine ⟨⟨taken.unicast, (pairwise_disjoint_iff _).mpr fun address => ?_⟩, ?_⟩
  · have once := free.freeCount_le_one address
    rw [taken.moved address] at once
    exact Nat.le_trans (Nat.le_add_right _ _) once
  · ext address
    have once := free.freeCount_le_one address
    have moved := taken.moved address
    rw [Finset.mem_sdiff, mem_poolAddresses, mem_poolAddresses,
      mem_blockAddresses]
    split at moved <;> omega

/-! ## Reserving a block -/

/-- A block that is not empty lies in a range if its ends do. -/
theorem rangeHolds_iff {base : U16} {numElements : Byte} {range : U32}
    (positive : 0 < numElements.toNat) :
    rangeHolds base numElements range = true ↔
      blockAddresses base.toNat numElements.toNat ⊆ rangeAddresses range := by
  simp only [rangeHolds, decide_eq_true_eq, BitVec.le_def]
  constructor
  · intro ends address inBlock
    rw [mem_blockAddresses] at inBlock
    rw [mem_rangeAddresses]
    omega
  · intro inside
    have first := inside ((mem_blockAddresses _ _ _).mpr
      ⟨Nat.le_refl base.toNat, by omega⟩)
    have last := inside ((mem_blockAddresses base.toNat numElements.toNat
      (base.toNat + numElements.toNat - 1)).mpr (by omega))
    rw [mem_rangeAddresses] at first last
    omega

/-- What a reservation returns and leaves. -/
structure ReservesExactly (pool : List U32) (base : U16) (numElements : Byte)
    (reserved : Bool × List U32) : Prop where
  succeeds : reserved.1 = true ↔ ∃ range ∈ pool,
    blockAddresses base.toNat numElements.toNat ⊆ rangeAddresses range
  taken : reserved.1 = true →
    Removes pool reserved.2 base.toNat numElements.toNat
  refused : reserved.1 = false → reserved.2 = pool

theorem netReserveAddressRange_exact {pool : List U32} (free : FreePool pool)
    (base : U16) {numElements : Byte} (positive : 0 < numElements.toNat) :
    ReservesExactly pool base numElements
      (netReserveAddressRange pool base numElements) := by
  have isHeld : (∃ range ∈ pool,
      blockAddresses base.toNat numElements.toNat ⊆ rangeAddresses range) ↔
      ∃ range ∈ pool, rangeHolds base numElements range = true :=
    exists_congr fun range => and_congr_right fun _ =>
      (rangeHolds_iff positive).symm
  cases found : pool.find? (rangeHolds base numElements) with
  | none =>
      have refused : netReserveAddressRange pool base numElements =
          (false, pool) := by
        simp [netReserveAddressRange, found]
      rw [refused]
      refine ⟨?_, fun absurd => (by cases absurd), fun _ => rfl⟩
      rw [isHeld]
      apply iff_of_false Bool.false_ne_true
      rintro ⟨range, member, holds⟩
      exact List.find?_eq_none.mp found range member holds
  | some range =>
      have member := List.mem_of_find?_eq_some found
      have succeeded :=
        (netReserveAddressRange_found (free.unicast range member) found).1
      refine ⟨?_, fun _ => ?_, fun failed => ?_⟩
      · rw [isHeld]
        exact iff_of_true succeeded ⟨range, member, List.find?_some found⟩
      · rcases netReserveAddressRange_spec base numElements pool
          free.unicast with refused | ⟨_, taken⟩
        · rw [refused] at succeeded
          cases succeeded
        · exact taken.removes free
      · rw [succeeded] at failed
        cases failed

/-! ## Obtaining a block -/

theorem matchAddressRange_iff {range : U32} {numEles : Byte}
    (unicast : UnicastRange range) :
    matchAddressRange range numEles = true ↔
      numEles.toNat ≤ (rangeAddresses range).card := by
  have ordered := unicast.ordered
  rw [matchAddressRange, rangeAddresses, Nat.card_Icc]
  simp only [decide_eq_true_eq]
  omega

/-- What a request for a block of any place returns and leaves: the lowest
addresses of the first range that is long enough. -/
structure ObtainsExactly (pool : List U32) (numEles : Byte)
    (obtained : U16 × List U32) : Prop where
  refused : (∀ range ∈ pool, (rangeAddresses range).card < numEles.toNat) →
    obtained = (unassignedAddress, pool)
  taken : ∀ before range after, pool = before ++ range :: after →
    (∀ earlier ∈ before, (rangeAddresses earlier).card < numEles.toNat) →
    numEles.toNat ≤ (rangeAddresses range).card →
    obtained.1 = rangeMin range ∧
      blockAddresses obtained.1.toNat numEles.toNat ⊆ rangeAddresses range ∧
      Removes pool obtained.2 obtained.1.toNat numEles.toNat

/-- Ranges that are too short are passed. -/
theorem netObtainAddress_append {before rest : List U32} {numEles : Byte}
    (short : ∀ range ∈ before, ¬matchAddressRange range numEles = true) :
    netObtainAddress (before ++ rest) numEles =
      ((netObtainAddress rest numEles).1,
        before ++ (netObtainAddress rest numEles).2) := by
  induction before with
  | nil => rfl
  | cons range before induction =>
      rcases List.forall_mem_cons.mp short with ⟨here, later⟩
      rw [List.cons_append, netObtainAddress, if_neg here, induction later]
      rfl

theorem netObtainAddress_first {range : U32} {numEles : Byte}
    (fits : matchAddressRange range numEles = true) (rest : List U32) :
    (netObtainAddress (range :: rest) numEles).1 = rangeMin range := by
  rw [netObtainAddress, if_pos fits]
  dsimp only
  split <;> rfl

theorem netObtainAddress_exact {pool : List U32} (free : FreePool pool)
    {numEles : Byte} (positive : 0 < numEles.toNat) :
    ObtainsExactly pool numEles (netObtainAddress pool numEles) := by
  have short_iff : ∀ range ∈ pool,
      (rangeAddresses range).card < numEles.toNat ↔
        ¬matchAddressRange range numEles = true := by
    intro range member
    rw [matchAddressRange_iff (free.unicast range member), Nat.not_le]
  constructor
  · intro allShort
    have passed := @netObtainAddress_append pool [] numEles fun range member =>
      (short_iff range member).mp (allShort range member)
    rw [List.append_nil] at passed
    rw [passed, netObtainAddress, List.append_nil]
  · intro before range after split short long
    subst split
    have unicast := free.unicast range
      (List.mem_append_right _ List.mem_cons_self)
    have fits := (matchAddressRange_iff unicast).mpr long
    have passed := @netObtainAddress_append before (range :: after) numEles
      fun earlier member => (short_iff earlier
        (List.mem_append_left _ member)).mp (short earlier member)
    have isMin : (netObtainAddress (before ++ range :: after) numEles).1 =
        rangeMin range := by
      rw [passed]
      exact netObtainAddress_first fits after
    refine ⟨isMin, ?_, ?_⟩
    · intro address inBlock
      rw [isMin, mem_blockAddresses] at inBlock
      rw [rangeAddresses, Nat.card_Icc] at long
      rw [mem_rangeAddresses]
      omega
    · rcases netObtainAddress_spec numEles positive _ free.unicast with
        ⟨isUnassigned, _⟩ | taken
      · have minPositive := unicast.positive
        rw [← isMin, isUnassigned] at minPositive
        exact absurd minPositive (by decide)
      · exact taken.removes free

/-! ## The claim about both operations -/

theorem addresses_taken_exactly {pool : List U32} (free : FreePool pool)
    {count : Byte} (positive : 1 ≤ count.toNat) :
    (∀ base : U16, ReservesExactly pool base count
      (netReserveAddressRange pool base count)) ∧
    ObtainsExactly pool count (netObtainAddress pool count) :=
  ⟨fun base => netReserveAddressRange_exact free base positive,
    netObtainAddress_exact free positive⟩

theorem addresses_taken_exactly_two_ranges :
    (∀ base : U16, ReservesExactly [packRange 1 4, packRange 6 9] base 2
      (netReserveAddressRange [packRange 1 4, packRange 6 9] base 2)) ∧
    ObtainsExactly [packRange 1 4, packRange 6 9] 2
      (netObtainAddress [packRange 1 4, packRange 6 9] 2) := by
  have free : FreePool [packRange 1 4, packRange 6 9] := by
    constructor
    · intro range member
      rcases List.mem_pair.mp member with isFirst | isSecond
      · subst isFirst
        exact ⟨by decide, by decide, by decide⟩
      · subst isSecond
        exact ⟨by decide, by decide, by decide⟩
    · decide
  exact addresses_taken_exactly free (by decide)

end Meshctl.Net
