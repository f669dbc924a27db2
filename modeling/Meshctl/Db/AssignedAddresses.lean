import Meshctl.Db.Load
import Meshctl.Net.PoolRanges

/-! # The addresses of new nodes

The ends of the ranges come from the file, which may have any addresses in them.
-/

namespace Meshctl.Db

open Net Execution

/-! ## Reading the ranges -/

/-- No range has its lower end above the upper one. -/
def OrderedPool (pool : List U32) : Prop :=
  ∀ range ∈ pool, rangeMin range ≤ rangeMax range

theorem orderedPool_parseUnicastRange {pool result : List U32} {ranges : List Json}
    (ordered : OrderedPool pool) (accepted : parseUnicastRange pool ranges = some result) :
    OrderedPool result := by
  induction ranges generalizing pool with
  | nil =>
      cases accepted
      exact ordered
  | cons range ranges induction =>
      rw [parseUnicastRange, List.foldlM_cons] at accepted
      rcases Option.bind_eq_some_iff.mp accepted with ⟨next, isNext, later⟩
      refine induction ?_ later
      rcases Option.bind_eq_some_iff.mp isNext with ⟨low, _, isNext⟩
      rcases Option.bind_eq_some_iff.mp isNext with ⟨high, _, isNext⟩
      split at isNext
      · cases isNext
      · next inOrder =>
          cases isNext
          rw [netAddAddressPool, if_neg inOrder]
          intro other member
          rcases List.mem_append.mp member with earlier | last
          · exact ordered other earlier
          · rw [List.mem_singleton.mp last, rangeMin_packRange, rangeMax_packRange]
            exact BitVec.not_lt.mp inOrder

theorem orderedPool_readProvisioners {provisioners : List Json} {result : List U32}
    (accepted : provisioners.foldlM readProvisioner [] = some result) :
    OrderedPool result := by
  have start : OrderedPool [] := fun _ member => nomatch member
  revert accepted start
  generalize [] = pool
  induction provisioners generalizing pool with
  | nil =>
      intro accepted ordered
      cases accepted
      exact ordered
  | cons provisioner provisioners induction =>
      intro accepted ordered
      rw [List.foldlM_cons] at accepted
      rcases Option.bind_eq_some_iff.mp accepted with ⟨next, isNext, later⟩
      rcases Option.bind_eq_some_iff.mp isNext with ⟨ranges, _, isNext⟩
      rcases Option.bind_eq_some_iff.mp isNext with ⟨items, _, isNext⟩
      exact induction next later (orderedPool_parseUnicastRange ordered isNext)

/-! ## Allocations and reservations -/

inductive PoolInput where
  | obtain (numEles : Byte)
  | reserve (base : U16) (numElements : Byte)

/-- An observation is the address that a new node is given; zero is taken for a
failure. -/
def poolModel : Model (List U32) PoolInput (Option U16) where
  step pool
    | .obtain numEles =>
        let (addr, pool) := netObtainAddress pool numEles
        ⟨pool, if addr = unassignedAddress then none else some addr⟩
    | .reserve base numElements => ⟨(netReserveAddressRange pool base numElements).2, none⟩

/-- Unicast addresses are handed out, and the ranges that are left are in order and
have no addresses that were not free before. -/
structure AssignsUnicast (entry : Entry (List U32) PoolInput (Option U16)) : Prop where
  unicast : ∀ numEles addr, entry.input = .obtain numEles →
    entry.observation = some addr →
    ∀ index < numEles.toNat, 1 ≤ addr.toNat + index ∧ addr.toNat + index ≤ 0x7fff
  ordered : OrderedPool entry.after
  unwrapped : ∀ address, freeCount entry.after address ≤ freeCount entry.before address

/-- A block comes from a range that has unicast addresses for it, unless the range begins
with the unassigned address; and no reservation takes a range as a whole that begins with
the first of all addresses or ends with the last one. -/
def TakesUnicast (pool : List U32) : PoolInput → Prop
  | .obtain numEles => ∀ range, pool.find? (matchAddressRange · numEles) = some range →
      numEles = 0 ∨ rangeMin range = 0 ∨
        (rangeMin range).toNat + numEles.toNat ≤ 0x8000
  | .reserve base numElements => ∀ range,
      pool.find? (rangeHolds base numElements) = some range →
      ¬TakesOutermost range base numElements

section Steps

variable {pool : List U32} (ordered : OrderedPool pool)
include ordered

theorem orderedPool_obtain (numEles : Byte) :
    OrderedPool (netObtainAddress pool numEles).2 := by
  cases found : pool.find? (matchAddressRange · numEles) with
  | none =>
      rw [netObtainAddress_notFound found]
      exact ordered
  | some range =>
      rcases netObtainAddress_found found with ⟨before, after, rfl, obtained⟩
      rw [obtained]
      intro other member
      rcases List.mem_append.mp member with front | behind
      · rcases List.mem_append.mp front with earlier | rest
        · exact ordered other (List.mem_append_left _ earlier)
        · rw [rangeBehind] at rest
          split at rest
          · cases rest
          · next inOrder =>
              rw [List.mem_singleton.mp rest, rangeMin_packRange, rangeMax_packRange]
              exact BitVec.not_lt.mp inOrder
      · exact ordered other (List.mem_append_right _ (List.mem_cons_of_mem _ behind))

omit ordered in
/-- The first address of the range is given to the node, if it is not zero. -/
theorem obtain_observation {numEles : Byte} {range : U32}
    (found : pool.find? (matchAddressRange · numEles) = some range) (addr : U16) :
    (poolModel.entry pool (.obtain numEles)).observation = some addr ↔
      rangeMin range ≠ 0 ∧ rangeMin range = addr := by
  rcases netObtainAddress_found found with ⟨before, after, _, obtained⟩
  rw [Model.entry_observation]
  simp only [poolModel, obtained]
  change (if rangeMin range = 0 then none else some (rangeMin range)) = some addr ↔ _
  split
  · next zero => exact iff_of_false (fun isSome => nomatch isSome) fun both => both.1 zero
  · next assigned => rw [Option.some_inj, and_iff_right assigned]

theorem obtain_assignsUnicast_iff (numEles : Byte) :
    AssignsUnicast (poolModel.entry pool (.obtain numEles)) ↔
      TakesUnicast pool (.obtain numEles) := by
  have stays := orderedPool_obtain ordered numEles
  cases found : pool.find? (matchAddressRange · numEles) with
  | none =>
      have obtained := netObtainAddress_notFound found
      refine iff_of_true ⟨fun count addr _ isAddr => ?_, stays, fun address => ?_⟩
        fun range isFound => ?_
      · rw [Model.entry_observation] at isAddr
        simp only [poolModel, obtained, if_true] at isAddr
        cases isAddr
      · change freeCount (netObtainAddress pool numEles).2 address ≤
          freeCount pool address
        rw [obtained]
      · rw [found] at isFound
        cases isFound
  | some range =>
      have minBound := (rangeMin range).isLt
      have countBound := numEles.isLt
      have noElements : numEles = 0 ↔ numEles.toNat = 0 := BitVec.toNat_inj.symm
      have isZero : rangeMin range = 0 ↔ (rangeMin range).toNat = 0 :=
        BitVec.toNat_inj.symm
      have takes : TakesUnicast pool (.obtain numEles) ↔ numEles = 0 ∨
          rangeMin range = 0 ∨ (rangeMin range).toNat + numEles.toNat ≤ 0x8000 := by
        rw [TakesUnicast]
        simp only [found, Option.some_inj, forall_eq']
      rw [takes, noElements, isZero]
      constructor
      · intro assigns
        by_contra beyond
        rw [not_or, not_or, ← isZero] at beyond
        have given := (obtain_observation found _).mpr ⟨beyond.2.1, rfl⟩
        have last := assigns.unicast numEles _ rfl given (numEles.toNat - 1) (by omega)
        omega
      · intro inRange
        refine ⟨fun count addr isInput isAddr index inBlock => ?_, stays,
          freeCount_netObtainAddress_le found (by omega)⟩
        cases isInput
        rcases (obtain_observation found addr).mp isAddr with ⟨assigned, rfl⟩
        rw [ne_eq, isZero] at assigned
        omega

theorem orderedPool_reserve (base : U16) (numElements : Byte) :
    OrderedPool (netReserveAddressRange pool base numElements).2 := by
  cases found : pool.find? (rangeHolds base numElements) with
  | none =>
      rw [netReserveAddressRange, found]
      exact ordered
  | some range =>
      have kept : ∀ other ∈ pool.eraseP (rangeHolds base numElements),
          rangeMin other ≤ rangeMax other :=
        fun other member => ordered other (List.mem_of_mem_eraseP member)
      intro other member
      by_cases outermost : TakesOutermost range base numElements
      · have permutation := (netReserveAddressRange_outermost found outermost).2
        rcases List.mem_cons.mp (permutation.mem_iff.mp member) with rfl | rest
        · rw [rangeMin_packRange, rangeMax_packRange]
          exact TakesOutermost.inOrder outermost
        · exact kept other rest
      · have permutation := (netReserveAddressRange_beside found outermost).2
        rcases List.mem_append.mp (permutation.mem_iff.mp member) with beside | rest
        · exact rangesBeside_inOrder other beside
        · exact kept other rest

theorem reserve_assignsUnicast_iff (base : U16) (numElements : Byte) :
    AssignsUnicast (poolModel.entry pool (.reserve base numElements)) ↔
      TakesUnicast pool (.reserve base numElements) := by
  have stays : AssignsUnicast (poolModel.entry pool (.reserve base numElements)) ↔
      ∀ address, freeCount (netReserveAddressRange pool base numElements).2 address ≤
        freeCount pool address :=
    ⟨fun assigns => assigns.unwrapped, fun unwrapped =>
      ⟨fun _ _ isInput => (nomatch isInput), orderedPool_reserve ordered base numElements,
        unwrapped⟩⟩
  rw [stays]
  cases found : pool.find? (rangeHolds base numElements) with
  | none =>
      refine iff_of_true (fun address => ?_) (fun range isFound => ?_)
      · rw [netReserveAddressRange, found]
      · rw [found] at isFound
        cases isFound
  | some range =>
      have takes : TakesUnicast pool (.reserve base numElements) ↔
          ¬TakesOutermost range base numElements := by
        rw [TakesUnicast]
        simp only [found, Option.some_inj, forall_eq']
      rw [takes]
      have isBefore := perm_cons_eraseP_of_find found
      constructor
      · intro unwrapped outermost
        have isAfter := (netReserveAddressRange_outermost found outermost).2
        rcases TakesOutermost.gains outermost with ⟨address, outside, inside⟩
        have count := unwrapped address
        rw [freeCount_perm isAfter, freeCount_perm isBefore, freeCount_cons, freeCount_cons,
          rangeMin_packRange, rangeMax_packRange, if_pos inside, if_neg outside] at count
        omega
      · intro notOutermost address
        have isAfter := (netReserveAddressRange_beside found notOutermost).2
        rw [freeCount_perm isAfter, freeCount_perm isBefore, freeCount_cons,
          freeCount_append, ← freeCount_rangesBeside (List.find?_some found) address]
        omega

end Steps

/-! ## Runs -/

section Runs

variable {pool : List U32}

theorem step_assignsUnicast_iff (ordered : OrderedPool pool) (input : PoolInput) :
    AssignsUnicast (poolModel.entry pool input) ↔ TakesUnicast pool input := by
  cases input with
  | obtain numEles => exact obtain_assignsUnicast_iff ordered numEles
  | reserve base numElements => exact reserve_assignsUnicast_iff ordered base numElements

theorem orderedPool_step (ordered : OrderedPool pool) (input : PoolInput) :
    OrderedPool (poolModel.step pool input).nextState := by
  cases input with
  | obtain numEles => exact orderedPool_obtain ordered numEles
  | reserve base numElements => exact orderedPool_reserve ordered base numElements

theorem run_assignsUnicast_iff (ordered : OrderedPool pool) (inputs : List PoolInput) :
    (∀ entry ∈ poolModel.trace pool inputs, AssignsUnicast entry) ↔
      ∀ entry ∈ poolModel.trace pool inputs, TakesUnicast entry.before entry.input :=
  poolModel.forall_trace_iff OrderedPool
    (fun entry => TakesUnicast entry.before entry.input) AssignsUnicast
    (fun _ input ordered _ => orderedPool_step ordered input)
    (fun _ input ordered => step_assignsUnicast_iff ordered input) inputs ordered

/-! ## Files -/

def UnicastPool (pool : List U32) : Prop := ∀ range ∈ pool, UnicastRange range

theorem UnicastPool.takesUnicast (unicast : UnicastPool pool) (input : PoolInput) :
    TakesUnicast pool input := by
  cases input with
  | obtain numEles =>
      intro range found
      have fits := List.find?_some found
      have ⟨_, _, last⟩ := unicast range (List.mem_of_find?_eq_some found)
      simp only [matchAddressRange, decide_eq_true_eq] at fits
      omega
  | reserve base numElements =>
      rintro range found ⟨low, _, first | last⟩
      · have ⟨positive, _, _⟩ := unicast range (List.mem_of_find?_eq_some found)
        rw [← low, first] at positive
        exact absurd positive (by decide)
      · have ⟨_, _, bound⟩ := unicast range (List.mem_of_find?_eq_some found)
        rw [last] at bound
        exact absurd bound (by decide)

theorem UnicastPool.step (unicast : UnicastPool pool) (input : PoolInput) :
    UnicastPool (poolModel.step pool input).nextState := by
  have inOrder : OrderedPool pool := fun range member => (unicast range member).ordered
  have nextInOrder := orderedPool_step inOrder input
  have takes := unicast.takesUnicast input
  have stays := ((step_assignsUnicast_iff inOrder input).mpr takes).unwrapped
  intro range member
  have ordered := BitVec.le_def.mp (nextInOrder range member)
  -- Both ends of a range that is left were free before.
  have wasFree : ∀ address, (rangeMin range).toNat ≤ address →
      address ≤ (rangeMax range).toNat → 1 ≤ address ∧ address ≤ 0x7fff := by
    intro address above below
    have free : 0 < freeCount (poolModel.step pool input).nextState address :=
      (freeCount_pos_iff _ _).mpr ⟨range, member, above, below⟩
    rcases (freeCount_pos_iff pool address).mp (free.trans_le (stays address)) with
      ⟨other, isOther, otherAbove, otherBelow⟩
    have ⟨positive, _, last⟩ := unicast other isOther
    omega
  have first := wasFree (rangeMin range).toNat (Nat.le_refl _) ordered
  have last := wasFree (rangeMax range).toNat ordered (Nat.le_refl _)
  exact ⟨first.1, ordered, by omega⟩

theorem UnicastPool.run (unicast : UnicastPool pool) (inputs : List PoolInput) :
    ∀ entry ∈ poolModel.trace pool inputs, AssignsUnicast entry := by
  intro entry member
  have ⟨before, _⟩ := poolModel.invariant_of_mem_trace UnicastPool (fun _ => True)
    (fun _ input unicast _ => unicast.step input) unicast (fun _ _ => trivial) member
  rw [poolModel.entry_of_mem_trace member]
  exact (step_assignsUnicast_iff (fun range member => (before range member).ordered) _).mpr
    (before.takesUnicast _)

/-- What holds of all runs from a pool holds of all runs from the pool after a step. -/
theorem runs_step {Property : Entry (List U32) PoolInput (Option U16) → Prop}
    (holds : ∀ inputs, ∀ entry ∈ poolModel.trace pool inputs, Property entry)
    (input : PoolInput) :
    ∀ inputs, ∀ entry ∈ poolModel.trace (poolModel.step pool input).nextState inputs,
      Property entry :=
  fun inputs entry member => holds (input :: inputs) entry (List.mem_cons_of_mem _ member)

theorem runs_takesUnicast (ordered : OrderedPool pool)
    (assigns : ∀ inputs, ∀ entry ∈ poolModel.trace pool inputs, AssignsUnicast entry)
    (input : PoolInput) : TakesUnicast pool input :=
  (step_assignsUnicast_iff ordered input).mp (assigns [input] _ List.mem_cons_self)

/-- When the unassigned address is a range of its own, reserving it leaves a range that
wraps around. -/
theorem not_takesUnicast_zero {range : U32} (member : range ∈ pool)
    (isZero : rangeMin range = 0)
    (alone : ∀ other ∈ pool, rangeMin other = 0 → rangeMax other = 0) :
    ¬TakesUnicast pool (.reserve 0 1) := by
  intro takes
  cases found : pool.find? (rangeHolds 0 1) with
  | none =>
      have notHeld := List.find?_eq_none.mp found range member
      simp [rangeHolds, isZero] at notHeld
  | some first =>
      have holds := List.find?_some found
      have starts : rangeMin first = 0 := by
        simp only [rangeHolds, decide_eq_true_eq] at holds
        exact BitVec.le_zero_iff.mp holds.1
      have ends := alone first (List.mem_of_find?_eq_some found) starts
      exact takes first found ⟨starts.symm, by rw [ends]; rfl, Or.inl rfl⟩

/-- A range that begins with the unassigned address, in front of ranges that do not. -/
theorem not_runs_of_zero {range : U32} {rest : List U32} (isZero : rangeMin range = 0)
    (ordered : OrderedPool (range :: rest)) (unicast : UnicastPool rest) :
    ¬∀ inputs, ∀ entry ∈ poolModel.trace (range :: rest) inputs, AssignsUnicast entry := by
  intro assigns
  have notZero : ∀ other ∈ rest, rangeMin other ≠ 0 := by
    intro other member otherZero
    have positive := (unicast other member).positive
    rw [otherZero] at positive
    exact absurd positive (by decide)
  by_cases single : rangeMax range = 0
  · apply not_takesUnicast_zero List.mem_cons_self isZero _
      (runs_takesUnicast ordered assigns (.reserve 0 1))
    intro other member otherZero
    rcases List.mem_cons.mp member with rfl | later
    · exact single
    · exact absurd otherZero (notZero other later)
  · -- Reserving the second address leaves the first one alone.
    have holds : rangeHolds 1 1 range = true := by
      rw [← BitVec.toNat_inj] at single
      change ¬(rangeMax range).toNat = 0 at single
      simp only [rangeHolds, isZero, decide_eq_true_eq]
      refine ⟨by decide, ?_⟩
      change (1 : Int) + 1 - 1 ≤ _
      omega
    have found : (range :: rest).find? (rangeHolds 1 1) = some range :=
      List.find?_cons_of_pos holds
    have notOutermost : ¬TakesOutermost range 1 1 := by
      rintro ⟨low, _⟩
      rw [isZero] at low
      exact absurd low (by decide)
    have isNext := (netReserveAddressRange_beside found notOutermost).2
    rw [List.eraseP_cons_of_pos holds, rangesBeside, isZero, if_pos (by decide)] at isNext
    apply not_takesUnicast_zero (isNext.mem_iff.mpr List.mem_cons_self)
      (rangeMin_packRange _ _) _ (runs_takesUnicast (orderedPool_reserve ordered 1 1)
        (runs_step assigns (.reserve 1 1)) (.reserve 0 1))
    intro other member otherZero
    rcases List.mem_append.mp (isNext.mem_iff.mp member) with beside | later
    · rcases List.mem_append.mp beside with lower | upper
      · rw [List.mem_singleton.mp lower, rangeMax_packRange]
        rfl
      · split at upper
        · rw [List.mem_singleton.mp upper, rangeMin_packRange] at otherZero
          exact absurd otherZero (by decide)
        · cases upper
    · exact absurd otherZero (notZero other later)

def poolSize (pool : List U32) : Nat :=
  (pool.map fun range => (rangeMax range).toNat + 1 - (rangeMin range).toNat).sum

theorem poolSize_rangeBehind_lt {range : U32}
    (inOrder : (rangeMin range).toNat ≤ (rangeMax range).toNat)
    (newMin : (rangeMin range + (1 : Byte).setWidth 16).toNat = (rangeMin range).toNat + 1)
    (rest : List U32) : poolSize (rangeBehind range 1 ++ rest) < poolSize (range :: rest) := by
  rw [rangeBehind]
  simp only [poolSize, BitVec.lt_def, newMin]
  split
  · simp only [List.nil_append, List.map_cons, List.sum_cons]
    omega
  · simp only [List.singleton_append, List.map_cons, List.sum_cons, rangeMin_packRange,
      rangeMax_packRange, newMin]
    omega

/-- All addresses of the pool are handed out when nodes of one element are added. -/
theorem unicastPool_of_runs (ordered : OrderedPool pool)
    (assigns : ∀ inputs, ∀ entry ∈ poolModel.trace pool inputs, AssignsUnicast entry) :
    UnicastPool pool := by
  induction isSize : poolSize pool using Nat.strong_induction_on generalizing pool with
  | _ size smaller =>
      cases pool with
      | nil => exact fun _ member => nomatch member
      | cons range rest =>
          have inOrder := BitVec.le_def.mp (ordered range List.mem_cons_self)
          have fits : matchAddressRange range 1 = true := by
            simp only [matchAddressRange, decide_eq_true_eq]
            change (1 : Int) - 1 ≤ _
            omega
          have next : (poolModel.step (range :: rest) (.obtain 1)).nextState =
              rangeBehind range 1 ++ rest := by
            change (netObtainAddress (range :: rest) 1).2 = _
            rw [netObtainAddress_cons fits]
          have takes := runs_takesUnicast ordered assigns (.obtain 1) range
            (List.find?_cons_of_pos fits)
          have nextOrdered := orderedPool_step ordered (.obtain 1)
          have nextAssigns := runs_step assigns (.obtain 1)
          rw [next] at nextOrdered nextAssigns
          have isZero : rangeMin range = 0 ↔ (rangeMin range).toNat = 0 :=
            BitVec.toNat_inj.symm
          have lowBound : (rangeMin range).toNat ≤ 0x7fff := by
            rcases takes with none | zero | below
            · exact absurd none (by decide)
            · rw [isZero.mp zero]
              exact Nat.zero_le _
            · change (rangeMin range).toNat + 1 ≤ 0x8000 at below
              omega
          have newMin : (rangeMin range + (1 : Byte).setWidth 16).toNat =
              (rangeMin range).toNat + 1 := by
            rw [BitVec.toNat_add]
            change ((rangeMin range).toNat + 1) % 65536 = _
            omega
          have less := isSize ▸ poolSize_rangeBehind_lt inOrder newMin rest
          have nextUnicast := smaller _ less nextOrdered nextAssigns rfl
          have restUnicast : UnicastPool rest := fun other member =>
            nextUnicast other (List.mem_append_right _ member)
          have positive : (rangeMin range).toNat ≠ 0 := fun zero =>
            not_runs_of_zero (isZero.mpr zero) ordered restUnicast assigns
          intro other member
          rcases List.mem_cons.mp member with rfl | later
          · refine ⟨Nat.pos_of_ne_zero positive, inOrder, ?_⟩
            by_cases left : rangeMax other < rangeMin other + (1 : Byte).setWidth 16
            · rw [BitVec.lt_def, newMin] at left
              omega
            · have behind : packRange (rangeMin other + (1 : Byte).setWidth 16)
                  (rangeMax other) ∈ rangeBehind other 1 ++ rest := by
                rw [rangeBehind, if_neg left]
                exact List.mem_cons_self
              have last := (nextUnicast _ behind).unicast
              rwa [rangeMax_packRange] at last
          · exact restUnicast other later

/-- For the ranges of every database: a run assigns unicast addresses exactly when each of
its steps takes them, and all runs do exactly when the ranges have no other addresses. -/
theorem assigns_unicast_iff (provisioners : List Json) {pool : List U32}
    (accepted : provisioners.foldlM readProvisioner [] = some pool) :
    OrderedPool pool ∧
      (∀ inputs, (∀ entry ∈ poolModel.trace pool inputs, AssignsUnicast entry) ↔
        ∀ entry ∈ poolModel.trace pool inputs, TakesUnicast entry.before entry.input) ∧
      ((∀ inputs, ∀ entry ∈ poolModel.trace pool inputs, AssignsUnicast entry) ↔
        UnicastPool pool) := by
  have ordered := orderedPool_readProvisioners accepted
  exact ⟨ordered, run_assignsUnicast_iff ordered, unicastPool_of_runs ordered,
    UnicastPool.run⟩

end Runs

/-! ## Ranges of other addresses -/

/-- A provisioner with one range of addresses. -/
def provisionerWith (lowAddress highAddress : String) : Json :=
  .object [("allocatedUnicastRange", .array [.object
    [("lowAddress", .string lowAddress), ("highAddress", .string highAddress)]])]

/-- A file with unicast addresses only. -/
theorem assigns_unicast_all :
    OrderedPool [packRange 0x0005 0x7fff] ∧
      ∀ inputs, ∀ entry ∈ poolModel.trace [packRange 0x0005 0x7fff] inputs,
        AssignsUnicast entry := by
  have accepted : [provisionerWith "0005" "7fff"].foldlM readProvisioner [] =
      some [packRange 0x0005 0x7fff] := by
    decide
  have ⟨ordered, _, allRuns⟩ := assigns_unicast_iff _ accepted
  refine ⟨ordered, allRuns.mpr fun range member => ?_⟩
  rw [List.mem_singleton.mp member]
  exact ⟨by decide, by decide, by decide⟩

/-- The addresses of groups are handed out when the file says so. -/
theorem assigned_not_always_unicast :
    ¬∀ (provisioners : List Json) pool inputs,
        provisioners.foldlM readProvisioner [] = some pool →
      ∀ entry ∈ poolModel.trace pool inputs, AssignsUnicast entry := by
  intro assigns
  have assigned := assigns [provisionerWith "c000" "c0ff"] [packRange 0xc000 0xc0ff]
    [.obtain 1] (by decide) _ List.mem_cons_self
  have inRange := assigned.unicast 1 0xc000 rfl (by decide) 0 (by decide)
  exact absurd inRange.2 (by decide)

end Meshctl.Db
