import Meshctl.Net.BeaconSafety
import Meshctl.Net.Restart

/-! # Sequence numbers across restarts

A reservation that was stored is ahead of every number that was handed out. The
loading side refuses reservations of more than 24 bits.
-/

namespace Meshctl.Net

open Execution

/-- If the process stopped now, the first sequence number after the restart would
be greater than every one that was handed out. -/
def CrashSafe (state : SeqState) : Prop :=
  ∀ seq ∈ state.handed, seq < (getNextSeq (restarted state.net.stored)).1

/-- Nothing was handed out, or the stored reservation can be loaded. -/
def Reloadable (state : SeqState) : Prop :=
  state.handed = [] ∨ state.net.stored.sequenceNumber.toNat ≤ 0xffffff

/-! ## What a restart loads -/

section Restarted

variable {stored : StoredLocal}

theorem restarted_eq (loads : stored.sequenceNumber.toNat ≤ 0xffffff) :
    restarted stored =
      { NetState.zero with
        stored
        ivIndex := stored.ivIndex
        ivUpdate := stored.ivUpdate
        seqNum := stored.sequenceNumber } := by
  rw [restarted, parseLocalNode, netSetSeqNum]
  exact congrArg Prod.snd (if_neg (Nat.not_lt.mpr loads))

theorem restarted_refused (refused : 0xffffff < stored.sequenceNumber.toNat) :
    (restarted stored).seqNum = 0 := by
  rw [restarted, parseLocalNode, netSetSeqNum]
  exact congrArg NetState.seqNum (congrArg Prod.snd (if_pos refused))

theorem getNextSeq_fst (st : NetState) : (getNextSeq st).1 = st.seqNum := by
  rw [getNextSeq_eq, takeSeq]

@[simp] theorem restarted_stored : (restarted stored).stored = stored := by
  rw [restarted, parseLocalNode, netSetSeqNum]
  split
  · rfl
  · rfl

@[simp] theorem restarted_seqNumReserved :
    (restarted stored).seqNumReserved = 0 := by
  rw [restarted, parseLocalNode, netSetSeqNum]
  split
  · rfl
  · rfl

end Restarted

/-! ## The invariant -/

/-- A reservation is the stored one, or nothing was reserved since the process
started. -/
def Reserves (st : NetState) : Prop :=
  st.seqNumReserved = 0 ∨ st.seqNumReserved = st.stored.sequenceNumber

def PhaseInvariant (st : NetState) (handed : List U32) : SeqPhase → Prop
  | .idle => st.seqNum.toNat ≤ 0xffffff ∧ Reserves st
  | .taken thisSeq =>
      st.seqNum.toNat = thisSeq.toNat + 1 ∧ thisSeq.toNat ≤ 0xffffff ∧
        (∀ seq ∈ handed, seq.toNat < thisSeq.toNat) ∧ Reserves st
  | .reserved thisSeq =>
      st.seqNum.toNat = thisSeq.toNat + 1 ∧ thisSeq.toNat ≤ 0xffffff ∧
        thisSeq.toNat < st.stored.sequenceNumber.toNat ∧ Reserves st
  | .beaconTaken _ _ =>
      st.seqNum.toNat ≤ 0xffffff ∧ (st.seqNum = 0 ∨ Reserves st)
  | .beaconStored ivUpdate ivIndex =>
      st.seqNum.toNat ≤ 0xffffff ∧
        if storesIvState st ivUpdate ivIndex then
          st.seqNum.toNat < st.seqNumReserved.toNat
        else
          Reserves st

structure SeqInvariant (state : SeqState) : Prop where
  reloadable : Reloadable state
  behind : ∀ seq ∈ state.handed, seq.toNat < state.net.seqNum.toNat
  stored : ∀ seq ∈ state.handed,
    seq.toNat < state.net.stored.sequenceNumber.toNat
  phase : PhaseInvariant state.net state.handed state.phase

section Invariant

variable {state : SeqState}

theorem SeqInvariant.crashSafe (invariant : SeqInvariant state) :
    CrashSafe state := by
  intro seq member
  rcases invariant.reloadable with none | loads
  · rw [none] at member
    cases member
  · rw [getNextSeq_fst, restarted_eq loads]
    exact invariant.stored seq member

/-- A reservation that cannot be loaded is not safe. -/
theorem CrashSafe.reloadable (safe : CrashSafe state) : Reloadable state := by
  cases isHanded : state.handed with
  | nil => exact Or.inl isHanded
  | cons seq rest =>
      apply Or.inr
      by_contra large
      have below := safe seq (isHanded ▸ List.mem_cons_self)
      rw [getNextSeq_fst, restarted_refused (Nat.not_le.mp large)] at below
      exact Nat.not_lt_zero _ below

theorem loaded_invariant (stored : StoredLocal) :
    SeqInvariant (.loaded stored) := by
  have small : (restarted stored).seqNum.toNat ≤ 0xffffff := by
    by_cases loads : stored.sequenceNumber.toNat ≤ 0xffffff
    · rw [restarted_eq loads]
      exact loads
    · rw [restarted_refused (Nat.not_le.mp loads)]
      exact Nat.zero_le _
  constructor
  · exact Or.inl rfl
  · exact fun _ absurd => (by cases absurd)
  · exact fun _ absurd => (by cases absurd)
  · exact ⟨small, Or.inl restarted_seqNumReserved⟩

/-! ### Steps -/

theorem seqInvariant_nextSeq (invariant : SeqInvariant state) :
    SeqInvariant (seqStep state .nextSeq) := by
  have phase := invariant.phase
  rw [seqStep]
  cases isPhase : state.phase with
  | idle =>
      rw [isPhase] at phase
      have one : (1 : U32).toNat = 1 := rfl
      have next : (state.net.seqNum + 1).toNat = state.net.seqNum.toNat + 1 := by
        rw [BitVec.toNat_add, one]
        have small := phase.1
        omega
      constructor
      · exact invariant.reloadable
      · intro seq member
        show seq.toNat < (state.net.seqNum + 1).toNat
        rw [next]
        exact Nat.lt_succ_of_lt (invariant.behind seq member)
      · exact invariant.stored
      · exact ⟨next, phase.1, invariant.behind, phase.2⟩
  | taken => exact invariant
  | reserved => exact invariant
  | beaconTaken => exact invariant
  | beaconStored => exact invariant

/-- A beacon that restarts the counter leaves nothing handed out. -/
theorem seqInvariant_beacon (invariant : SeqInvariant state)
    (first ivUpdate : Bool) (ivIndex : U32) :
    SeqInvariant (seqStep state (.beacon first ivUpdate ivIndex)) := by
  have phase := invariant.phase
  rw [seqStep]
  cases isPhase : state.phase with
  | idle =>
      rw [isPhase] at phase
      cases passed : enforceWindows first ivUpdate ivIndex state.net with
      | none => exact invariant
      | some windows =>
          rcases enforceWindows_eq passed with ⟨ivUpdState, isWindows⟩
          dsimp only
          rw [restartSeq]
          by_cases restarts : restartsSeq ivUpdate ivIndex windows = true
          · rw [if_pos restarts, if_pos restarts]
            constructor
            · exact Or.inl rfl
            · exact fun _ absurd => (by cases absurd)
            · exact fun _ absurd => (by cases absurd)
            · exact ⟨Nat.zero_le _, Or.inl rfl⟩
          · rw [if_neg restarts, if_neg restarts, isWindows]
            constructor
            · exact invariant.reloadable
            · exact invariant.behind
            · exact invariant.stored
            · exact ⟨phase.1, Or.inr phase.2⟩
  | taken => exact invariant
  | reserved => exact invariant
  | beaconTaken => exact invariant
  | beaconStored => exact invariant

theorem seqInvariant_restart (invariant : SeqInvariant state) :
    SeqInvariant (seqStep state .restart) := by
  rcases invariant.reloadable with none | loads
  · have isLoaded : seqStep state .restart = .loaded state.net.stored := by
      rw [seqStep, SeqState.loaded, none]
    rw [isLoaded]
    exact loaded_invariant _
  · rw [seqStep, restarted_eq loads]
    constructor
    · exact Or.inr loads
    · exact invariant.stored
    · exact invariant.stored
    · exact ⟨loads, Or.inl rfl⟩

/-- A new reservation is ahead of the counter. -/
theorem toNat_add_hundred {seqNum : U32} (small : seqNum.toNat ≤ 0x1000000) :
    (seqNum + 100).toNat = seqNum.toNat + 100 := by
  have hundred : (100 : U32).toNat = 100 := rfl
  rw [BitVec.toNat_add, hundred]
  omega

theorem reserveSeq_spec {st : NetState} (small : st.seqNum.toNat ≤ 0x1000000)
    (reserves : Reserves st) :
    (reserveSeq st).seqNum = st.seqNum ∧ Reserves (reserveSeq st) ∧
      st.seqNum.toNat ≤ (reserveSeq st).stored.sequenceNumber.toNat := by
  have wide : (st.seqNum + 32).toNat = st.seqNum.toNat + 32 := by
    have isNat : (32 : U32).toNat = 32 := rfl
    rw [BitVec.toNat_add, isNat]
    omega
  rw [reserveSeq]
  by_cases exhausted : st.seqNumReserved ≤ st.seqNum + 32
  · rw [if_pos exhausted]
    refine ⟨rfl, Or.inr rfl, ?_⟩
    show _ ≤ (st.seqNum + 100).toNat
    rw [toNat_add_hundred small]
    omega
  · have ahead := BitVec.lt_def.mp (BitVec.not_le.mp exhausted)
    rw [if_neg exhausted]
    rcases reserves with none | isStored
    · rw [none, wide] at ahead
      exact absurd ahead (Nat.not_lt_zero _)
    · rw [isStored, wide] at ahead
      exact ⟨rfl, Or.inr isStored, by omega⟩

theorem storeIvIndex_spec {st : NetState} (small : st.seqNum.toNat ≤ 0x1000000)
    (fresh : st.seqNum = 0 ∨ Reserves st) (ivUpdate : Bool) (ivIndex : U32) :
    let after := storeIvIndex st ivUpdate ivIndex
    after.seqNum = st.seqNum ∧
      after.stored.sequenceNumber = st.stored.sequenceNumber ∧
      if storesIvState after ivUpdate ivIndex then
        after.seqNum.toNat < after.seqNumReserved.toNat
      else
        Reserves after := by
  by_cases stores : storesIvState st ivUpdate ivIndex = true
  · have isAfter : storeIvIndex st ivUpdate ivIndex = _ := if_pos stores
    have again : storesIvState (storeIvIndex st ivUpdate ivIndex) ivUpdate
        ivIndex = true := by
      rw [isAfter]
      exact stores
    dsimp only
    rw [if_pos again, isAfter]
    refine ⟨rfl, rfl, ?_⟩
    dsimp only
    by_cases exhausted : st.seqNumReserved ≤ st.seqNum
    · rw [if_pos exhausted, toNat_add_hundred small]
      omega
    · rw [if_neg exhausted]
      exact BitVec.lt_def.mp (BitVec.not_le.mp exhausted)
  · have isAfter : storeIvIndex st ivUpdate ivIndex = st := if_neg stores
    have reserves : Reserves st := by
      rcases fresh with isZero | reserves
      · exact absurd (by rw [storesIvState, isZero]; rfl) stores
      · exact reserves
    rw [isAfter]
    dsimp only
    rw [if_neg stores]
    exact ⟨rfl, rfl, reserves⟩

theorem storeReservation_spec {st : NetState} {ivUpdate : Bool} {ivIndex : U32}
    (ahead : if storesIvState st ivUpdate ivIndex then
        st.seqNum.toNat < st.seqNumReserved.toNat
      else
        Reserves st) :
    let after := storeReservation st ivUpdate ivIndex
    after.seqNum = st.seqNum ∧ Reserves after ∧
      (after.stored.sequenceNumber = st.stored.sequenceNumber ∨
        st.seqNum.toNat < after.stored.sequenceNumber.toNat) := by
  by_cases stores : storesIvState st ivUpdate ivIndex = true
  · rw [if_pos stores] at ahead
    dsimp only
    rw [storeReservation, if_pos stores]
    exact ⟨rfl, Or.inr rfl, Or.inr ahead⟩
  · rw [if_neg stores] at ahead
    dsimp only
    rw [storeReservation, if_neg stores]
    exact ⟨rfl, ahead, Or.inl rfl⟩

/-- Going on to the next store. The number that is handed out in the end is one
that the reservation covers. -/
theorem seqInvariant_proceed (invariant : SeqInvariant state)
    (reloadable : Reloadable (seqStep state .proceed)) :
    SeqInvariant (seqStep state .proceed) := by
  have phase := invariant.phase
  rw [seqStep] at reloadable ⊢
  cases isPhase : state.phase with
  | idle => exact invariant
  | taken thisSeq =>
      rw [isPhase] at phase reloadable
      rcases phase with ⟨isNext, small, before, reserves⟩
      rcases reserveSeq_spec (by omega) reserves with
        ⟨sameSeq, stillReserves, covered⟩
      constructor
      · exact reloadable
      · intro seq member
        show seq.toNat < (reserveSeq state.net).seqNum.toNat
        rw [sameSeq]
        exact invariant.behind seq member
      · intro seq member
        exact Nat.lt_of_lt_of_le (invariant.behind seq member) covered
      · exact ⟨by rw [sameSeq]; exact isNext, small,
          Nat.lt_of_lt_of_le (by omega) covered, stillReserves⟩
  | reserved thisSeq =>
      rw [isPhase] at phase reloadable
      rcases phase with ⟨isNext, small, covered, reserves⟩
      have handed : ∀ seq ∈ state.handed ++ [thisSeq],
          seq ∈ state.handed ∨ seq = thisSeq := by
        intro seq member
        simpa using member
      have loads : state.net.stored.sequenceNumber.toNat ≤ 0xffffff := by
        rcases reloadable with none | loads
        · exact absurd none (by simp)
        · exact loads
      constructor
      · exact reloadable
      · intro seq member
        rcases handed seq member with earlier | isThis
        · exact invariant.behind seq earlier
        · rw [isThis, isNext]
          exact Nat.lt_succ_self _
      · intro seq member
        rcases handed seq member with earlier | isThis
        · exact invariant.stored seq earlier
        · rw [isThis]
          exact covered
      · exact ⟨by dsimp only; omega, reserves⟩
  | beaconTaken ivUpdate ivIndex =>
      rw [isPhase] at phase reloadable
      rcases storeIvIndex_spec (Nat.le_succ_of_le phase.1) phase.2 ivUpdate ivIndex with
        ⟨sameSeq, sameStored, ahead⟩
      constructor
      · exact reloadable
      · intro seq member
        show seq.toNat < (storeIvIndex state.net ivUpdate ivIndex).seqNum.toNat
        rw [sameSeq]
        exact invariant.behind seq member
      · intro seq member
        show seq.toNat < (storeIvIndex state.net ivUpdate
          ivIndex).stored.sequenceNumber.toNat
        rw [sameStored]
        exact invariant.stored seq member
      · exact ⟨by dsimp only; rw [sameSeq]; exact phase.1, ahead⟩
  | beaconStored ivUpdate ivIndex =>
      rw [isPhase] at phase reloadable
      rcases storeReservation_spec phase.2 with ⟨sameSeq, reserves, covered⟩
      constructor
      · exact reloadable
      · intro seq member
        show seq.toNat <
          (storeReservation state.net ivUpdate ivIndex).seqNum.toNat
        rw [sameSeq]
        exact invariant.behind seq member
      · intro seq member
        show seq.toNat < (storeReservation state.net ivUpdate
          ivIndex).stored.sequenceNumber.toNat
        rcases covered with sameStored | covered
        · rw [sameStored]
          exact invariant.stored seq member
        · exact Nat.lt_trans (invariant.behind seq member) covered
      · exact ⟨by dsimp only; rw [sameSeq]; exact phase.1, reserves⟩

theorem seqStep_invariant (invariant : SeqInvariant state) (input : SeqInput)
    (reloadable : Reloadable (seqStep state input)) :
    SeqInvariant (seqStep state input) := by
  cases input with
  | nextSeq => exact seqInvariant_nextSeq invariant
  | beacon first ivUpdate ivIndex =>
      exact seqInvariant_beacon invariant first ivUpdate ivIndex
  | proceed => exact seqInvariant_proceed invariant reloadable
  | restart => exact seqInvariant_restart invariant

end Invariant

/-- The sequence numbers are safe in every state of a run if and only if the
stored reservation can be loaded in every state that has handed one out. -/
theorem crash_safe_iff (stored : StoredLocal) (inputs : List SeqInput) :
    (∀ state ∈ seqModel.reached (.loaded stored) inputs, CrashSafe state) ↔
      ∀ state ∈ seqModel.reached (.loaded stored) inputs, Reloadable state := by
  have initial := loaded_invariant stored
  rw [Model.forall_reached_iff, Model.forall_reached_iff]
  have throughout := seqModel.forall_trace_iff SeqInvariant
    (fun entry => Reloadable entry.after) (fun entry => CrashSafe entry.after)
    (fun _ input invariant => seqStep_invariant invariant input)
    (fun _ input invariant => ⟨CrashSafe.reloadable, fun reloadable =>
      (seqStep_invariant invariant input reloadable).crashSafe⟩)
    inputs initial
  rw [throughout]
  exact and_congr_left fun _ => ⟨fun _ => initial.reloadable,
    fun _ => initial.crashSafe⟩

/-! ### The end of the sequence numbers -/

/-- A counter just below the last reservation of 24 bits. -/
def nearTheEnd : StoredLocal where
  ivIndex := 5
  ivUpdate := false
  sequenceNumber := 0xffffa0

theorem crash_safe_not_always :
    ¬∀ stored inputs, ∀ state ∈ seqModel.reached (.loaded stored) inputs,
      CrashSafe state := by
  intro always
  have last := always nearTheEnd [.nextSeq, .proceed, .proceed]
    (seqModel.finalState (.loaded nearTheEnd) [.nextSeq, .proceed, .proceed])
    (by
      rw [seqModel_getNextSeq rfl]
      exact List.mem_cons_of_mem _ (List.mem_cons_of_mem _
        (List.mem_cons_of_mem _ List.mem_cons_self)))
  have below := last 0xffffa0 (by decide +kernel)
  exact absurd below (by decide +kernel)

end Meshctl.Net
