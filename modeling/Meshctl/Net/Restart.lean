import Meshctl.Net.Beacon

/-! # Restarts

The process can stop between any two stores. The functions that take sequence
numbers are cut there, and a restart loads what was stored last.
-/

namespace Meshctl.Net

open Execution

/-! ## Loading -/

def netSetIvIndex (ivIndex : U32) (update : Bool) (st : NetState) : NetState :=
  { st with ivIndex, ivUpdate := update }

def netSetSeqNum (seqNum : U32) (st : NetState) : Bool × NetState :=
  if 0xffffff < seqNum.toNat then (false, st) else (true, { st with seqNum })

/-- The part of `parse_node` that sets up the network layer for the local node.
There is no local node yet, so `node_set_sequence_number` sets the counter; its
result is ignored. -/
def parseLocalNode (st : NetState) : NetState :=
  let st := netSetIvIndex st.stored.ivIndex st.stored.ivUpdate st
  (netSetSeqNum st.stored.sequenceNumber st).2

/-- A new process with what an old one stored. -/
def restarted (stored : StoredLocal) : NetState :=
  parseLocalNode { NetState.zero with stored }

/-! ## The stores -/

section Stores

variable (st : NetState)

/-- `get_next_seq` before it looks at the reservation. -/
def takeSeq : U32 × NetState :=
  (st.seqNum, { st with seqNum := st.seqNum + 1 })

def reserveSeq : NetState :=
  if st.seqNumReserved ≤ st.seqNum + 32 then
    let reserved := st.seqNum + 100
    { st with
      seqNumReserved := reserved
      stored := { st.stored with sequenceNumber := reserved } }
  else
    st

theorem getNextSeq_eq :
    getNextSeq st = ((takeSeq st).1, reserveSeq (takeSeq st).2) := by
  rw [reserveSeq]
  by_cases exhausted : (takeSeq st).2.seqNumReserved ≤ (takeSeq st).2.seqNum + 32
  · rw [if_pos exhausted]
    exact if_pos exhausted
  · rw [if_neg exhausted]
    exact if_neg exhausted

variable (ivUpdate : Bool) (ivIndex : U32)

/-- Whether `beacon_update` stores anything. -/
def storesIvState : Bool :=
  st.seqNum = 0 || st.ivIndex ≠ ivIndex || st.ivUpdate ≠ ivUpdate

/-- The first store of `beacon_update`. -/
def storeIvIndex : NetState :=
  if storesIvState st ivUpdate ivIndex then
    let reserved :=
      if st.seqNumReserved ≤ st.seqNum then st.seqNum + 100
      else st.seqNumReserved
    { st with
      seqNumReserved := reserved
      stored := { st.stored with ivIndex, ivUpdate } }
  else
    st

/-- The second store of `beacon_update`. -/
def storeReservation : NetState :=
  if storesIvState st ivUpdate ivIndex then
    { st with
      stored := { st.stored with sequenceNumber := st.seqNumReserved } }
  else
    st

theorem storeIvState_stores :
    storeIvState ivUpdate ivIndex st =
      storeReservation (storeIvIndex st ivUpdate ivIndex) ivUpdate ivIndex := by
  by_cases stores : storesIvState st ivUpdate ivIndex = true
  · have first : storeIvIndex st ivUpdate ivIndex = _ := if_pos stores
    have again : storesIvState (storeIvIndex st ivUpdate ivIndex) ivUpdate
        ivIndex = true := by
      rw [first]
      exact stores
    have whole : storeIvState ivUpdate ivIndex st = _ := if_pos stores
    rw [whole, storeReservation, if_pos again, first]
  · have first : storeIvIndex st ivUpdate ivIndex = st := if_neg stores
    have whole : storeIvState ivUpdate ivIndex st = st := if_neg stores
    rw [whole, first, storeReservation, if_neg stores]

theorem takeOver_stores :
    takeOver ivUpdate ivIndex st =
      { storeReservation
          (storeIvIndex (restartSeq ivUpdate ivIndex st) ivUpdate ivIndex)
          ivUpdate ivIndex with
        ivIndex, ivUpdate } := by
  rw [takeOver, storeIvState_stores]

end Stores

/-! ## The machine -/

/-- Where in `get_next_seq` or `beacon_update` the process is. -/
inductive SeqPhase where
  | idle
  | taken (thisSeq : U32)
  | reserved (thisSeq : U32)
  | beaconTaken (ivUpdate : Bool) (ivIndex : U32)
  | beaconStored (ivUpdate : Bool) (ivIndex : U32)

inductive SeqInput where
  | nextSeq
  | beacon (first ivUpdate : Bool) (ivIndex : U32)
  | proceed
  | restart

/-- `handed` are the sequence numbers that were handed out since the counter was
last reset to 0. -/
structure SeqState where
  net : NetState
  phase : SeqPhase
  handed : List U32

/-- A process that has just loaded what an earlier one stored. -/
def SeqState.loaded (stored : StoredLocal) : SeqState where
  net := restarted stored
  phase := .idle
  handed := []

/-- A call begins when no other one is under way, and proceeds from store to
store. The process can be restarted at any time. -/
def seqStep (state : SeqState) : SeqInput → SeqState
  | .nextSeq =>
      match state.phase with
      | .idle =>
          let (thisSeq, net) := takeSeq state.net
          { state with net, phase := .taken thisSeq }
      | _ => state
  | .beacon first ivUpdate ivIndex =>
      match state.phase, enforceWindows first ivUpdate ivIndex state.net with
      | .idle, some net =>
          { net := restartSeq ivUpdate ivIndex net
            phase := .beaconTaken ivUpdate ivIndex
            handed := if restartsSeq ivUpdate ivIndex net then [] else state.handed }
      | _, _ => state
  | .proceed =>
      match state.phase with
      | .idle => state
      | .taken thisSeq =>
          { state with net := reserveSeq state.net, phase := .reserved thisSeq }
      | .reserved thisSeq =>
          { state with phase := .idle, handed := state.handed ++ [thisSeq] }
      | .beaconTaken ivUpdate ivIndex =>
          { state with
            net := storeIvIndex state.net ivUpdate ivIndex
            phase := .beaconStored ivUpdate ivIndex }
      | .beaconStored ivUpdate ivIndex =>
          { state with
            net :=
              { storeReservation state.net ivUpdate ivIndex with
                ivIndex, ivUpdate }
            phase := .idle }
  | .restart =>
      { state with net := restarted state.net.stored, phase := .idle }

def seqModel : Model SeqState SeqInput Unit where
  step state input := ⟨seqStep state input, ()⟩

/-! ### The calls that it is made of -/

section Calls

variable {state : SeqState}

/-- A call that is not interrupted is `get_next_seq`. -/
theorem seqModel_getNextSeq (idle : state.phase = .idle) :
    seqModel.finalState state [.nextSeq, .proceed, .proceed] =
      { net := (getNextSeq state.net).2
        phase := .idle
        handed := state.handed ++ [(getNextSeq state.net).1] } := by
  simp only [Model.finalState_cons, Model.finalState_nil, seqModel, seqStep,
    idle, getNextSeq_eq]

/-- A beacon that is not interrupted takes over its IV index. -/
theorem seqModel_takeOver (idle : state.phase = .idle) {first ivUpdate : Bool}
    {ivIndex : U32} {net : NetState}
    (accepted : enforceWindows first ivUpdate ivIndex state.net = some net) :
    (seqModel.finalState state
      [.beacon first ivUpdate ivIndex, .proceed, .proceed]).net =
      takeOver ivUpdate ivIndex net := by
  simp only [Model.finalState_cons, Model.finalState_nil, seqModel, seqStep,
    idle, accepted, takeOver_stores]

end Calls

end Meshctl.Net
