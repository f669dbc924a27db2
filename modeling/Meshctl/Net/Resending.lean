import Meshctl.Net.Beacon

/-! # What an emptied queue sends again

When the last packet is written, the segments that are not acknowledged are sent
again, each from within a completion of the one before. What was sent and what is
still due always add up to what was due.
-/

namespace Meshctl.Net

/-! ## Segments -/

/-- The segments of a message that are not acknowledged. -/
def missingSegments (sar : MeshSarMsg) : List (MeshSarMsg × Nat) :=
  ((List.range (sar.segN.toNat + 1)).filter fun seg =>
    !sar.ack.getLsbD seg).map fun seg => (sar.frozen, seg)

/-- What a message asks for: nothing, once it is inactive. -/
def wantedSegments (sar : MeshSarMsg) : List (MeshSarMsg × Nat) :=
  if sar.activityCnt ≠ 0 then missingSegments sar else []

def dueSegments (st : NetState) : List (MeshSarMsg × Nat) :=
  st.msgOut.records.flatMap wantedSegments

def BuiltPkt.segment (pkt : BuiltPkt) : MeshSarMsg × Nat :=
  (pkt.sar, pkt.seg.toNat)

theorem wantedSegments_frozen (sar : MeshSarMsg) :
    wantedSegments sar.frozen = [] := rfl

/-- Without one of its messages, a list asks for that much less. -/
theorem wantedSegments_remove {messages : List MeshSarMsg}
    (distinct : (messages.map MeshSarMsg.dst).Nodup) {sar : MeshSarMsg}
    (present : sar ∈ messages) :
    (wantedSegments sar ++ messages.flatMap fun out =>
        wantedSegments (if out.dst = sar.dst then sar.frozen else out)).Perm
      (messages.flatMap wantedSegments) := by
  induction messages with
  | nil => cases present
  | cons out rest induction =>
      rw [List.map_cons, List.nodup_cons] at distinct
      rw [List.flatMap_cons, List.flatMap_cons]
      rcases List.mem_cons.mp present with same | later
      · subst same
        have others : (rest.flatMap fun out => wantedSegments
            (if out.dst = sar.dst then sar.frozen else out)) =
              rest.flatMap wantedSegments := by
          apply List.flatMap_congr
          intro out member
          rw [if_neg]
          intro equal
          exact distinct.1 (equal ▸ List.mem_map_of_mem member)
        rw [if_pos rfl, wantedSegments_frozen, List.nil_append, others]
      · have different : out.dst ≠ sar.dst := fun equal =>
          distinct.1 (equal ▸ List.mem_map_of_mem later)
        rw [if_neg different]
        exact (List.perm_append_comm_assoc _ _ _).trans
          ((induction distinct.2 later).append_left _)

/-- Clearing an activity count leaves what the other messages ask for. -/
theorem dueSegments_setSarOut {st : NetState} {sar : MeshSarMsg}
    (present : sar ∈ st.msgOut.records) :
    (wantedSegments sar ++ dueSegments (st.setSarOut sar.frozen)).Perm
      (dueSegments st) := by
  have removed := wantedSegments_remove st.msgOut.distinct present
  rw [dueSegments, dueSegments, NetState.setSarOut, KeyedList.set,
    KeyedList.update, List.flatMap_map]
  exact removed

/-! ## Sending adds up -/

/-- Sending ends with an empty queue. What was built was written at once, in the
same order; together with what is due afterwards, it is what was due before and
some further segments. -/
structure Resends (further : List (MeshSarMsg × Nat))
    (before after : NetState) : Prop where
  run : TxRun (fun _ => True) before after
  pktOut : after.pktOut = []
  sends : ∃ sent, after.built = before.built ++ sent ∧
    after.written = before.written ++
      List.range' before.built.length sent.length ∧
    (sent.map BuiltPkt.segment ++ dueSegments after).Perm
      (further ++ dueSegments before)

theorem Resends.refl {st : NetState} (isEmpty : st.pktOut = []) :
    Resends [] st st where
  run := Relation.ReflTransGen.refl
  pktOut := isEmpty
  sends := ⟨[], by simp, by simp, List.Perm.refl _⟩

theorem Resends.trans {first second : List (MeshSarMsg × Nat)}
    {before middle after : NetState} (earlier : Resends first before middle)
    (later : Resends second middle after) :
    Resends (first ++ second) before after := by
  rcases earlier.sends with ⟨sent, built, written, sum⟩
  rcases later.sends with ⟨more, moreBuilt, moreWritten, moreSum⟩
  refine ⟨earlier.run.trans later.run, later.pktOut, sent ++ more, ?_, ?_, ?_⟩
  · rw [moreBuilt, built, List.append_assoc]
  · rw [moreWritten, written, built, List.length_append, List.length_append,
      List.append_assoc, List.range'_append_1]
  · rw [List.map_append, List.append_assoc, List.append_assoc]
    have later := moreSum.append_left (sent.map BuiltPkt.segment)
    have swapped := List.perm_append_comm_assoc (sent.map BuiltPkt.segment)
      second (dueSegments middle)
    have sooner := sum.append_left second
    have back := List.perm_append_comm_assoc second first (dueSegments before)
    exact later.trans (swapped.trans (sooner.trans back))

/-! ## The functions that send -/

section Functions

variable {env : NetEnv} {cmplt : Completion} {bound : Nat}

/-- Every outgoing message has at most 32 segments and a known network key. -/
def AllSendable (st : NetState) : Prop :=
  ∀ sar ∈ st.msgOut.records, sar.segN.toNat ≤ 31 ∧
    (st.findNetKeyByIdx sar.netIdx).isSome

theorem TxRun.findNetKeyByIdx {Fresh : MeshSarMsg → Prop}
    {before after : NetState} (run : TxRun Fresh before after) (netIdx : U16) :
    after.findNetKeyByIdx netIdx = before.findNetKeyByIdx netIdx := by
  rcases run.frame with ⟨_, _, _, _, _, _, _, _, equal⟩
  rw [equal]
  rfl

theorem TxRun.allSendable {Fresh : MeshSarMsg → Prop}
    {before after : NetState} (run : TxRun Fresh before after)
    (sendable : AllSendable before) : AllSendable after := by
  intro sar member
  rcases exists_same_frozen run.msgOut_frozen member with ⟨old, inBefore, same⟩
  have netIdx : sar.netIdx = old.netIdx :=
    (congrArg MeshSarMsg.netIdx same).symm
  have segN : sar.segN = old.segN := (congrArg MeshSarMsg.segN same).symm
  rw [run.findNetKeyByIdx, netIdx, segN]
  exact sendable old inBefore

/-- A handler that empties the queue of its last packet, where fewer than `bound`
messages are active. -/
structure Empties (cmplt : Completion) (bound : Nat) : Prop where
  transmits : ∀ Fresh, cmplt.Transmits Fresh
  resends : ∀ {pkt : MeshPkt} {st : NetState}, st.pktOut = [pkt] →
    AllSendable st → activeCount st < bound →
    Resends [] st (cmplt pkt.ref st)

variable (sync : ∀ count, env.gatt count = .sent)
include sync

/-- A packet for an empty queue is written at once. -/
theorem sendSeg_eq (cmplt : Completion) {sar : MeshSarMsg} (seg : Byte)
    {st : NetState} (isEmpty : st.pktOut = []) {netKey : MeshNetKey}
    (found : st.findNetKeyByIdx sar.netIdx = some netKey) :
    ∃ pkt middle, sendSeg env cmplt sar seg st = cmplt st.built.length middle ∧
      middle.pktOut = [pkt] ∧ pkt.ref = st.built.length ∧
      middle.built = st.built ++
        [⟨sar, seg, netKey.sendPart.nid, st.seqNum, st.restartedAt⟩] ∧
      middle.written = st.written ++ [st.built.length] ∧
      middle.msgOut = st.msgOut ∧ middle.netKeys = st.netKeys := by
  rcases recordBuilt_eq sar seg netKey.sendPart.nid st with ⟨_, _, built⟩
  simp only [sendSeg, found, built, sendMeshPkt, isEmpty, List.isEmpty_nil,
    Bool.not_true, Bool.false_eq_true, if_false, List.nil_append, meshGattWrite,
    sync]
  exact ⟨_, _, rfl, rfl, rfl, rfl, rfl, rfl, rfl⟩

theorem sendSeg_resends (empties : Empties cmplt bound) {sar : MeshSarMsg}
    {seg : Byte} (inMessage : seg.toNat ≤ sar.segN.toNat) {st : NetState}
    (isEmpty : st.pktOut = []) (sendable : AllSendable st)
    (active : activeCount st < bound)
    (netKey : (st.findNetKeyByIdx sar.netIdx).isSome) :
    Resends [(sar, seg.toNat)] st (sendSeg env cmplt sar seg st) := by
  have run : TxRun (fun _ => True) st (sendSeg env cmplt sar seg st) :=
    sendSeg_run (empties.transmits _) (Or.inr trivial) inMessage
  rcases Option.isSome_iff_exists.mp netKey with ⟨found, isFound⟩
  rcases sendSeg_eq sync cmplt seg isEmpty isFound with
    ⟨pkt, middle, equal, queue, isRef, built, written, msgOut, netKeys⟩
  have due : dueSegments middle = dueSegments st := by
    rw [dueSegments, dueSegments, msgOut]
  have stillSendable : AllSendable middle := by
    intro other member
    rw [NetState.findNetKeyByIdx, netKeys]
    exact sendable other (msgOut ▸ member)
  have stillActive : activeCount middle < bound := by
    rw [activeCount, msgOut]
    exact active
  have emptied := empties.resends queue stillSendable stillActive
  rw [isRef, ← equal] at emptied
  rcases emptied.sends with ⟨sent, nowBuilt, nowWritten, sum⟩
  refine ⟨run, emptied.pktOut, ⟨sar, seg, found.sendPart.nid, st.seqNum,
    st.restartedAt⟩ :: sent, ?_, ?_, ?_⟩
  · rw [nowBuilt, built, List.append_assoc]
    rfl
  · rw [nowWritten, written, built, List.append_assoc, List.length_append]
    rfl
  · rw [due] at sum
    exact sum.cons _

/-- Sending some segments of a message again. -/
theorem resendFrom_resends (empties : Empties cmplt bound) {sar : MeshSarMsg}
    {segs : List Nat} (inMessage : ∀ seg ∈ segs, seg ≤ sar.segN.toNat)
    {st : NetState} (isEmpty : st.pktOut = []) (sendable : AllSendable st)
    (active : activeCount st < bound)
    (netKey : (st.findNetKeyByIdx sar.netIdx).isSome) :
    Resends ((segs.filter fun seg => !acked sar.ack seg).map fun seg =>
      (sar, seg)) st (resendFrom env cmplt sar segs st) := by
  induction segs generalizing st with
  | nil => exact Resends.refl isEmpty
  | cons seg rest induction =>
      rcases List.forall_mem_cons.mp inMessage with ⟨segIn, restIn⟩
      have bounded := sar.segN.isLt
      have isSeg : (BitVec.ofNat 8 seg).toNat = seg := by
        rw [BitVec.toNat_ofNat]
        omega
      rw [resendFrom]
      cases isAcked : acked sar.ack seg with
      | true =>
          rw [List.filter_cons_of_neg (by simp [isAcked])]
          exact induction restIn isEmpty sendable active netKey
      | false =>
          rw [List.filter_cons_of_pos (by simp [isAcked])]
          have sent := sendSeg_resends sync empties (toNat_ofNat_seg segIn)
            isEmpty sendable active netKey
          rw [isSeg] at sent
          exact sent.trans (induction restIn sent.pktOut
            (sent.run.allSendable sendable)
            (Nat.lt_of_le_of_lt sent.run.activeCount_le active)
            (sent.run.findNetKeyByIdx _ ▸ netKey))

theorem resendSegs_resends (empties : Empties cmplt bound) {sar : MeshSarMsg}
    {st : NetState} (present : sar ∈ st.msgOut.records)
    (wanted : sar.activityCnt ≠ 0) (isEmpty : st.pktOut = [])
    (sendable : AllSendable st) (active : activeCount st ≤ bound) :
    Resends [] st (resendSegs env cmplt sar st) := by
  have cleared : TxStep (fun _ => True) st (st.setSarOut sar.frozen) :=
    TxStep.clear sar present
  have fewer := Nat.lt_of_lt_of_le (countP_clear_lt present wanted) active
  have start : TxRun (fun _ => True) st (st.setSarOut sar.frozen) :=
    Relation.ReflTransGen.single cleared
  have inMessage : ∀ seg ∈ List.range (sar.segN.toNat + 1),
      seg ≤ sar.segN.toNat := fun seg member =>
    Nat.le_of_lt_succ (List.mem_range.mp member)
  have again := @resendFrom_resends env cmplt bound sync empties sar.frozen
    _ inMessage (st.setSarOut sar.frozen) isEmpty (start.allSendable sendable)
    fewer
    (sendable sar present).2
  rcases again.sends with ⟨sent, built, written, sum⟩
  refine ⟨start.trans again.run, again.pktOut, sent, built, written, ?_⟩
  have missing : wantedSegments sar =
      ((List.range (sar.segN.toNat + 1)).filter fun seg =>
        !acked sar.ack seg).map fun seg => (sar.frozen, seg) := by
    rw [wantedSegments, if_pos wanted, missingSegments]
    congr 1
    apply List.filter_congr
    intro seg member
    have small := (sendable sar present).1
    have inMask : seg < 32 := by
      have := inMessage seg member
      omega
    have same : acked sar.ack seg = sar.ack.getLsbD seg := by
      rw [Bool.eq_iff_iff, acked_iff]
      exact and_iff_right inMask
    rw [same]
  exact sum.trans (missing ▸ dueSegments_setSarOut present)

theorem resendUnackedSegs_resends (empties : Empties cmplt bound)
    (dsts : List U32) {st : NetState} (isEmpty : st.pktOut = [])
    (sendable : AllSendable st) (active : activeCount st ≤ bound) :
    Resends [] st (resendUnackedSegs env cmplt dsts st) := by
  induction dsts generalizing st with
  | nil => exact Resends.refl isEmpty
  | cons dst rest induction =>
      rw [resendUnackedSegs]
      cases found : st.msgOut.find dst with
      | none => exact induction isEmpty sendable active
      | some sar =>
          dsimp only
          split
          next wanted =>
            have present := KeyedList.mem_of_find found
            have resent := resendSegs_resends sync empties present wanted
              isEmpty sendable active
            exact resent.trans (induction resent.pktOut
              (resent.run.allSendable sendable)
              (Nat.le_trans resent.run.activeCount_le active))
          next => exact induction isEmpty sendable active

/-- The handler empties the queue if the one inside it does. -/
theorem Empties.body (empties : Empties cmplt bound) :
    Empties (sendPktCmpltBody env cmplt) (bound + 1) := by
  constructor
  · exact fun Fresh ref st => (dequeue_run ref st).trans
      (continueQueue_run (empties.transmits Fresh) _)
  · intro pkt st queue sendable active
    have head : dequeue pkt.ref st = { st with pktOut := [] } := by
      rw [dequeue, queue]
      exact if_pos rfl
    have resent := @resendUnackedSegs_resends env cmplt bound sync empties
      (st.msgOut.records.map MeshSarMsg.dst) { st with pktOut := [] } rfl
      sendable (Nat.le_of_lt_succ active)
    rw [sendPktCmpltBody, head]
    exact ⟨resent.run.head (TxStep.queue _ _ _), resent.pktOut, resent.sends⟩

omit sync in
theorem empties_zero : Empties (sendPktCmpltFuel env 0) 0 where
  transmits := sendPktCmpltFuel_transmits env 0
  resends _ _ active := absurd active (Nat.not_lt_zero _)

theorem sendPktCmpltFuel_empties (fuel : Nat) :
    Empties (sendPktCmpltFuel env fuel) fuel := by
  induction fuel with
  | zero => exact empties_zero
  | succ fuel induction => exact induction.body sync

end Functions

/-! ## Nested completions end -/

/-- The completion handler, unfolded `depth` times over any handler. -/
def sendPktCmpltOver (env : NetEnv) (bottom : Completion) : Nat → Completion
  | 0 => bottom
  | depth + 1 => sendPktCmpltBody env (sendPktCmpltOver env bottom depth)

/-- Completions do not nest deeper than their bound: the handler below it is
never called. -/
theorem sendPktCmpltOver_agree (env : NetEnv) (bottom : Completion)
    (depth : Nat) :
    AgreeUpTo depth (sendPktCmplt env) (sendPktCmpltOver env bottom depth) := by
  induction depth with
  | zero =>
      intro ref st head bounded
      have shorter := cmpltDepth_dequeue_head head
      omega
  | succ depth induction =>
      intro ref st head bounded
      have shorter := cmpltDepth_dequeue_head head
      rw [sendPktCmplt_eq]
      exact continueQueue_congr (fun _ => sendPktCmplt_transmits) induction
        (by omega)

/-! ## Activity counts -/

/-- The message to a destination, if there is one, is inactive. -/
def InactiveAt (dst : U32) (st : NetState) : Prop :=
  ∀ sar ∈ st.msgOut.records, sar.dst = dst → sar.activityCnt = 0

theorem TxStep.inactiveAt {Fresh : MeshSarMsg → Prop} {dst : U32}
    {before after : NetState} (inactive : InactiveAt dst before)
    (step : TxStep Fresh before after) : InactiveAt dst after := by
  intro sar member isDst
  cases step with
  | build built seg nid allowed inMessage =>
      rw [recordBuilt_msgOut] at member
      exact inactive sar member isDst
  | queue => exact inactive sar member isDst
  | clear cleared present =>
      rcases KeyedList.mem_set member with same | old
      · rw [same]
        rfl
      · exact inactive sar old.1 isDst

theorem TxRun.inactiveAt {Fresh : MeshSarMsg → Prop} {dst : U32}
    {before after : NetState} (run : TxRun Fresh before after)
    (inactive : InactiveAt dst before) : InactiveAt dst after :=
  run.preserves (InactiveAt dst) (fun holds step => step.inactiveAt holds)
    inactive

/-- Clearing the count of a message makes its destination inactive. -/
theorem inactiveAt_setSarOut (sar : MeshSarMsg) (st : NetState) :
    InactiveAt sar.dst (st.setSarOut sar.frozen) := by
  intro other member isDst
  rcases KeyedList.mem_set member with same | ⟨_, different⟩
  · rw [same]
    rfl
  · exact absurd isDst different

section Inactive

variable {env : NetEnv} {cmplt : Completion}
  (transmits : ∀ Fresh, cmplt.Transmits Fresh)
include transmits

theorem resendSegs_inactive {sar : MeshSarMsg} {st : NetState}
    (present : sar ∈ st.msgOut.records) :
    InactiveAt sar.dst (resendSegs env cmplt sar st) := by
  have cleared : TxStep (fun _ => True) st (st.setSarOut sar.frozen) :=
    TxStep.clear sar present
  have run : TxRun (fun _ => True) (st.setSarOut sar.frozen)
      (resendSegs env cmplt sar st) := by
    apply resendFrom_run (transmits _)
    · intro seg member
      exact Nat.le_of_lt_succ (List.mem_range.mp member)
    · rw [cleared.msgOut_frozen]
      exact List.mem_map.mpr ⟨sar, present, rfl⟩
  exact run.inactiveAt (inactiveAt_setSarOut sar st)

theorem resendUnackedSegs_inactive {dsts : List U32} {dst : U32}
    (member : dst ∈ dsts) (st : NetState) :
    InactiveAt dst (resendUnackedSegs env cmplt dsts st) := by
  induction dsts generalizing st with
  | nil => cases member
  | cons other rest induction =>
      rw [resendUnackedSegs]
      rcases List.mem_cons.mp member with same | later
      · subst same
        have run (middle : NetState) : TxRun (fun _ => True) middle
            (resendUnackedSegs env cmplt rest middle) :=
          resendUnackedSegs_run (transmits _) rest middle
        apply (run _).inactiveAt
        cases found : st.msgOut.find dst with
        | none =>
            intro sar inOut isDst
            exact absurd isDst
              ((KeyedList.find_eq_none_iff _ _).mp found sar inOut)
        | some sar =>
            have present := KeyedList.mem_of_find found
            have isDst := KeyedList.key_of_find found
            dsimp only
            split
            next => exact isDst ▸ resendSegs_inactive transmits present
            next inactive =>
              intro other inOut sameDst
              rw [KeyedList.eq_of_key inOut present (sameDst.trans isDst.symm)]
              exact not_not.mp inactive
      · exact induction later _

end Inactive

/-! ## The completion that empties the queue -/

theorem missingSegments_nodup (sar : MeshSarMsg) :
    (missingSegments sar).Nodup :=
  (List.nodup_range.filter _).map fun _ _ equal => (Prod.mk.inj equal).2

theorem frozen_of_wantedSegments {sar : MeshSarMsg}
    {segment : MeshSarMsg × Nat} (member : segment ∈ wantedSegments sar) :
    segment.1 = sar.frozen := by
  rw [wantedSegments] at member
  split at member
  next =>
    rcases List.mem_map.mp member with ⟨seg, _, equal⟩
    rw [← equal]
  next => cases member

/-- No segment is due twice. -/
theorem dueSegments_nodup (st : NetState) : (dueSegments st).Nodup := by
  rw [dueSegments, List.nodup_flatMap]
  constructor
  · intro sar _
    rw [wantedSegments]
    split
    next => exact missingSegments_nodup sar
    next => exact List.nodup_nil
  · have distinct := List.pairwise_map.mp st.msgOut.distinct
    apply distinct.imp
    intro first second different segment inFirst inSecond
    have same : first.frozen = second.frozen :=
      (frozen_of_wantedSegments inFirst).symm.trans
        (frozen_of_wantedSegments inSecond)
    have sameDst : first.frozen.dst = second.frozen.dst := by rw [same]
    exact different sameDst

theorem emptied_queue_inactive (env : NetEnv) {pkt : MeshPkt} {st : NetState}
    (queue : st.pktOut = [pkt]) :
    ∀ sar ∈ (sendPktCmplt env pkt.ref st).msgOut.records,
      sar.activityCnt = 0 := by
  have run : TxRun (fun _ => True) st (sendPktCmplt env pkt.ref st) :=
    sendPktCmplt_transmits _ _
  have head : dequeue pkt.ref st = { st with pktOut := [] } := by
    rw [dequeue, queue]
    exact if_pos rfl
  intro sar member
  rcases exists_same_frozen run.msgOut_frozen member with ⟨old, inOut, same⟩
  have isDst : sar.dst = old.dst := (congrArg MeshSarMsg.dst same).symm
  rw [sendPktCmplt_eq, head, continueQueue] at member
  exact resendUnackedSegs_inactive (fun _ => sendPktCmplt_transmits)
    (List.mem_map_of_mem inOut) { st with pktOut := [] } sar member isDst

theorem MeshSarMsg.frozen_of_inactive {sar : MeshSarMsg}
    (inactive : sar.activityCnt = 0) : sar.frozen = sar := by
  rw [MeshSarMsg.frozen, ← inactive]

/-- When every write completes at once, the completion that empties the queue
ends, without nesting deeper than its bound. What it sends, and writes, is every
segment once that is missing of a message that was active. -/
theorem emptied_queue_resends {env : NetEnv}
    (sync : ∀ count, env.gatt count = .sent) {pkt : MeshPkt} {st : NetState}
    (queue : st.pktOut = [pkt])
    (segments : ∀ sar ∈ st.msgOut.records, sar.segN.toNat ≤ 31)
    (netKeys : ∀ sar ∈ st.msgOut.records,
      (st.findNetKeyByIdx sar.netIdx).isSome) :
    let after := sendPktCmplt env pkt.ref st
    (∀ bottom, sendPktCmpltOver env bottom (cmpltDepth st) pkt.ref st = after) ∧
      after.pktOut = [] ∧
      after.msgOut.records = st.msgOut.records.map MeshSarMsg.frozen ∧
      (dueSegments st).Nodup ∧
      ∃ sent, after.built = st.built ++ sent ∧
        after.written = st.written ++
          List.range' st.built.length sent.length ∧
        (sent.map BuiltPkt.segment).Perm (dueSegments st) := by
  have sendable : AllSendable st := fun sar member =>
    ⟨segments sar member, netKeys sar member⟩
  have active : activeCount st < cmpltDepth st + 2 := by
    rw [cmpltDepth, activeCount]
    omega
  have resent : Resends [] st (sendPktCmplt env pkt.ref st) :=
    (sendPktCmpltFuel_empties sync _).resends queue sendable active
  have ends (bottom : Completion) : sendPktCmpltOver env bottom
      (cmpltDepth st) pkt.ref st = sendPktCmplt env pkt.ref st :=
    (sendPktCmpltOver_agree env bottom _ pkt.ref st ⟨pkt, [], queue, rfl⟩
      (Nat.le_refl _)).symm
  have inactive := emptied_queue_inactive env queue
  have records : (sendPktCmplt env pkt.ref st).msgOut.records =
      st.msgOut.records.map MeshSarMsg.frozen := by
    rw [← resent.run.msgOut_frozen]
    nth_rewrite 1 [← List.map_id (sendPktCmplt env pkt.ref st).msgOut.records]
    apply List.map_congr_left
    intro sar member
    exact (MeshSarMsg.frozen_of_inactive (inactive sar member)).symm
  have nothingDue : dueSegments (sendPktCmplt env pkt.ref st) = [] := by
    rw [dueSegments, records, List.flatMap_map]
    exact List.flatMap_eq_nil_iff.mpr fun sar _ => wantedSegments_frozen sar
  rcases resent.sends with ⟨sent, built, written, sum⟩
  rw [nothingDue, List.append_nil] at sum
  exact ⟨ends, resent.pktOut, records, dueSegments_nodup st, sent, built, written,
    sum⟩

/-! ### One segment of two is missing -/

def halfAcknowledged : MeshSarMsg :=
  { MeshSarMsg.zero 1 with dst := 2, ack := 1, activityCnt := 1 }

/-- The last packet in the queue was written while a message is active. -/
def lastWritten : NetState :=
  { openNode with
    msgOut := KeyedList.empty.append halfAcknowledged
    pktOut := [{ ref := 0, data := [], len := 0 }] }

theorem emptied_queue_resends_half :
    ∃ sent, (sendPktCmplt plainEnv 0 lastWritten).built = sent ∧
      sent.map BuiltPkt.segment = [(halfAcknowledged.frozen, 1)] := by
  have due : dueSegments lastWritten = [(halfAcknowledged.frozen, 1)] := by
    decide +kernel
  rcases @emptied_queue_resends plainEnv (fun _ => rfl) ⟨0, [], 0⟩ lastWritten
    rfl (by decide +kernel) (by decide +kernel) with
    ⟨_, _, _, _, sent, built, _, sum⟩
  rw [due] at sum
  exact ⟨sent, built, List.perm_singleton.mp sum⟩

end Meshctl.Net
