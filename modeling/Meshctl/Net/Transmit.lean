import Meshctl.Net.State

/-! # The transmit queue

Packets are written to the GATT pipe one at a time. A write on an open pipe
completes before `mesh_gatt_write` returns, so its completion handler runs
inside the call; the handler may start the next write or cut further segments.
-/

namespace Meshctl.Net

open Bytes

/-- What becomes of a GATT write: it completes at once, it waits for the pipe to
be acquired, or it is refused and its completion handler is never called. -/
inductive GattOutcome where
  | sent
  | queued
  | refused
deriving DecidableEq

/-- The code outside the network layer that it calls. The `gatt` outcome is that
of the n-th write. -/
structure NetEnv where
  packetEncode : List Byte → Byte → Key → U32 → Key → List Byte
  applicationEncrypt : Byte → U32 → U16 → U16 → U32 → Key → Option Key →
    List Byte → Byte → List Byte
  beaconCmac : Key → U64 → U32 → Bool → Bool → Option U64
  gatt : Nat → GattOutcome

/-- A completion handler: it is told which packet was written. -/
abbrev Completion := Nat → NetState → NetState

variable (env : NetEnv)

section Queue

variable (cmplt : Completion)

def meshGattWrite (ref : Nat) (st : NetState) : NetState :=
  let outcome := env.gatt st.written.length
  let st := { st with written := st.written ++ [ref] }
  match outcome with
  | .sent => cmplt ref st
  | .queued => { st with acquiring := st.acquiring ++ [ref] }
  | .refused => st

def sendMeshPkt (pkt : MeshPkt) (st : NetState) : NetState :=
  let queued := !st.pktOut.isEmpty
  let st := { st with pktOut := st.pktOut ++ [pkt] }
  if queued then st else meshGattWrite env cmplt pkt.ref st

end Queue

def getNextSeq (st : NetState) : U32 × NetState :=
  let thisSeq := st.seqNum
  let st := { st with seqNum := st.seqNum + 1 }
  if st.seqNumReserved ≤ st.seqNum + 32 then
    let reserved := st.seqNum + 100
    (thisSeq, { st with
      seqNumReserved := reserved
      stored := { st.stored with sequenceNumber := reserved } })
  else
    (thisSeq, st)

/-- Take the next sequence number and note the packet that carries it. -/
def recordBuilt (sar : MeshSarMsg) (seg nid : Byte) (st : NetState) :
    BuiltPkt × NetState :=
  let (seq, st) := getNextSeq st
  let built : BuiltPkt :=
    { sar, seg, nid, seq, restartedAt := st.restartedAt }
  (built, { st with built := st.built ++ [built] })

section RecordBuilt

variable (sar : MeshSarMsg) (seg nid : Byte) (st : NetState)

/-- Building a packet changes the counter, its reservation and the history. -/
theorem recordBuilt_eq :
    ∃ reserved stored, recordBuilt sar seg nid st =
      (⟨sar, seg, nid, st.seqNum, st.restartedAt⟩,
        { st with
          seqNum := st.seqNum + 1
          seqNumReserved := reserved
          stored := stored
          built := st.built ++ [⟨sar, seg, nid, st.seqNum, st.restartedAt⟩] }) := by
  simp only [recordBuilt, getNextSeq]
  by_cases exhausted : st.seqNumReserved ≤ st.seqNum + 1 + 32
  · exact ⟨_, _, by simp only [if_pos exhausted]; rfl⟩
  · exact ⟨_, _, by simp only [if_neg exhausted]; rfl⟩

@[simp] theorem recordBuilt_msgOut :
    (recordBuilt sar seg nid st).2.msgOut = st.msgOut := by
  rcases recordBuilt_eq sar seg nid st with ⟨_, _, equal⟩
  rw [equal]

@[simp] theorem recordBuilt_pktOut :
    (recordBuilt sar seg nid st).2.pktOut = st.pktOut := by
  rcases recordBuilt_eq sar seg nid st with ⟨_, _, equal⟩
  rw [equal]

end RecordBuilt

/-- The copy of a network key that packets are secured with. -/
def MeshNetKey.sendPart (netKey : MeshNetKey) : NetKeyParts :=
  if netKey.phase = 2 ∧ netKey.new.nid ≠ 0xff then
    netKey.new
  else
    netKey.current

section Segments

variable (cmplt : Completion)

def sendSeg (sar : MeshSarMsg) (seg : Byte) (st : NetState) : NetState :=
  match st.findNetKeyByIdx sar.netIdx with
  | none => st
  | some netKey =>
      let part := netKey.sendPart
      let ref := st.built.length
      let (built, st) := recordBuilt sar seg part.nid st
      let encoded := env.packetEncode built.plain built.len part.encKey
        sar.ivIndex part.privacyKey
      let type := if sar.proxy then proxyConfigPdu else proxyNetworkPdu
      let pkt : MeshPkt := { ref, data := type :: encoded, len := built.len + 1 }
      sendMeshPkt env cmplt pkt st

/-- Whether a bit of an acknowledgement mask is set. -/
def acked (ack : U32) (seg : Nat) : Bool := ((1 : U32) <<< seg) &&& ack ≠ 0

theorem acked_iff (ack : U32) (seg : Nat) :
    acked ack seg = true ↔ seg < 32 ∧ ack.getLsbD seg = true := by
  rw [acked, decide_eq_true_eq]
  constructor
  · intro notZero
    by_contra absent
    apply notZero
    apply BitVec.eq_of_getLsbD_eq
    intro index inMask
    rw [BitVec.getLsbD_and, getLsbD_one_shiftLeft _ inMask]
    by_cases isSeg : index = seg
    · subst isSeg
      have clear : ack.getLsbD index = false := by
        simpa [inMask] using absent
      simp [clear]
    · simp [isSeg]
  · intro ⟨inMask, isSet⟩ zero
    have bit := congrArg (BitVec.getLsbD · seg) zero
    simp only [BitVec.getLsbD_and, getLsbD_one_shiftLeft _ inMask, isSet]
      at bit
    simp at bit

/-- Send again, from segment `seg` on, what was not acknowledged. -/
def resendFrom (sar : MeshSarMsg) : List Nat → NetState → NetState
  | [], st => st
  | seg :: rest, st =>
      let st :=
        if !acked sar.ack seg then
          sendSeg env cmplt sar (BitVec.ofNat 8 seg) st
        else
          st
      resendFrom sar rest st

def resendSegs (sar : MeshSarMsg) (st : NetState) : NetState :=
  let sar := { sar with activityCnt := 0 }
  let st := st.setSarOut sar
  resendFrom env cmplt sar (List.range (sar.segN.toNat + 1)) st

/-- `g_list_foreach` with `resend_unacked_segs` over the outgoing messages. -/
def resendUnackedSegs : List U32 → NetState → NetState
  | [], st => st
  | dst :: rest, st =>
      let st :=
        match st.msgOut.find dst with
        | none => st
        | some sar =>
            if sar.activityCnt ≠ 0 then resendSegs env cmplt sar st else st
      resendUnackedSegs rest st

/-- Remove the written packet from the head of the queue. A packet that is not
there is the "serious error" of the source, which is only reported. -/
def dequeue (ref : Nat) (st : NetState) : NetState :=
  match st.pktOut with
  | [] => st
  | pkt :: rest => if pkt.ref = ref then { st with pktOut := rest } else st

/-- Write the next packet, or use an empty queue for what is not acknowledged. -/
def continueQueue (st : NetState) : NetState :=
  match st.pktOut with
  | [] =>
      resendUnackedSegs env cmplt (st.msgOut.records.map MeshSarMsg.dst) st
  | pkt :: _ => meshGattWrite env cmplt pkt.ref st

def sendPktCmpltBody (ref : Nat) (st : NetState) : NetState :=
  continueQueue env cmplt (dequeue ref st)

end Segments

/-- The completion handler, unfolded `fuel` times. -/
def sendPktCmpltFuel : Nat → Completion
  | 0 => fun _ st => st
  | fuel + 1 => sendPktCmpltBody env (sendPktCmpltFuel fuel)

/-- A bound on nested completions: each one removes a packet from the queue, and
a message is sent again only after its activity count was cleared. -/
def cmpltDepth (st : NetState) : Nat :=
  st.pktOut.length + st.msgOut.records.countP (·.activityCnt ≠ 0)

def sendPktCmplt : Completion := fun ref st =>
  sendPktCmpltFuel env (cmpltDepth st + 2) ref st

/-! ## What transmitting changes

Everything below the send functions is a sequence of three kinds of steps:
building a packet, moving packets through the queue and clearing an activity
count. -/

/-- A record without the one field that transmitting changes. -/
def MeshSarMsg.frozen (sar : MeshSarMsg) : MeshSarMsg :=
  { sar with activityCnt := 0 }

/-- One step. Packets are segments of outgoing messages, or of records that
`Fresh` describes. -/
inductive TxStep (Fresh : MeshSarMsg → Prop) : NetState → NetState → Prop
  | build {st : NetState} (sar : MeshSarMsg) (seg nid : Byte)
      (allowed : sar.frozen ∈ st.msgOut.records.map MeshSarMsg.frozen ∨ Fresh sar)
      (inMessage : seg.toNat ≤ sar.segN.toNat) :
      TxStep Fresh st (recordBuilt sar seg nid st).2
  | queue {st : NetState} (pktOut : List MeshPkt)
      (written acquiring : List Nat) :
      TxStep Fresh st { st with pktOut, written, acquiring }
  | clear {st : NetState} (sar : MeshSarMsg) (present : sar ∈ st.msgOut.records) :
      TxStep Fresh st (st.setSarOut sar.frozen)

abbrev TxRun (Fresh : MeshSarMsg → Prop) : NetState → NetState → Prop :=
  Relation.ReflTransGen (TxStep Fresh)

/-- A property that every step preserves holds after a run. -/
theorem TxRun.preserves {Fresh : MeshSarMsg → Prop} {before after : NetState}
    (run : TxRun Fresh before after) (Holds : NetState → Prop)
    (step : ∀ {st st' : NetState}, Holds st → TxStep Fresh st st' → Holds st')
    (initial : Holds before) : Holds after := by
  induction run with
  | refl => exact initial
  | tail _ last induction => exact step induction last

def Completion.Transmits (Fresh : MeshSarMsg → Prop) (cmplt : Completion) :
    Prop :=
  ∀ ref st, TxRun Fresh st (cmplt ref st)

section Runs

variable {env} {Fresh : MeshSarMsg → Prop} {cmplt : Completion}

theorem meshGattWrite_run (nested : cmplt.Transmits Fresh) (ref : Nat)
    (st : NetState) : TxRun Fresh st (meshGattWrite env cmplt ref st) := by
  have wrote : TxStep Fresh st { st with written := st.written ++ [ref] } :=
    TxStep.queue _ _ _
  simp only [meshGattWrite]
  cases env.gatt st.written.length with
  | sent => exact (nested _ _).head wrote
  | queued => exact (Relation.ReflTransGen.single wrote).tail (TxStep.queue _ _ _)
  | refused => exact Relation.ReflTransGen.single wrote

theorem sendMeshPkt_run (nested : cmplt.Transmits Fresh) (pkt : MeshPkt)
    (st : NetState) : TxRun Fresh st (sendMeshPkt env cmplt pkt st) := by
  have appended : TxStep Fresh st { st with pktOut := st.pktOut ++ [pkt] } :=
    TxStep.queue _ _ _
  simp only [sendMeshPkt]
  split
  · exact Relation.ReflTransGen.single appended
  · exact (meshGattWrite_run nested _ _).head appended

theorem sendSeg_run (nested : cmplt.Transmits Fresh) {sar : MeshSarMsg}
    {st : NetState}
    (allowed : sar.frozen ∈ st.msgOut.records.map MeshSarMsg.frozen ∨ Fresh sar)
    {seg : Byte} (inMessage : seg.toNat ≤ sar.segN.toNat) :
    TxRun Fresh st (sendSeg env cmplt sar seg st) := by
  rw [sendSeg]
  split
  · exact Relation.ReflTransGen.refl
  · exact (sendMeshPkt_run nested _ _).head
      (TxStep.build sar seg _ allowed inMessage)

/-- What no step touches. -/
theorem TxStep.frame {before after : NetState}
    (step : TxStep Fresh before after) :
    ∃ seqNum seqNumReserved stored built pktOut written acquiring msgOut,
      after = { before with seqNum, seqNumReserved, stored, built, pktOut
                            written, acquiring, msgOut } := by
  cases step with
  | build sar seg nid allowed inMessage =>
      rcases recordBuilt_eq sar seg nid before with ⟨_, _, equal⟩
      rw [equal]
      exact ⟨_, _, _, _, _, _, _, _, rfl⟩
  | queue => exact ⟨_, _, _, _, _, _, _, _, rfl⟩
  | clear sar present => exact ⟨_, _, _, _, _, _, _, _, rfl⟩

theorem TxRun.frame {before after : NetState}
    (run : TxRun Fresh before after) :
    ∃ seqNum seqNumReserved stored built pktOut written acquiring msgOut,
      after = { before with seqNum, seqNumReserved, stored, built, pktOut
                            written, acquiring, msgOut } := by
  induction run with
  | refl => exact ⟨_, _, _, _, _, _, _, _, rfl⟩
  | tail _ last induction =>
      rcases induction with ⟨_, _, _, _, _, _, _, _, middle⟩
      rcases last.frame with ⟨_, _, _, _, _, _, _, _, equal⟩
      rw [equal, middle]
      exact ⟨_, _, _, _, _, _, _, _, rfl⟩

theorem TxRun.ivIndex {before after : NetState}
    (run : TxRun Fresh before after) : after.ivIndex = before.ivIndex := by
  rcases run.frame with ⟨_, _, _, _, _, _, _, _, equal⟩
  rw [equal]

theorem TxRun.ivUpdate {before after : NetState}
    (run : TxRun Fresh before after) : after.ivUpdate = before.ivUpdate := by
  rcases run.frame with ⟨_, _, _, _, _, _, _, _, equal⟩
  rw [equal]

theorem TxRun.transmitIv {before after : NetState}
    (run : TxRun Fresh before after) :
    after.transmitIv = before.transmitIv := by
  rw [NetState.transmitIv, NetState.transmitIv, run.ivIndex, run.ivUpdate]

theorem TxRun.restartedAt {before after : NetState}
    (run : TxRun Fresh before after) :
    after.restartedAt = before.restartedAt := by
  rcases run.frame with ⟨_, _, _, _, _, _, _, _, equal⟩
  rw [equal]

theorem TxRun.sarIn {before after : NetState}
    (run : TxRun Fresh before after) : after.sarIn = before.sarIn := by
  rcases run.frame with ⟨_, _, _, _, _, _, _, _, equal⟩
  rw [equal]

/-- A run whose packets are of one kind is a run whose packets are of a wider
kind. -/
theorem TxRun.mono {Wider : MeshSarMsg → Prop} {before after : NetState}
    (run : TxRun Fresh before after) (wider : ∀ sar, Fresh sar → Wider sar) :
    TxRun Wider before after := by
  induction run with
  | refl => exact Relation.ReflTransGen.refl
  | tail _ last induction =>
      apply induction.tail
      cases last with
      | build sar seg nid allowed inMessage =>
          exact TxStep.build sar seg nid (allowed.imp_right (wider sar))
            inMessage
      | queue => exact TxStep.queue _ _ _
      | clear sar present => exact TxStep.clear sar present

/-- Up to activity counts, transmitting leaves the outgoing messages alone. -/
theorem TxStep.msgOut_frozen {before after : NetState}
    (step : TxStep Fresh before after) :
    after.msgOut.records.map MeshSarMsg.frozen =
      before.msgOut.records.map MeshSarMsg.frozen := by
  cases step with
  | build sar seg nid allowed inMessage => rw [recordBuilt_msgOut]
  | queue => rfl
  | clear sar present =>
      simp only [NetState.setSarOut, KeyedList.set, KeyedList.update, List.map_map]
      apply List.map_congr_left
      intro out member
      simp only [Function.comp]
      split
      next same =>
        rw [KeyedList.eq_of_key member present same]
        rfl
      next => rfl

theorem TxRun.msgOut_frozen {before after : NetState}
    (run : TxRun Fresh before after) :
    after.msgOut.records.map MeshSarMsg.frozen =
      before.msgOut.records.map MeshSarMsg.frozen := by
  induction run with
  | refl => rfl
  | tail _ last induction => exact last.msgOut_frozen.trans induction

theorem exists_same_frozen {before after : List MeshSarMsg}
    (same : after.map MeshSarMsg.frozen = before.map MeshSarMsg.frozen)
    {sar : MeshSarMsg} (member : sar ∈ after) :
    ∃ old ∈ before, old.frozen = sar.frozen :=
  List.mem_map.mp (same ▸ List.mem_map_of_mem member)

/-- Packets that were built are not forgotten. -/
theorem TxStep.built {before after : NetState}
    (step : TxStep Fresh before after) :
    ∀ pkt ∈ before.built, pkt ∈ after.built := by
  intro pkt member
  cases step with
  | build sar seg nid allowed inMessage =>
      rcases recordBuilt_eq sar seg nid before with ⟨_, _, equal⟩
      rw [equal]
      exact List.mem_append_left _ member
  | queue => exact member
  | clear => exact member

theorem TxRun.built {before after : NetState}
    (run : TxRun Fresh before after) :
    ∀ pkt ∈ before.built, pkt ∈ after.built := by
  induction run with
  | refl => exact fun _ member => member
  | tail _ last induction =>
      exact fun pkt member => last.built pkt (induction pkt member)

theorem toNat_ofNat_seg {seg : Nat} {segN : Byte} (inMessage : seg ≤ segN.toNat) :
    (BitVec.ofNat 8 seg).toNat ≤ segN.toNat :=
  Nat.le_trans (Nat.mod_le _ _) inMessage

theorem resendFrom_run (nested : cmplt.Transmits Fresh) {sar : MeshSarMsg}
    {segs : List Nat} (inMessage : ∀ seg ∈ segs, seg ≤ sar.segN.toNat)
    {st : NetState}
    (allowed : sar.frozen ∈ st.msgOut.records.map MeshSarMsg.frozen) :
    TxRun Fresh st (resendFrom env cmplt sar segs st) := by
  induction segs generalizing st with
  | nil => exact Relation.ReflTransGen.refl
  | cons seg rest induction =>
      rcases List.forall_mem_cons.mp inMessage with ⟨segIn, restIn⟩
      rw [resendFrom]
      split
      next =>
        have sent : TxRun Fresh st
            (sendSeg env cmplt sar (BitVec.ofNat 8 seg) st) :=
          sendSeg_run nested (Or.inl allowed) (toNat_ofNat_seg segIn)
        apply sent.trans
        apply induction restIn
        rw [sent.msgOut_frozen]
        exact allowed
      next => exact induction restIn allowed

theorem resendSegs_run (nested : cmplt.Transmits Fresh) {sar : MeshSarMsg}
    {st : NetState} (present : sar ∈ st.msgOut.records) :
    TxRun Fresh st (resendSegs env cmplt sar st) := by
  have cleared : TxStep Fresh st (st.setSarOut sar.frozen) :=
    TxStep.clear sar present
  apply Relation.ReflTransGen.head cleared
  apply resendFrom_run nested
  · intro seg member
    exact Nat.le_of_lt_succ (List.mem_range.mp member)
  · rw [cleared.msgOut_frozen]
    exact List.mem_map.mpr ⟨sar, present, rfl⟩

theorem resendUnackedSegs_run (nested : cmplt.Transmits Fresh)
    (dsts : List U32) (st : NetState) :
    TxRun Fresh st (resendUnackedSegs env cmplt dsts st) := by
  induction dsts generalizing st with
  | nil => exact Relation.ReflTransGen.refl
  | cons dst rest induction =>
      rw [resendUnackedSegs]
      split
      next => exact induction st
      next sar found =>
        split
        next =>
          exact (resendSegs_run nested (KeyedList.mem_of_find found)).trans
            (induction _)
        next => exact induction st

theorem dequeue_run (ref : Nat) (st : NetState) :
    TxRun Fresh st (dequeue ref st) := by
  rw [dequeue]
  split
  · exact Relation.ReflTransGen.refl
  · split
    · exact Relation.ReflTransGen.single (TxStep.queue _ _ _)
    · exact Relation.ReflTransGen.refl

theorem continueQueue_run (nested : cmplt.Transmits Fresh) (st : NetState) :
    TxRun Fresh st (continueQueue env cmplt st) := by
  rw [continueQueue]
  split
  · exact resendUnackedSegs_run nested _ st
  · exact meshGattWrite_run nested _ st

theorem sendPktCmplt_transmits : (sendPktCmplt env).Transmits Fresh := by
  have unfolded : ∀ fuel, (sendPktCmpltFuel env fuel).Transmits Fresh := by
    intro fuel
    induction fuel with
    | zero => exact fun _ _ => Relation.ReflTransGen.refl
    | succ fuel induction =>
        intro ref st
        exact (dequeue_run ref st).trans (continueQueue_run induction _)
  exact fun ref st => unfolded _ ref st

end Runs

end Meshctl.Net
