import Meshctl.Net.SentSegments

/-! # What an acknowledgement confirms

An acknowledgement tells which segments of a record the receiver has received.
The sender applies it to whatever message waits at that time.
-/

namespace Meshctl.Net

open Bytes Execution

/-- The receiver has received segment `seg` of the message of a record. -/
def SegmentReceived (received : List BuiltPkt) (sar : MeshSarMsg) (seg : Nat) :
    Prop :=
  ∃ pkt ∈ received, pkt.sar.message = sar.message ∧ pkt.seg.toNat = seg

/-- Acknowledgements mark received segments only, and complete the message to
the address only when all of it was received. -/
def SoundAck (addr : U16) (entry : Entry LinkState LinkInput Unit) : Prop :=
  ∀ index nid seq, entry.input = .ack index nid seq →
    ∀ sar, entry.before.sender.findSarOutByDst addr = some sar →
      (∀ marked, entry.after.sender.findSarOutByDst addr = some marked →
        ∀ seg, acked marked.ack seg = true →
          SegmentReceived entry.before.received sar seg) ∧
      (entry.after.sender.findSarOutByDst addr = none →
        ∀ seg ≤ sar.segN.toNat,
          SegmentReceived entry.before.received sar seg)

/-- What keeps acknowledgements sound: messages of at most 32 segments, segments
that are read with the sequence number of their message, acknowledgements that
arrive while the message they were composed for waits, and a sequence counter
that does not run over. -/
structure LinkSafe (addr : U16) (entry : Entry LinkState LinkInput Unit) :
    Prop where
  short : ∀ ttl src dst appIdx buf len aad,
    entry.input = .sender (.accessSend ttl src dst appIdx buf len) →
    resolveDst entry.before.sender dst = some (addr.setWidth 32, aad) →
    len ≤ 380
  grouped : ∀ index netIdx pkt, entry.input = .segment index netIdx →
    deliverable addr index entry.before = some pkt →
    (pkt.arrival netIdx).seqAuth = pkt.sar.seqAuth
  timely : ∀ index nid seq ack sar, entry.input = .ack index nid seq →
    entry.before.acks[index]? = some ack →
    entry.before.sender.findSarOutByDst addr = some sar →
    ack.acked.seqAuth = sar.seqAuth
  counted : Counted entry.after.sender

/-! ## The invariant -/

/-- Marked segments of the message to the address were received. -/
def Confirmed (addr : U16) (received : List BuiltPkt) (st : NetState) : Prop :=
  ∀ sar ∈ st.msgOut.records, sar.dst = addr.setWidth 32 →
    ∀ seg < 32, sar.ack.getLsbD seg = true → SegmentReceived received sar seg

/-- A record of the receiver counts segments that it has received. -/
structure Backed (addr : U16) (received : List BuiltPkt) (record : MeshSarMsg) :
    Prop where
  dst : record.dst = addr.setWidth 32
  ack : ∀ seg < 32, record.ack.getLsbD seg = true →
    ∃ pkt ∈ received, pkt.sar.seqAuth = record.seqAuth ∧ pkt.seg.toNat = seg

structure LinkInvariant (addr : U16) (link : LinkState) : Prop where
  sent : ∃ current, SentSegments addr current link.sender
  confirmed : Confirmed addr link.received link.sender
  received : ∀ pkt ∈ link.received,
    pkt ∈ link.sender.built ∧ pkt.sar.SegmentedTo addr
  records : ∀ record ∈ link.receiver.sarIn.records,
    Backed addr link.received record
  acks : ∀ ack ∈ link.acks, Backed addr link.received ack.acked ∧
    ∃ st, ack.message = ackRecord ack.acked st

section Facts

variable {addr : U16} {received : List BuiltPkt} {sar record : MeshSarMsg}
  {st : NetState}

theorem SegmentReceived.mono {seg : Nat} {more : List BuiltPkt}
    (isReceived : SegmentReceived received sar seg)
    (subset : ∀ pkt ∈ received, pkt ∈ more) : SegmentReceived more sar seg := by
  rcases isReceived with ⟨pkt, member, same, isSeg⟩
  exact ⟨pkt, subset pkt member, same, isSeg⟩

theorem Backed.mono {more : List BuiltPkt} (backed : Backed addr received record)
    (subset : ∀ pkt ∈ received, pkt ∈ more) : Backed addr more record := by
  refine ⟨backed.dst, fun seg inMask isAcked => ?_⟩
  rcases backed.ack seg inMask isAcked with ⟨pkt, member, same, isSeg⟩
  exact ⟨pkt, subset pkt member, same, isSeg⟩

/-- Transmitting changes no marks. -/
theorem Confirmed.of_frozen {after : NetState}
    (confirmed : Confirmed addr received st)
    (same : after.msgOut.records.map MeshSarMsg.frozen =
      st.msgOut.records.map MeshSarMsg.frozen) :
    Confirmed addr received after := by
  intro sar member toAddr seg inMask isAcked
  rcases exists_same_frozen same member with ⟨old, present, frozen⟩
  have sameDst := congrArg MeshSarMsg.dst frozen
  have sameAck := congrArg MeshSarMsg.ack frozen
  have sameMessage := congrArg MeshSarMsg.message frozen
  change old.dst = sar.dst at sameDst
  change old.ack = sar.ack at sameAck
  change old.message = sar.message at sameMessage
  rw [SegmentReceived, ← sameMessage]
  exact confirmed old present (sameDst.trans toAddr) seg inMask
    (sameAck ▸ isAcked)

theorem find_frozen {before after : SarQueue}
    (same : after.records.map MeshSarMsg.frozen =
      before.records.map MeshSarMsg.frozen) (dst : U32) :
    (after.find dst).map MeshSarMsg.frozen =
      (before.find dst).map MeshSarMsg.frozen := by
  have found := congrArg (List.find? (·.dst = dst)) same
  rw [List.find?_map, List.find?_map] at found
  exact found

theorem Confirmed.flush (confirmed : Confirmed addr received st) (dst : U32) :
    Confirmed addr received (st.flushSarOut dst) :=
  fun sar member => confirmed sar ((KeyedList.mem_remove _ _ _).mp member).1

/-- A record may take the place of another if its marks are confirmed. -/
theorem Confirmed.set (confirmed : Confirmed addr received st)
    (marks : sar.dst = addr.setWidth 32 → ∀ seg < 32,
      sar.ack.getLsbD seg = true → SegmentReceived received sar seg) :
    Confirmed addr received (st.setSarOut sar) := by
  intro out member
  rcases KeyedList.mem_set member with isNew | ⟨before, _⟩
  · rw [isNew]
    exact marks
  · exact confirmed out before

end Facts

/-! ## The sender -/

/-- A step of the sender that leaves it sound. -/
structure SenderKept (addr : U16) (received : List BuiltPkt)
    (before after : NetState) : Prop where
  sent : ∃ current, SentSegments addr current after
  confirmed : Confirmed addr received after
  built : ∀ pkt ∈ before.built, pkt ∈ after.built

section Sender

variable {env : NetEnv} {addr : U16} {received : List BuiltPkt}
  {current : Option MeshSarMsg} {st after : NetState}

theorem SenderKept.run {Fresh : MeshSarMsg → Prop}
    (sent : SentSegments addr current st)
    (confirmed : Confirmed addr received st)
    (fresh : ∀ sar, Fresh sar → sar.SegmentedTo addr →
      some sar.message = current)
    (run : TxRun Fresh st after) (counted : Counted after) :
    SenderKept addr received st after :=
  ⟨⟨current, sent.run fresh run counted⟩,
    confirmed.of_frozen run.msgOut_frozen, run.built⟩

/-- Acknowledgements and timers change a record, then send segments again. -/
theorem SenderKept.setRun {old new : MeshSarMsg}
    (sent : SentSegments addr current st)
    (confirmed : Confirmed addr received st)
    (present : old ∈ st.msgOut.records) (same : new.message = old.message)
    (marks : new.dst = addr.setWidth 32 → ∀ seg < 32,
      new.ack.getLsbD seg = true → SegmentReceived received new seg)
    (run : TxRun (fun _ => False) (st.setSarOut new) after)
    (counted : Counted after) : SenderKept addr received st after := by
  have kept := SenderKept.run (sent.set present same) (confirmed.set marks)
    (fun _ absurd => absurd.elim) run counted
  exact ⟨kept.sent, kept.confirmed, kept.built⟩

/-- A new message is not acknowledged yet. -/
theorem sendAccessRecord_keeps (confirmed : Confirmed addr received st)
    {sar : MeshSarMsg} (unacked : sar.ack = 0) :
    Confirmed addr received (sendAccessRecord env sar st) ∧
      ∀ pkt ∈ st.built, pkt ∈ (sendAccessRecord env sar st).built := by
  rcases @sendAccessRecord_cases env (fun _ => True) sar trivial st with
    ⟨_, sending, run, equal⟩ | ⟨_, run⟩
  · rw [equal]
    have sentNow := (confirmed.flush sar.dst).of_frozen run.msgOut_frozen
    refine ⟨?_, run.built⟩
    intro out member
    rcases (KeyedList.mem_append _ _ _).mp member with ⟨before, _⟩ | isNew
    · exact sentNow out before
    · rw [isNew]
      intro _ seg _ isAcked
      change sar.ack.getLsbD seg = true at isAcked
      rw [unacked] at isAcked
      simp at isAcked
  · exact ⟨confirmed.of_frozen run.msgOut_frozen, run.built⟩

/-- A message for the address is cut into segments as the receiver expects. -/
theorem accessRecord_segmentedTo (ttl : Byte) (src : U16) {dst : U32}
    (aad : Option Key) (keys : EncKeys) (buf : List Byte) {len : U16}
    (short : dst = addr.setWidth 32 → len ≤ 380)
    (toAddr :
      (accessRecord env st ttl src dst aad keys buf len).SegmentedTo addr) :
    SegmentedAccess (accessRecord env st ttl src dst aad keys buf len) := by
  have atMost := BitVec.le_def.mp (short toAddr.2)
  have isSegmented := toAddr.1
  change decide (BitVec.ofNat 8 (segMax (len.toNat + 4)) ≠ 0) = true
    at isSegmented
  apply accessRecord_segmented
  · by_contra less
    rw [segMax, maxUnsegLen, if_pos (by omega)] at isSegmented
    exact of_decide_eq_true isSegmented rfl
  · exact atMost

/-- Whatever happens at the sender but beacons and acknowledgements. -/
theorem netStep_keeps (unicast : isUnicast addr = true)
    (sent : SentSegments addr current st)
    (confirmed : Confirmed addr received st) (input : NetInput)
    (isLocal : input.isLocal = true)
    (short : ∀ ttl src dst appIdx buf len aad,
      input = .accessSend ttl src dst appIdx buf len →
      resolveDst st dst = some (addr.setWidth 32, aad) → len ≤ 380)
    (counted : Counted (netStep env st input).nextState) :
    SenderKept addr received st (netStep env st input).nextState := by
  have same : SenderKept addr received st st :=
    ⟨⟨current, sent⟩, confirmed, fun _ member => member⟩
  have nothing : ∀ sar : MeshSarMsg, False → sar.SegmentedTo addr →
      some sar.message = current := fun _ absurd => absurd.elim
  cases input with
  | beacon => cases isLocal
  | ack => cases isLocal
  | accessSend ttl src dst appIdx buf len =>
      change SenderKept addr received st
        (netAccessLayerSend env ttl src dst appIdx buf len st).2
      change Counted (netAccessLayerSend env ttl src dst appIdx buf len st).2
        at counted
      rcases @netAccessLayerSend_cases env ttl src dst appIdx buf len st with
        unchanged | ⟨_, ttl', src', dst', aad, keys, resolved, equal⟩
      · rw [unchanged]
        exact same
      · rw [equal] at counted ⊢
        have atMost : dst' = addr.setWidth 32 → len ≤ 380 := fun isAddr =>
          short ttl src dst appIdx buf len aad rfl (isAddr ▸ resolved)
        rcases @sendAccessRecord_keeps env _ _ _ confirmed
          (accessRecord env st ttl' src' dst' aad keys buf len) rfl with
          ⟨keptMarks, keptBuilt⟩
        exact ⟨sent.accessSend unicast rfl rfl
          (accessRecord_segmentedTo ttl' src' aad keys buf atMost) counted,
          keptMarks, keptBuilt⟩
  | ctlSend ttl src dst buf len =>
      apply SenderKept.run sent confirmed _
        (netCtlMsgSend_run ttl src dst buf len st) counted
      intro sar isControl toAddr
      cases isControl.2.2.symm.trans toAddr.1
  | ackTimeout dst =>
      change SenderKept addr received st (sarOutAckTimeout env dst st)
      rcases @sarOutAckTimeout_cases env dst st with
        unchanged | ⟨sar, present, run⟩
      · rw [unchanged]
        exact same
      · apply SenderKept.setRun sent confirmed present _ _ run counted
        · rfl
        · exact confirmed sar present
  | msgTimeout dst =>
      exact ⟨⟨current, sent.flush dst⟩, confirmed.flush dst,
        fun _ member => member⟩
  | writeReply index success =>
      exact SenderKept.run sent confirmed nothing
        (acquireWriteReply_run index success st) counted
  | sessionOpen dataIn provisioner cb =>
      change SenderKept addr received st
        (netSessionOpen dataIn provisioner cb st).2
      rw [netSessionOpen]
      cases st.proxyIn with
      | some _ => exact same
      | none =>
          exact ⟨⟨current, sent.outgoing, sent.message, sent.built, sent.same⟩,
            confirmed, fun _ member => member⟩
  | sessionClose dataIn =>
      exact ⟨⟨current, fun _ member => (by cases member), sent.message,
        sent.built, sent.same⟩, fun _ member => (by cases member),
        fun _ member => member⟩

/-! ## An acknowledgement at the sender -/

/-- The marks that a timely acknowledgement adds are confirmed. -/
theorem marks_received (sent : SentSegments addr current st)
    (confirmed : Confirmed addr received st)
    (isReceived : ∀ pkt ∈ received,
      pkt ∈ st.built ∧ pkt.sar.SegmentedTo addr)
    {sar record : MeshSarMsg} (found : st.findSarOutByDst addr = some sar)
    (backed : Backed addr received record)
    (timely : record.seqAuth = sar.seqAuth) {seg : Nat} (inMask : seg < 32)
    (marked : (sar.ack ||| (record.ack &&& fullAck sar.segN)).getLsbD seg =
      true) : SegmentReceived received sar seg := by
  have present := KeyedList.mem_of_find found
  have isAddr : sar.dst = addr.setWidth 32 := KeyedList.key_of_find found
  rw [BitVec.getLsbD_or, BitVec.getLsbD_and, Bool.or_eq_true,
    Bool.and_eq_true] at marked
  rcases marked with before | ⟨isAcked, _⟩
  · exact confirmed sar present isAddr seg inMask before
  · rcases backed.ack seg inMask isAcked with ⟨pkt, member, same, isSeg⟩
    rcases isReceived pkt member with ⟨isBuilt, toAddr⟩
    have isCurrent := (sent.outgoing sar present isAddr).symm
    exact ⟨pkt, member, sent.same sar.message isCurrent pkt isBuilt toAddr
      (same.trans timely), isSeg⟩

/-- A record with new marks keeps them while its segments are sent again. -/
theorem find_marked {after : NetState} {sar marked : MeshSarMsg}
    (found : st.findSarOutByDst addr = some sar) (sameDst : marked.dst = sar.dst)
    (frozen : after.msgOut.records.map MeshSarMsg.frozen =
      (st.setSarOut marked).msgOut.records.map MeshSarMsg.frozen) :
    (after.findSarOutByDst addr).map MeshSarMsg.frozen = some marked.frozen := by
  have isAddr : sar.dst = addr.setWidth 32 := KeyedList.key_of_find found
  have placed : (st.setSarOut marked).msgOut.find (addr.setWidth 32) =
      some marked := KeyedList.find_set_self found (sameDst.trans isAddr)
  have same := find_frozen frozen (addr.setWidth 32)
  rw [placed] at same
  exact same

/-- An acknowledgement of the message that waits leaves the sender sound, marks
received segments, and completes a received message. -/
theorem ackRxed_sound (sent : SentSegments addr current st)
    (confirmed : Confirmed addr received st)
    (isReceived : ∀ pkt ∈ received,
      pkt ∈ st.built ∧ pkt.sar.SegmentedTo addr)
    {record : MeshSarMsg} (backed : Backed addr received record)
    (timely : ∀ sar, st.findSarOutByDst addr = some sar →
      record.seqAuth = sar.seqAuth)
    (dst : U16) (obo : Bool) (seq0 : U16)
    (counted : Counted (ackRxed env addr dst obo seq0 record.ack st).2) :
    SenderKept addr received st (ackRxed env addr dst obo seq0 record.ack st).2 ∧
      ∀ sar, st.findSarOutByDst addr = some sar →
        (∀ marked, (ackRxed env addr dst obo seq0 record.ack
            st).2.findSarOutByDst addr = some marked →
          ∀ seg, acked marked.ack seg = true →
            SegmentReceived received sar seg) ∧
        ((ackRxed env addr dst obo seq0 record.ack
            st).2.findSarOutByDst addr = none →
          ∀ seg ≤ sar.segN.toNat, SegmentReceived received sar seg) := by
  rcases @ackRxed_cases env addr dst obo seq0 record.ack st with
    ⟨none, unchanged⟩ | ⟨sar, found, ⟨complete, flushed⟩ | ⟨incomplete, run⟩⟩
  · rw [unchanged]
    refine ⟨⟨⟨current, sent⟩, confirmed, fun _ member => member⟩, ?_⟩
    intro sar found
    rw [none] at found
    cases found
  · rw [flushed]
    refine ⟨⟨⟨current, sent.flush _⟩, confirmed.flush _,
      fun _ member => member⟩, ?_⟩
    intro other isOther
    rw [found, Option.some_inj] at isOther
    subst isOther
    have present := KeyedList.mem_of_find found
    have isAddr : sar.dst = addr.setWidth 32 := KeyedList.key_of_find found
    refine ⟨?_, ?_⟩
    · intro marked stillThere
      rw [NetState.findSarOutByDst, NetState.flushSarOut, isAddr,
        KeyedList.find_remove_self] at stillThere
      cases stillThere
    · intro _ seg inMessage
      have isCurrent := (sent.outgoing sar present isAddr).symm
      have segmented := (sent.message _ isCurrent).1.of_message
      have small := segmented.lastSize.2.1
      apply marks_received sent confirmed isReceived found backed
        (timely sar found) (by omega)
      rw [complete, getLsbD_fullAck small]
      exact decide_eq_true inMessage
  · have present := KeyedList.mem_of_find found
    have isAddr : sar.dst = addr.setWidth 32 := KeyedList.key_of_find found
    have marks : ∀ seg < 32,
        (sar.ack ||| (record.ack &&& fullAck sar.segN)).getLsbD seg = true →
        SegmentReceived received sar seg :=
      fun seg inMask marked => marks_received sent confirmed isReceived found
        backed (timely sar found) inMask marked
    refine ⟨?_, ?_⟩
    · apply SenderKept.setRun sent confirmed present _ _ run counted
      · rfl
      · exact fun _ => marks
    · intro other isOther
      rw [found, Option.some_inj] at isOther
      subst isOther
      have same := find_marked found (by rfl) run.msgOut_frozen
      refine ⟨?_, ?_⟩
      · intro marked stillThere seg isAcked
        rw [stillThere, Option.map_some, Option.some_inj] at same
        have sameAck := congrArg MeshSarMsg.ack same
        change marked.ack = sar.ack ||| (record.ack &&& fullAck sar.segN)
          at sameAck
        rcases (acked_iff _ _).mp isAcked with ⟨inMask, isSet⟩
        exact marks seg inMask (sameAck ▸ isSet)
      · intro gone
        rw [gone] at same
        cases same

end Sender

/-! ## The receiver -/

section Receiver

variable {env : NetEnv} {upper : MsgReceiver} {addr : U16}
  {received : List BuiltPkt} {record : MeshSarMsg} {pkt : BuiltPkt}
  {netIdx : U16} {st : NetState}

/-- What is asked of a record is what sending leaves unchanged. -/
theorem Backed.of_frozen (backed : Backed addr received record)
    {other : MeshSarMsg} (same : other.frozen = record.frozen) :
    Backed addr received other := by
  have frozen : Backed addr received record.frozen :=
    ⟨backed.dst, backed.ack⟩
  rw [← same] at frozen
  exact ⟨frozen.dst, frozen.ack⟩

theorem Backed.decrypted (backed : Backed addr received record)
    (payload : Option (List Byte)) :
    Backed addr received (decryptInPlace payload record) := by
  cases payload with
  | none => exact backed
  | some payload => exact ⟨backed.dst, backed.ack⟩

/-- What is read from a segment that arrives. -/
theorem arrival_facts (message : SegmentedAccess pkt.sar)
    (inMessage : pkt.seg.toNat ≤ pkt.sar.segN.toNat) :
    SegmentFacts pkt.sar pkt.seg (pkt.arrival netIdx) := by
  have wire : (pkt.arrival netIdx).ReadFrom (receivedSegment netIdx
      pkt.sar.ivIndex (segmentPdu pkt.sar pkt.seg pkt.nid pkt.seq).1
      (segmentPdu pkt.sar pkt.seg pkt.nid pkt.seq).2) := by
    have len : pkt.len - micSize pkt.sar.ctl =
        (segmentPdu pkt.sar pkt.seg pkt.nid pkt.seq).2 :=
      BitVec.add_sub_cancel _ _
    rw [BuiltPkt.arrival, len]
    exact ⟨rfl, rfl, rfl, rfl, fun _ _ => rfl⟩
  exact wire.facts message inMessage

theorem newSar_backed (facts : SegmentFacts pkt.sar pkt.seg (pkt.arrival netIdx))
    (toAddr : pkt.sar.SegmentedTo addr) :
    Backed addr received (newSar (pkt.arrival netIdx)) := by
  refine ⟨?_, ?_⟩
  · change (pkt.arrival netIdx).dst.setWidth 32 = addr.setWidth 32
    rw [facts.dst, toAddr.2]
    congr 1
    exact BitVec.setWidth_setWidth_of_le _ (by omega)
  · intro seg _ isAcked
    simp [newSar, MeshSarMsg.copyData, MeshSarMsg.zero] at isAcked

/-- The record counts the segment that is stored in it. -/
theorem Backed.store (backed : Backed addr received record)
    (facts : SegmentFacts pkt.sar pkt.seg (pkt.arrival netIdx))
    (same : pkt.sar.seqAuth = record.seqAuth) :
    Backed addr (received ++ [pkt])
      (storeSegment (pkt.arrival netIdx) record) := by
  rw [storeSegment_eq, facts.segO]
  refine ⟨backed.dst, ?_⟩
  intro seg inMask isAcked
  rw [BitVec.getLsbD_or, getLsbD_one_shiftLeft _ inMask, Bool.or_eq_true,
    decide_eq_true_eq] at isAcked
  rcases isAcked with before | isNew
  · rcases backed.ack seg inMask before with ⟨earlier, member, sameSeq, isSeg⟩
    exact ⟨earlier, List.mem_append_left _ member, sameSeq, isSeg⟩
  · exact ⟨pkt, List.mem_append_right _ (List.mem_singleton_self _), same,
      isNew.symm⟩

/-- A segment leaves all records backed, and is acknowledged with a backed
record. -/
theorem segRxed_backed
    (facts : SegmentFacts pkt.sar pkt.seg (pkt.arrival netIdx))
    (toAddr : pkt.sar.SegmentedTo addr)
    (grouped : (pkt.arrival netIdx).seqAuth = pkt.sar.seqAuth)
    (records : ∀ record ∈ st.sarIn.records, Backed addr received record) :
    (∀ record ∈
        (segRxed env upper (pkt.arrival netIdx) st).nextState.sarIn.records,
      Backed addr (received ++ [pkt]) record) ∧
    ∀ acked,
      (segRxed env upper (pkt.arrival netIdx) st).observation.acked =
        some acked → Backed addr (received ++ [pkt]) acked := by
  have earlier : ∀ record ∈ st.sarIn.records,
      Backed addr (received ++ [pkt]) record := fun record member =>
    (records record member).mono fun _ => List.mem_append_left _
  by_cases stale : (pkt.arrival netIdx).Stale st
  · rw [segRxed_stale stale]
    exact ⟨earlier, fun _ absurd => (by cases absurd)⟩
  · rcases @segRxed_spec env upper _ _ stale with ⟨sar, isRecord, stored⟩
    have backed : Backed addr received sar := by
      rcases isRecord with ⟨found, _⟩ | ⟨_, isNew⟩
      · exact records sar (KeyedList.mem_of_find found)
      · rw [isNew]
        exact newSar_backed facts toAddr
    have same : pkt.sar.seqAuth = sar.seqAuth :=
      (isRecord.continues.seqAuth.trans grouped).symm
    rcases stored.left with ⟨last, payload, found, frozen, _, acked⟩
    have lastBacked : Backed addr (received ++ [pkt]) last :=
      ((backed.store facts same).decrypted payload).of_frozen frozen
    refine ⟨?_, ?_⟩
    · intro record member
      have isFound := (KeyedList.find_eq_some_iff _ _ _).mpr ⟨member, rfl⟩
      by_cases isSrc : record.src = (pkt.arrival netIdx).src
      · rw [isSrc, found, Option.some_inj] at isFound
        exact isFound ▸ lastBacked
      · rw [stored.others _ isSrc] at isFound
        exact earlier record (KeyedList.mem_of_find isFound)
    · intro record isAcked
      exact lastBacked.of_frozen (acked record isAcked)

/-- The timer repeats the acknowledgement of a record. -/
theorem sarInAckTimeout_backed (src : U16)
    (records : ∀ record ∈ st.sarIn.records, Backed addr received record) :
    (∀ record ∈ (sarInAckTimeout env src st).nextState.sarIn.records,
      Backed addr received record) ∧
    ∀ acked, (sarInAckTimeout env src st).observation.acked = some acked →
      Backed addr received acked := by
  rw [sarInAckTimeout]
  cases found : st.sarIn.find src with
  | none => exact ⟨records, fun _ absurd => (by cases absurd)⟩
  | some sar =>
      have backed := records sar (KeyedList.mem_of_find found)
      dsimp only
      split
      next => exact ⟨records, fun _ absurd => (by cases absurd)⟩
      next =>
        split
        next =>
          refine ⟨?_, fun acked isAcked => Option.some_inj.mp isAcked ▸ backed⟩
          intro record member
          dsimp only at member
          rw [sendSarAck_sarIn] at member
          rcases KeyedList.mem_set member with isNew | ⟨before, _⟩
          · exact isNew ▸ backed.of_frozen rfl
          · exact records record before
        next => exact ⟨records, fun _ absurd => (by cases absurd)⟩

end Receiver

/-! ## Runs -/

section Runs

variable {senderEnv receiverEnv : NetEnv} {upper : MsgReceiver} {addr : U16}
  {link : LinkState}

theorem deliverable_eq_some {index : Nat} {pkt : BuiltPkt}
    (found : deliverable addr index link = some pkt) :
    pkt ∈ link.sender.built ∧ pkt.sar.SegmentedTo addr := by
  rw [deliverable] at found
  split at found
  · rcases Option.filter_eq_some_iff.mp found with ⟨isBuilt, toAddr⟩
    exact ⟨List.mem_of_getElem? isBuilt, of_decide_eq_true toAddr⟩
  · cases found

/-- The sender takes a step. -/
theorem LinkInvariant.send (invariant : LinkInvariant addr link)
    {after : NetState}
    (kept : SenderKept addr link.received link.sender after) :
    LinkInvariant addr { link with sender := after } where
  sent := kept.sent
  confirmed := kept.confirmed
  received pkt member :=
    ⟨kept.built pkt (invariant.received pkt member).1,
      (invariant.received pkt member).2⟩
  records := invariant.records
  acks := invariant.acks

/-- The receiver receives a segment that was sent. -/
theorem LinkInvariant.receive (invariant : LinkInvariant addr link)
    {pkt : BuiltPkt} (isBuilt : pkt ∈ link.sender.built)
    (toAddr : pkt.sar.SegmentedTo addr) :
    LinkInvariant addr { link with received := link.received ++ [pkt] } where
  sent := invariant.sent
  confirmed sar member isAddr seg inMask isAcked :=
    (invariant.confirmed sar member isAddr seg inMask isAcked).mono
      fun _ => List.mem_append_left _
  received other member := by
    rcases List.mem_append.mp member with before | isNew
    · exact invariant.received other before
    · rw [List.mem_singleton.mp isNew]
      exact ⟨isBuilt, toAddr⟩
  records record member :=
    (invariant.records record member).mono fun _ => List.mem_append_left _
  acks ack member :=
    ⟨(invariant.acks ack member).1.mono fun _ => List.mem_append_left _,
      (invariant.acks ack member).2⟩

/-- The receiver has new records, and may have composed an acknowledgement. -/
theorem LinkInvariant.afterReceiving (invariant : LinkInvariant addr link)
    {result : StepResult NetState SegObservation}
    (records : ∀ record ∈ result.nextState.sarIn.records,
      Backed addr link.received record)
    (composed : ∀ acked, result.observation.acked = some acked →
      Backed addr link.received acked) :
    LinkInvariant addr (afterReceiving result link) where
  sent := invariant.sent
  confirmed := invariant.confirmed
  received := invariant.received
  records := records
  acks ack member := by
    rcases List.mem_append.mp member with before | isNew
    · exact invariant.acks ack before
    · rcases Option.map_eq_some_iff.mp (Option.mem_toList.mp isNew) with
        ⟨acked, isAcked, equal⟩
      rw [← equal]
      exact ⟨composed acked isAcked, _, rfl⟩

/-- An acknowledgement in flight is read with the address of the receiver and
the mask of its record. -/
theorem SarAck.input_eq {ack : SarAck} {received : List BuiltPkt}
    (backed : Backed addr received ack.acked)
    (composed : ∃ st, ack.message = ackRecord ack.acked st) (nid : Byte)
    (seq : U32) :
    ∃ dst obo seq0, ack.input nid seq =
      .ack addr dst obo seq0 ack.acked.ack := by
  rcases composed with ⟨st, message⟩
  have isSrc : (ackRecord ack.acked st).src = addr := by
    change ack.acked.dst.setWidth 16 = addr
    rw [backed.dst]
    exact BitVec.setWidth_setWidth_of_le _ (by omega)
  rw [SarAck.input, message, pktSrc_segmentPdu, isSrc, pktAck_ackRecord]
  exact ⟨_, _, _, rfl⟩

/-- An acknowledgement that changes nothing is sound. -/
theorem LinkInvariant.soundAck (invariant : LinkInvariant addr link)
    {entry : Entry LinkState LinkInput Unit} (before : entry.before = link)
    (unchanged : entry.after = link) : SoundAck addr entry := by
  intro _ _ _ _ sar found
  rw [before] at found ⊢
  rw [unchanged]
  refine ⟨?_, ?_⟩
  · intro marked stillThere seg isAcked
    rw [found, Option.some_inj] at stillThere
    rw [← stillThere] at isAcked
    rcases (acked_iff _ _).mp isAcked with ⟨inMask, isSet⟩
    exact invariant.confirmed sar (KeyedList.mem_of_find found)
      (KeyedList.key_of_find found) seg inMask isSet
  · intro gone
    rw [found] at gone
    cases gone

/-- A step that meets the condition is sound, and keeps the invariant. -/
theorem linkStep_sound (unicast : isUnicast addr = true)
    (invariant : LinkInvariant addr link) (input : LinkInput)
    (safe : LinkSafe addr
      ((linkModel senderEnv receiverEnv upper addr).entry link input)) :
    LinkInvariant addr
        (linkStep senderEnv receiverEnv upper addr link input).nextState ∧
      SoundAck addr
        ((linkModel senderEnv receiverEnv upper addr).entry link input) := by
  have counted := safe.counted
  change Counted (linkStep senderEnv receiverEnv upper addr link
    input).nextState.sender at counted
  rcases invariant.sent with ⟨current, sent⟩
  cases input with
  | sender input =>
      refine ⟨?_, fun _ _ _ isAck => (by cases isAck)⟩
      rw [linkStep] at counted ⊢
      split
      next isLocal =>
        rw [if_pos isLocal] at counted
        apply invariant.send
        refine netStep_keeps unicast sent invariant.confirmed input isLocal
          ?_ counted
        intro ttl src dst appIdx buf len aad isSend resolved
        exact safe.short ttl src dst appIdx buf len aad
          (congrArg LinkInput.sender isSend) resolved
      next => exact invariant
  | segment index netIdx =>
      refine ⟨?_, fun _ _ _ isAck => (by cases isAck)⟩
      rw [linkStep]
      cases found : deliverable addr index link with
      | none => exact invariant
      | some pkt =>
          rcases deliverable_eq_some found with ⟨isBuilt, toAddr⟩
          rcases sent.built pkt isBuilt toAddr with ⟨message, inMessage, _⟩
          have facts : SegmentFacts pkt.sar pkt.seg (pkt.arrival netIdx) :=
            arrival_facts message inMessage
          rcases segRxed_backed facts toAddr
            (safe.grouped index netIdx pkt rfl found) invariant.records with
            ⟨records, composed⟩
          exact (invariant.receive isBuilt toAddr).afterReceiving records
            composed
  | ack index nid seq =>
      rw [linkStep] at counted ⊢
      cases isAck : link.acks[index]? with
      | none =>
          refine ⟨invariant, invariant.soundAck rfl ?_⟩
          simp only [Model.entry_after, linkModel, linkStep, isAck]
      | some ack =>
          rcases invariant.acks ack (List.mem_of_getElem? isAck) with
            ⟨backed, composed⟩
          rcases SarAck.input_eq backed composed nid seq with
            ⟨dst, obo, seq0, isInput⟩
          rw [isAck] at counted
          dsimp only at counted ⊢
          rw [isInput] at counted ⊢
          rcases ackRxed_sound sent invariant.confirmed invariant.received
            backed (fun sar => safe.timely index nid seq ack sar rfl isAck)
            dst obo seq0 counted with ⟨kept, sound⟩
          refine ⟨invariant.send kept, ?_⟩
          have after : ((linkModel senderEnv receiverEnv upper addr).entry
              link (.ack index nid seq)).after.sender =
              (ackRxed senderEnv addr dst obo seq0 ack.acked.ack
                link.sender).2 := by
            simp only [Model.entry_after, linkModel, linkStep, isAck, isInput]
            rfl
          intro _ _ _ _ sar found
          rw [after]
          exact sound sar found
  | receiverAckTimeout src =>
      refine ⟨?_, fun _ _ _ isAck => (by cases isAck)⟩
      rcases @sarInAckTimeout_backed receiverEnv _ _ _ src invariant.records with
        ⟨records, composed⟩
      exact invariant.afterReceiving records composed
  | receiverMsgTimeout src =>
      refine ⟨?_, fun _ _ _ isAck => (by cases isAck)⟩
      exact ⟨invariant.sent, invariant.confirmed, invariant.received,
        fun record member => invariant.records record
          ((KeyedList.mem_remove _ _ _).mp member).1, invariant.acks⟩

/-- Two nodes between which nothing was sent yet. -/
def LinkState.start (sender receiver : NetState) : LinkState where
  sender := sender
  receiver := receiver
  received := []
  acks := []

structure NothingSent (sender receiver : NetState) : Prop where
  built : sender.built = []
  msgOut : sender.msgOut.records = []
  sarIn : receiver.sarIn.records = []

theorem NothingSent.invariant {sender receiver : NetState}
    (nothing : NothingSent sender receiver) :
    LinkInvariant addr (LinkState.start sender receiver) := by
  have noMessage : ∀ sar, sar ∉ sender.msgOut.records := by
    simp [nothing.msgOut]
  have noPacket : ∀ pkt, pkt ∉ sender.built := by simp [nothing.built]
  have noRecord : ∀ sar, sar ∉ receiver.sarIn.records := by
    simp [nothing.sarIn]
  have sent : SentSegments addr none sender :=
    ⟨fun sar member => absurd member (noMessage sar),
      fun _ absurd => (by cases absurd),
      fun pkt member => absurd member (noPacket pkt),
      fun _ absurd => (by cases absurd)⟩
  exact ⟨⟨none, sent⟩, fun sar member => absurd member (noMessage sar),
    fun _ isNone => absurd isNone List.not_mem_nil,
    fun sar member => absurd member (noRecord sar),
    fun _ isNone => absurd isNone List.not_mem_nil⟩

/-- As long as every step meets the condition, no acknowledgement confirms more
than what the receiver has received. -/
theorem acknowledgements_sound (senderEnv receiverEnv : NetEnv)
    (upper : MsgReceiver) {addr : U16} (unicast : isUnicast addr = true)
    {sender receiver : NetState} (nothing : NothingSent sender receiver)
    (inputs : List LinkInput)
    (safe : ∀ entry ∈ (linkModel senderEnv receiverEnv upper addr).trace
      (LinkState.start sender receiver) inputs, LinkSafe addr entry) :
    ∀ entry ∈ (linkModel senderEnv receiverEnv upper addr).trace
      (LinkState.start sender receiver) inputs, SoundAck addr entry := by
  intro entry member
  have isStep := Model.entry_of_mem_trace _ member
  have invariant := (Model.invariant_of_mem_trace _ (LinkInvariant addr)
    (LinkSafe addr)
    (fun link input holds allowed =>
      (linkStep_sound unicast holds input allowed).1)
    nothing.invariant safe member).1
  have allowed := safe entry member
  rw [isStep] at allowed ⊢
  exact (linkStep_sound unicast invariant entry.input allowed).2

end Runs

/-! ### Two messages of two segments -/

/-- The node at address 2 in an open session. -/
def neighbour : NetState :=
  { openNode with
    nodes :=
      { nodes := KeyedList.empty.append
          { ref := 0, ivIndex := 0, seqNumber := 0, primaryNetIdx := 0
            primary := 2, devKey := 0, numEle := 1, provisioner := true
            elements := [] }
        localNode := some 0 } }

def sendTwelveBytes : LinkInput :=
  .sender (.accessSend 5 0 2 appIdxDev (List.replicate 12 1) 12)

theorem openNode_nothingSent : NothingSent openNode neighbour where
  built := rfl
  msgOut := rfl
  sarIn := rfl

/-- A message is sent, received and acknowledged; then a second one is sent. -/
def secondMessage : LinkState :=
  (linkModel plainEnv plainEnv quietReceiver 2).finalState
    (LinkState.start openNode neighbour)
    [sendTwelveBytes, .segment 0 0, .segment 1 0, .ack 0 1 0, sendTwelveBytes]

/-- The acknowledgement of the first message arrives again, and removes the
second one. -/
theorem acknowledgements_not_always_sound :
    ¬∀ (senderEnv receiverEnv : NetEnv) (upper : MsgReceiver) (addr : U16),
      isUnicast addr = true → ∀ sender receiver : NetState,
      NothingSent sender receiver → ∀ inputs : List LinkInput,
      ∀ entry ∈ (linkModel senderEnv receiverEnv upper addr).trace
        (LinkState.start sender receiver) inputs, SoundAck addr entry := by
  intro always
  have sound := always plainEnv plainEnv quietReceiver 2 rfl openNode neighbour
    openNode_nothingSent _ _ (Model.entry_mem_trace_concat _ _
      [sendTwelveBytes, .segment 0 0, .segment 1 0, .ack 0 1 0,
        sendTwelveBytes] (.ack 0 1 0)) 0 1 0 rfl
  rw [Model.entry_before, Model.entry_after, ← secondMessage] at sound
  have waits : (secondMessage.sender.findSarOutByDst 2).map
      MeshSarMsg.seqAuth = some 2 := by decide +kernel
  have removed : ((linkModel plainEnv plainEnv quietReceiver 2).step
      secondMessage (.ack 0 1 0)).nextState.sender.findSarOutByDst 2 = none := by
    apply Option.isNone_iff_eq_none.mp
    decide +kernel
  have received : secondMessage.received.map (·.sar.seqAuth) = [0, 0] := by
    decide +kernel
  rcases Option.map_eq_some_iff.mp waits with ⟨sar, found, isSecond⟩
  rcases (sound sar found).2 removed 0 (Nat.zero_le _) with
    ⟨pkt, member, same, _⟩
  have sameSeq := congrArg MeshSarMsg.seqAuth same
  change pkt.sar.seqAuth = sar.seqAuth at sameSeq
  have isFirst : pkt.sar.seqAuth ∈ secondMessage.received.map (·.sar.seqAuth) :=
    List.mem_map_of_mem member
  rw [received, sameSeq, isSecond] at isFirst
  revert isFirst
  decide

section Condition

variable {senderEnv receiverEnv : NetEnv} {upper : MsgReceiver} {addr : U16}
  {link : LinkState} {index : Nat}

/-- The condition for an access message, wherever it goes. -/
theorem linkSafe_accessSend {ttl : Byte} {src : U16} {dst : U32} {appIdx : U16}
    {buf : List Byte} {len : U16} (short : len ≤ 380)
    (counted : Counted (linkStep senderEnv receiverEnv upper addr link
      (.sender (.accessSend ttl src dst appIdx buf len))).nextState.sender) :
    LinkSafe addr ((linkModel senderEnv receiverEnv upper addr).entry link
      (.sender (.accessSend ttl src dst appIdx buf len))) := by
  refine ⟨?_, fun _ _ _ isSegment => (by cases isSegment),
    fun _ _ _ _ _ isAck => (by cases isAck), counted⟩
  intro _ _ _ _ _ _ _ isSend _
  cases isSend
  exact short

/-- The condition for a segment. -/
theorem linkSafe_segment {netIdx : U16}
    (grouped : ∀ pkt ∈ deliverable addr index link,
      (pkt.arrival netIdx).seqAuth = pkt.sar.seqAuth)
    (counted : Counted (linkStep senderEnv receiverEnv upper addr link
      (.segment index netIdx)).nextState.sender) :
    LinkSafe addr ((linkModel senderEnv receiverEnv upper addr).entry link
      (.segment index netIdx)) := by
  refine ⟨fun _ _ _ _ _ _ _ isSend => (by cases isSend), ?_,
    fun _ _ _ _ _ isAck => (by cases isAck), counted⟩
  intro _ _ pkt isSegment found
  cases isSegment
  exact grouped pkt found

/-- The condition for an acknowledgement. -/
theorem linkSafe_ack {nid : Byte} {seq : U32}
    (timely : ∀ ack ∈ link.acks[index]?,
      ∀ sar ∈ link.sender.findSarOutByDst addr,
        ack.acked.seqAuth = sar.seqAuth)
    (counted : Counted (linkStep senderEnv receiverEnv upper addr link
      (.ack index nid seq)).nextState.sender) :
    LinkSafe addr ((linkModel senderEnv receiverEnv upper addr).entry link
      (.ack index nid seq)) := by
  refine ⟨fun _ _ _ _ _ _ _ isSend => (by cases isSend),
    fun _ _ _ isSegment => (by cases isSegment), ?_, counted⟩
  intro _ _ _ ack sar isAck isWaiting found
  cases isAck
  exact timely ack isWaiting sar found

end Condition

/-- The only message was received, but its acknowledgement not yet. -/
def firstMessage : LinkState :=
  (linkModel plainEnv plainEnv quietReceiver 2).finalState
    (LinkState.start openNode neighbour)
    [sendTwelveBytes, .segment 0 0, .segment 1 0]

theorem acknowledgements_sound_once :
    SoundAck 2 ((linkModel plainEnv plainEnv quietReceiver 2).entry
      firstMessage (.ack 0 1 0)) := by
  apply acknowledgements_sound plainEnv plainEnv quietReceiver rfl
    openNode_nothingSent
    ([sendTwelveBytes, .segment 0 0, .segment 1 0] ++ [.ack 0 1 0]) _ _
    (Model.entry_mem_trace_concat _ _ _ _)
  simp only [List.cons_append, List.nil_append, Model.trace_cons,
    Model.trace_nil, List.forall_mem_cons, List.not_mem_nil, IsEmpty.forall_iff,
    implies_true, and_true]
  refine ⟨linkSafe_accessSend ?_ ?_, linkSafe_segment ?_ ?_,
    linkSafe_segment ?_ ?_, linkSafe_ack ?_ ?_⟩
  all_goals decide +kernel

end Meshctl.Net
