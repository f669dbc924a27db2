import Meshctl.Net.Link

/-! # What was sent to one address

The segments that were ever built for an address, against the one message to it
that waits for acknowledgement: a segment with the sequence number of the
message is a segment of the message.
-/

namespace Meshctl.Net

open Bytes Execution

/-- A record without what sending and acknowledging change in it. -/
def MeshSarMsg.message (sar : MeshSarMsg) : MeshSarMsg :=
  { sar with ackTo := false, msgTo := false, ack := 0, activityCnt := 0 }

/-- The sequence counter does not run over. -/
def Counted (st : NetState) : Prop :=
  ∀ pkt ∈ st.built, pkt.seq.toNat + 1 < 2 ^ 32

instance (st : NetState) : Decidable (Counted st) :=
  inferInstanceAs (Decidable (∀ pkt ∈ st.built, pkt.seq.toNat + 1 < 2 ^ 32))

/-- The message to the address is `current`, if there is one. -/
structure SentSegments (addr : U16) (current : Option MeshSarMsg)
    (st : NetState) : Prop where
  outgoing : ∀ sar ∈ st.msgOut.records, sar.dst = addr.setWidth 32 →
    some sar.message = current
  message : ∀ sar, current = some sar →
    SegmentedAccess sar ∧ sar.seqAuth.toNat ≤ st.seqNum.toNat
  built : ∀ pkt ∈ st.built, pkt.sar.SegmentedTo addr →
    SegmentedAccess pkt.sar ∧ pkt.seg.toNat ≤ pkt.sar.segN.toNat ∧
      pkt.sar.seqAuth.toNat ≤ pkt.seq.toNat ∧
      pkt.seq.toNat < st.seqNum.toNat
  same : ∀ sar, current = some sar → ∀ pkt ∈ st.built,
    pkt.sar.SegmentedTo addr → pkt.sar.seqAuth = sar.seqAuth →
      pkt.sar.message = sar

section

variable {addr : U16} {current : Option MeshSarMsg} {st : NetState}

theorem SegmentedAccess.of_message {sar : MeshSarMsg}
    (message : SegmentedAccess sar.message) : SegmentedAccess sar :=
  ⟨message.access, message.segmented, message.long, message.short,
    message.segN⟩

/-- A packet of the current message, or one that is not a segment for the
address. -/
theorem SentSegments.build (sent : SentSegments addr current st)
    {sar : MeshSarMsg} {seg : Byte} (nid : Byte)
    (inMessage : seg.toNat ≤ sar.segN.toNat)
    (isCurrent : sar.SegmentedTo addr → some sar.message = current)
    (counted : Counted (recordBuilt sar seg nid st).2) :
    SentSegments addr current (recordBuilt sar seg nid st).2 := by
  rcases recordBuilt_eq sar seg nid st with ⟨reserved, stored, equal⟩
  rw [equal] at counted ⊢
  have bound := counted _ (List.mem_append_right _ (List.mem_singleton_self _))
  have next : (st.seqNum + 1).toNat = st.seqNum.toNat + 1 := by
    simp only [BitVec.toNat_add, BitVec.ofNat_eq_ofNat, BitVec.toNat_ofNat]
    dsimp only at bound
    omega
  refine ⟨sent.outgoing, ?_, ?_, ?_⟩
  · intro message isMessage
    rcases sent.message message isMessage with ⟨segmented, atMost⟩
    exact ⟨segmented, by dsimp only; omega⟩
  · intro pkt member toAddr
    dsimp only
    rcases List.mem_append.mp member with earlier | new
    · rcases sent.built pkt earlier toAddr with ⟨segmented, segIn, low, high⟩
      exact ⟨segmented, segIn, low, by omega⟩
    · rw [List.mem_singleton.mp new] at toAddr ⊢
      rcases sent.message _ (isCurrent toAddr).symm with ⟨segmented, atMost⟩
      exact ⟨segmented.of_message, inMessage, atMost, by dsimp only; omega⟩
  · intro message isMessage pkt member toAddr
    rcases List.mem_append.mp member with earlier | new
    · exact sent.same message isMessage pkt earlier toAddr
    · rw [List.mem_singleton.mp new] at toAddr ⊢
      intro _
      exact Option.some_inj.mp ((isCurrent toAddr).trans isMessage)

/-- Other outgoing messages, with the same one to the address at most. -/
theorem SentSegments.withMsgOut (sent : SentSegments addr current st)
    (msgOut : SarQueue)
    (outgoing : ∀ sar ∈ msgOut.records, sar.dst = addr.setWidth 32 →
      some sar.message = current) :
    SentSegments addr current { st with msgOut } :=
  ⟨outgoing, sent.message, sent.built, sent.same⟩

theorem SentSegments.flush (sent : SentSegments addr current st) (dst : U32) :
    SentSegments addr current (st.flushSarOut dst) :=
  sent.withMsgOut _ fun sar member =>
    sent.outgoing sar ((KeyedList.mem_remove _ _ _).mp member).1

/-- A record keeps its message while its acknowledgements and counts change. -/
theorem SentSegments.set (sent : SentSegments addr current st)
    {old new : MeshSarMsg} (present : old ∈ st.msgOut.records)
    (same : new.message = old.message) :
    SentSegments addr current (st.setSarOut new) := by
  apply sent.withMsgOut
  intro sar member toAddr
  rcases KeyedList.mem_set member with isNew | ⟨before, _⟩
  · rw [isNew] at toAddr ⊢
    have sameDst := congrArg MeshSarMsg.dst same
    change new.dst = old.dst at sameDst
    rw [same]
    exact sent.outgoing old present (sameDst ▸ toAddr)
  · exact sent.outgoing sar before toAddr

theorem SentSegments.step {Fresh : MeshSarMsg → Prop} {after : NetState}
    (sent : SentSegments addr current st)
    (fresh : ∀ sar, Fresh sar → sar.SegmentedTo addr →
      some sar.message = current)
    (step : TxStep Fresh st after) (counted : Counted after) :
    SentSegments addr current after := by
  cases step with
  | build sar seg nid allowed inMessage =>
      apply sent.build nid inMessage _ counted
      intro toAddr
      rcases allowed with outgoing | isFresh
      · rcases List.mem_map.mp outgoing with ⟨out, member, same⟩
        have sameDst := congrArg MeshSarMsg.dst same
        have sameMessage := congrArg MeshSarMsg.message same
        change out.dst = sar.dst at sameDst
        change out.message = sar.message at sameMessage
        rw [← sameMessage]
        exact sent.outgoing out member (sameDst.trans toAddr.2)
      · exact fresh sar isFresh toAddr
  | queue => exact ⟨sent.outgoing, sent.message, sent.built, sent.same⟩
  | clear sar present => exact sent.set present rfl

theorem SentSegments.run {Fresh : MeshSarMsg → Prop} {after : NetState}
    (sent : SentSegments addr current st)
    (fresh : ∀ sar, Fresh sar → sar.SegmentedTo addr →
      some sar.message = current)
    (run : TxRun Fresh st after) (counted : Counted after) :
    SentSegments addr current after := by
  induction run with
  | refl => exact sent
  | tail _ last induction =>
      apply (induction _).step fresh last counted
      exact fun pkt member => counted pkt (last.built pkt member)

/-! ## Sending an access message -/

/-- A new message for the address takes the place of the old one: no packet
carries its sequence number yet. -/
theorem SentSegments.replace (sent : SentSegments addr current st)
    {sar : MeshSarMsg} (segmented : SegmentedAccess sar)
    (fresh : sar.seqAuth = st.seqNum) :
    SentSegments addr (some sar.message)
      (st.flushSarOut (addr.setWidth 32)) := by
  refine ⟨?_, ?_, sent.built, ?_⟩
  · intro out member toAddr
    exact absurd toAddr ((KeyedList.mem_remove _ _ _).mp member).2
  · intro message isMessage
    rw [← Option.some_inj.mp isMessage]
    refine ⟨⟨segmented.access, segmented.segmented, segmented.long,
      segmented.short, segmented.segN⟩, ?_⟩
    exact Nat.le_of_eq (congrArg BitVec.toNat fresh)
  · intro message isMessage pkt member toAddr same
    rcases sent.built pkt member toAddr with ⟨_, _, low, high⟩
    rw [← Option.some_inj.mp isMessage] at same
    have sameNat := congrArg BitVec.toNat (same.trans fresh)
    omega

theorem SentSegments.accessSend {env : NetEnv}
    (sent : SentSegments addr current st) (unicast : isUnicast addr = true)
    {sar : MeshSarMsg} (fresh : sar.seqAuth = st.seqNum)
    (isSegmented : sar.segmented = decide (sar.segN ≠ 0))
    (segmented : sar.SegmentedTo addr → SegmentedAccess sar)
    (counted : Counted (sendAccessRecord env sar st)) :
    ∃ next, SentSegments addr next (sendAccessRecord env sar st) := by
  by_cases toAddr : sar.SegmentedTo addr
  · have waits : awaitsAck sar = true := by
      have sameNat : (addr.setWidth 32 : U32).toNat = addr.toNat := by
        rw [BitVec.toNat_setWidth]
        omega
      rw [awaitsAck, toAddr.2, isUnicast, sameNat, ← isUnicast, unicast,
        Bool.and_true, ← isSegmented]
      exact toAddr.1
    rcases @sendAccessRecord_cases env (· = sar) sar rfl st with
      ⟨_, sending, run, equal⟩ | ⟨never, _⟩
    · rw [equal] at counted ⊢
      rw [toAddr.2] at run
      have sentNow := (sent.replace (segmented toAddr) fresh).run
        (fun other isSar _ => by rw [isSar]) run counted
      refine ⟨some sar.message, sentNow.withMsgOut _ ?_⟩
      intro out member isAddr
      rcases (KeyedList.mem_append _ _ _).mp member with ⟨before, _⟩ | isNew
      · exact sentNow.outgoing out before isAddr
      · rw [isNew]
        rfl
    · rw [waits] at never
      cases never
  · refine ⟨current, ?_⟩
    have notCurrent : ∀ other, other = sar → other.SegmentedTo addr →
        some other.message = current :=
      fun other isSar isTo => absurd (isSar ▸ isTo) toAddr
    rcases @sendAccessRecord_cases env (· = sar) sar rfl st with
      ⟨waits, sending, run, equal⟩ | ⟨_, run⟩
    · rw [equal] at counted ⊢
      have sentNow := (sent.flush sar.dst).run notCurrent run counted
      refine sentNow.withMsgOut _ ?_
      intro out member isAddr
      rcases (KeyedList.mem_append _ _ _).mp member with ⟨before, _⟩ | isNew
      · exact sentNow.outgoing out before isAddr
      · rw [awaitsAck, Bool.and_eq_true, ← isSegmented] at waits
        rw [isNew] at isAddr
        exact absurd ⟨waits.1, isAddr⟩ toAddr
    · exact sent.run notCurrent run counted

end

end Meshctl.Net
