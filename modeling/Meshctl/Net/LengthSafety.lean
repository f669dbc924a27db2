import Meshctl.Net.ReassembledLength
import Meshctl.Net.ScratchBounds

/-! # Lengths of received packets

No length wraps below zero in a run if and only if every packet that is decoded
has room for what its bits ask to subtract.
-/

namespace Meshctl.Net

open Bytes Crypto Execution

/-! ## Packets that are too short -/

/-- The message of a segment that is the only one. -/
def oneSegmentMessage (pkt : SegmentPdu) : HandedMessage :=
  handedMessage pkt (storeSegment pkt (newSar pkt))

/-- The only segment of a message has room for the segment header and what is
subtracted behind it. -/
def OneSegmentFits (st : NetState) (pkt : SegmentPdu) : Prop :=
  if pkt.ctl then
    ctlRxed (oneSegmentMessage pkt).data = true ∨ 3 ≤ pkt.len.toNat
  else
    ReadsLength st (oneSegmentMessage pkt) → 4 ≤ pkt.len.toNat ∧
      (TriesKey st (oneSegmentMessage pkt) →
        (oneSegmentMessage pkt).szmic = true →
        ¬(9 ≤ pkt.len.toNat ∧ pkt.len.toNat < 12))

/-- A decoded packet that is not handled as an acknowledgement. -/
def isSegment (packet : RxPacket) (msg : List Byte) : Bool :=
  !packet.proxy && !(pktCtl msg && pktOpcode msg = netOpSegAcknowledge) &&
    pktSegmented msg

structure PacketFits (st : NetState) (netIdx : U16) (packet : RxPacket)
    (msg : List Byte) : Prop where
  /-- Of a control packet for the proxy, the MIC leaves the network header. -/
  proxy : packet.proxy = true → pktDst msg = 0 → pktCtl msg = true →
    17 ≤ packet.size.toNat
  segment : isSegment packet msg = true →
    (packetSegment netIdx packet.ivIndex msg packet.size).OneSegment st →
    OneSegmentFits st (packetSegment netIdx packet.ivIndex msg packet.size)

/-- A received packet has room for the MIC under every key it is tried with, and
for what follows when it is decoded. -/
structure ReceivedFits (env : RxEnv) (st : NetState) (packet : RxPacket) :
    Prop where
  mic : ∀ parts ∈ packetTries env.toDecodeEnv st.netKeys packet,
    ¬NoRoomForMic env.aes parts.privacyKey packet.ivIndex packet.packet
      packet.size
  decoded : ∀ netKey,
    (netPacketDecode env.toDecodeEnv st.netKeys packet).netKey = some netKey →
    PacketFits st netKey.idx packet
      (netPacketDecode env.toDecodeEnv st.netKeys packet).packet

def HasRoom (env : RxEnv) (entry : Entry RxState RxInput RxObservation) : Prop :=
  ∀ msg len, entry.input = .data msg len →
    ∀ packet ∈ rxPacket entry.before.net.ivIndex msg len,
      ReceivedFits env entry.before.net packet

/-- No length that a step uses wraps. -/
def LengthsFit (entry : Entry RxState RxInput RxObservation) : Prop :=
  AllFit entry.observation.uses

/-! ## Segments -/

section Segment

variable {env : RxEnv} {rx : RxState} {pkt : SegmentPdu} {len : Length}

theorem allFit_ctlUses (trans : List Byte) (len : Length) :
    AllFit (ctlUses trans len) ↔ ctlRxed trans = true ∨ AllFit len.taken := by
  rw [ctlUses]
  split
  next heartbeat => exact iff_of_true allFit_nil (Or.inl heartbeat)
  next other => exact (or_iff_right other).symm

/-- A long message has room for everything. -/
theorem handedUses_fits {st : NetState} {taken : List Subtraction}
    {message : HandedMessage} (first : transSegmented message.data = false)
    (fits : AllFit taken) (long : 10 ≤ message.len.toNat) :
    AllFit (handedUses env st taken message) := by
  have header : transHeader message.data = 1 := by
    rw [transHeader, first]
    rfl
  rw [handedUses]
  split
  · exact (allFit_ctlUses _ _).mpr (Or.inr fits)
  · rw [allFit_msgRxed_iff, header]
    dsimp only
    exact fun _ => ⟨fits, by omega, fun _ _ => by omega⟩

theorem handedUses_oneSegment {lenTaken : U16 → List Subtraction}
    (one : pkt.OneSegment rx.net) (short : pkt.len.toNat < 256) :
    AllFit (handedUses env rx.net (noteLength pkt lenTaken pkt.src)
        (oneSegmentMessage pkt)) ↔ OneSegmentFits rx.net pkt := by
  have segN : pkt.segN.toNat = 0 := by rw [one.segN]; rfl
  have last : pkt.segN = pkt.segO := one.segN.trans one.segO.symm
  have noted : noteLength pkt lenTaken pkt.src = [⟨pkt.len.toNat, 3⟩] := by
    rw [noteLength, if_pos last, if_pos rfl, SegmentPdu.wholeLen, segN,
      Nat.zero_mul, Nat.zero_add]
  have isCtl : (oneSegmentMessage pkt).ctl = pkt.ctl := rfl
  rw [noted, handedUses, OneSegmentFits, isCtl]
  split
  next =>
    rw [allFit_ctlUses]
    simp only [allFit_cons, allFit_nil, and_true]
  next =>
    have first : transSegmented (oneSegmentMessage pkt).data = false :=
      (transSegmented_storeSegment _).trans (transSegmented_newSar pkt)
    have header : transHeader (oneSegmentMessage pkt).data = 1 := by
      rw [transHeader, first]
      rfl
    have isLen : (oneSegmentMessage pkt).len =
        BitVec.ofNat 16 (pkt.segN.toNat * 12) + pkt.len - 3 := by
      change (storeSegment pkt (newSar pkt)).len = _
      rw [storeSegment_eq]
      exact if_pos last
    rw [allFit_msgRxed_iff, header]
    simp only [allFit_cons, allFit_nil, and_true]
    apply imp_congr_right
    intro _
    by_cases room : 3 ≤ pkt.len.toNat
    · have value : (oneSegmentMessage pkt).len.toNat = pkt.len.toNat - 3 := by
        rw [isLen, toNat_wholeLen (by omega) short, segN, Nat.zero_mul,
          Nat.zero_add]
      rw [value]
      constructor
      · rintro ⟨_, header, mic⟩
        exact ⟨by omega, fun tries szmic => by
          have noMic := mic tries szmic
          omega⟩
      · rintro ⟨header, mic⟩
        exact ⟨room, by omega, fun tries szmic => by
          have noMic := mic tries szmic
          omega⟩
    · exact iff_of_false (fun fits => room fits.1) (fun fits => by omega)

theorem allFit_segmentRxed (fits : RecordsFit rx) (taken : AllFit len.taken)
    (nonempty : 1 ≤ pkt.len.toNat) (short : pkt.len.toNat < 256) :
    AllFit (segmentRxed env pkt len rx).observation.uses ↔
      (pkt.OneSegment rx.net → OneSegmentFits rx.net pkt) := by
  by_cases stale : pkt.Stale rx.net
  · rw [segmentRxed, segRxed_stale stale]
    exact iff_of_true allFit_nil fun one => absurd stale one.fresh
  · rcases @segRxed_spec env.net (msgReceiver env) pkt rx.net stale with
      ⟨sar, record, stored⟩
    have lastFits : AllFit (if pkt.segN = pkt.segO then len.taken else []) := by
      split
      · exact taken
      · exact allFit_nil
    rw [segmentRxed]
    dsimp only
    rw [stored.write, stored.handed, if_neg (by simp)]
    dsimp only
    rw [allFit_append, and_iff_right lastFits]
    by_cases complete : completes pkt sar = true
    · rw [if_pos complete]
      rcases completes_cases stale record (fits pkt.src) complete with
        ⟨several, lastStored⟩ | ⟨one, isNew⟩
      · have recordFits := recordFits_store record (fits pkt.src) nonempty short
        have whole := recordFits.whole
        rw [storeSegment_segN, record.continues.segN] at whole
        have room := whole several lastStored
        apply iff_of_true
        · exact handedUses_fits recordFits.first room.1 room.2
        · exact fun one => absurd one.segN several
      · rw [isNew]
        exact (handedUses_oneSegment one short).trans
          ⟨fun oneFits _ => oneFits, fun oneFits => oneFits one⟩
    · rw [if_neg complete]
      apply iff_of_true allFit_nil
      intro one
      rcases record with ⟨found, continues⟩ | ⟨_, isNew⟩
      · exact absurd continues (one.new sar found)
      · exact absurd (isNew ▸ one.completes) complete

theorem segmentRxed_recordsFit (fits : RecordsFit rx)
    (nonempty : 1 ≤ pkt.len.toNat) (short : pkt.len.toNat < 256) :
    RecordsFit (segmentRxed env pkt len rx).nextState := by
  by_cases stale : pkt.Stale rx.net
  · rw [segmentRxed, segRxed_stale stale]
    exact fits
  · rcases @segRxed_spec env.net (msgReceiver env) pkt rx.net stale with
      ⟨sar, record, stored⟩
    have next : (segmentRxed env pkt len rx).nextState =
        ⟨(segRxed env.net (msgReceiver env) pkt rx.net).nextState,
          noteLength pkt rx.lenTaken⟩ := by
      rw [segmentRxed]
      dsimp only
      rw [stored.write, if_neg (by simp)]
    rw [next]
    intro src other found
    by_cases isSrc : src = pkt.src
    · subst isSrc
      rcases stored.left with ⟨last, payload, isLast, frozen, _⟩
      rw [isLast, Option.some_inj] at found
      rw [← found]
      exact (recordFits_store record (fits pkt.src) nonempty short).of_frozen
        frozen
    · have same : noteLength pkt rx.lenTaken src = rx.lenTaken src := by
        rw [noteLength]
        split
        · exact if_neg isSrc
        · rfl
      rw [stored.others src isSrc] at found
      dsimp only
      rw [same]
      exact fits src other found

end Segment

/-! ## Packets -/

section Packet

variable {env : RxEnv} {rx : RxState} {netIdx : U16} {packet : RxPacket}
  {msg : List Byte}

theorem RecordsFit.of_sarIn {net : NetState} (fits : RecordsFit rx)
    (same : net.sarIn = rx.net.sarIn) : RecordsFit { rx with net } := by
  intro src sar found
  apply fits src sar
  rw [← same]
  exact found

/-- The length of a segment that was decoded. -/
theorem EndsInZeros.segment_len (ends : EndsInZeros msg packet.size.toNat)
    (first : get msg 9 ≠ 0) :
    1 ≤ (packetSegment netIdx packet.ivIndex msg packet.size).len.toNat ∧
      (packetSegment netIdx packet.ivIndex msg packet.size).len.toNat < 256 := by
  have room := ends.room first
  have bound := packet.size.isLt
  have value := ends.toNat_transLen (Nat.le_of_succ_le room)
  change 1 ≤ (packetTransLen msg packet.size).value.toNat ∧
    (packetTransLen msg packet.size).value.toNat < 256
  rw [value, transSize]
  omega

theorem allFit_proxyCtlRxed (trans : List Byte) (len : Length) :
    AllFit (proxyCtlRxed trans len rx).observation.uses ↔ AllFit len.taken := by
  rw [proxyCtlRxed]
  split
  next => exact Iff.rfl
  next =>
    split
    next => split <;> exact Iff.rfl
    next => exact Iff.rfl

theorem proxyCtlRxed_recordsFit (fits : RecordsFit rx) (trans : List Byte)
    (len : Length) : RecordsFit (proxyCtlRxed trans len rx).nextState := by
  rw [proxyCtlRxed]
  split
  next => exact fits
  next =>
    split
    next =>
      split
      next => exact fits
      next => exact fits.of_sarIn rfl
    next => exact fits

/-- A proxy packet that is no control packet, and one of 17 bytes, has room for
its network header. -/
theorem EndsInZeros.allFit_proxy (ends : EndsInZeros msg packet.size.toNat) :
    AllFit (packetTransLen msg packet.size).taken ↔
      (pktCtl msg = true → 17 ≤ packet.size.toNat) := by
  have long := ends.long
  have isMicSize : netMicSize msg = if pktCtl msg then 8 else 4 := rfl
  rw [ends.allFit_transLen, isMicSize]
  cases pktCtl msg with
  | true =>
      simp only [if_true, true_implies]
      omega
  | false =>
      simp only [Bool.false_eq_true, if_false, false_implies, iff_true]
      omega

theorem allFit_packetRxed (fits : RecordsFit rx)
    (ends : EndsInZeros msg packet.size.toNat) :
    AllFit (packetRxed env netIdx packet msg rx).observation.uses ↔
      PacketFits rx.net netIdx packet msg := by
  have split : PacketFits rx.net netIdx packet msg ↔ _ ∧ _ :=
    ⟨fun fits => ⟨fits.proxy, fits.segment⟩, fun fits => ⟨fits.1, fits.2⟩⟩
  rw [packetRxed, split, isSegment]
  dsimp only
  by_cases proxy : packet.proxy = true
  · rw [if_pos proxy]
    simp only [proxy, Bool.not_true, Bool.false_and, Bool.false_eq_true,
      false_implies, and_true, true_implies]
    split
    next addressed => exact iff_of_true allFit_nil (absurd · addressed)
    next unaddressed =>
      rw [not_not] at unaddressed
      rw [allFit_proxyCtlRxed, ends.allFit_proxy]
      simp only [unaddressed, true_implies]
  · rw [if_neg proxy]
    simp only [proxy, Bool.not_false, Bool.true_and, false_implies, true_and,
      Bool.false_eq_true]
    by_cases isAck :
        (pktCtl msg && pktOpcode msg = netOpSegAcknowledge) = true
    · rw [if_pos isAck]
      simp only [isAck, Bool.not_true, Bool.false_and, Bool.false_eq_true,
        false_implies, iff_true]
      exact allFit_nil
    · rw [if_neg isAck]
      simp only [isAck, Bool.not_false, Bool.true_and]
      by_cases segmented : pktSegmented msg = true
      · rw [if_pos segmented]
        have first := first_of_segmented segmented
        have size := @EndsInZeros.segment_len netIdx packet msg ends first
        have taken := ends.allFit_transLen.mpr
          (Nat.le_of_succ_le (ends.room first))
        simp only [segmented, true_implies]
        exact allFit_segmentRxed fits taken size.1 size.2
      · rw [if_neg segmented]
        simp only [segmented, Bool.false_eq_true, false_implies, iff_true]
        by_cases isCtl : pktCtl msg = true
        · have opcode : pktOpcode msg ≠ netOpSegAcknowledge := by
            simpa [isCtl] using isAck
          rw [if_neg (by simp [isCtl]), allFit_ctlUses, ends.allFit_transLen]
          exact Or.inr (Nat.le_of_succ_le (ends.room (first_of_opcode opcode)))
        · have access := Bool.eq_false_of_not_eq_true isCtl
          have room := ends.room_access access
          have header : transHeader (packetMessage netIdx packet.ivIndex msg
              packet.size).data = 1 := by
            rw [transHeader]
            apply if_neg
            change ¬decide (get (msg.drop 9) 0 &&& 0x80 ≠ 0) = true
            rw [get_drop]
            exact segmented
          rw [if_pos (by simp [access])]
          dsimp only
          rw [allFit_msgRxed_iff, header, ends.allFit_transLen,
            ends.toNat_transLen (Nat.le_of_succ_le room), transSize]
          exact fun _ => ⟨by omega, by omega, fun _ szmic => by cases szmic⟩

theorem ackRxed_sarIn {env : NetEnv} (src dst : U16) (obo : Bool) (seq0 : U16)
    (ackFlags : U32) (st : NetState) :
    (ackRxed env src dst obo seq0 ackFlags st).2.sarIn = st.sarIn := by
  rcases @ackRxed_cases env src dst obo seq0 ackFlags st with
    ⟨_, same⟩ | ⟨sar, _, ⟨_, flushed⟩ | ⟨_, sent⟩⟩
  · rw [same]
  · rw [flushed]
    rfl
  · exact sent.sarIn

theorem packetRxed_recordsFit (fits : RecordsFit rx)
    (ends : EndsInZeros msg packet.size.toNat) :
    RecordsFit (packetRxed env netIdx packet msg rx).nextState := by
  rw [packetRxed]
  dsimp only
  split
  next =>
    split
    next => exact fits
    next => exact proxyCtlRxed_recordsFit fits _ _
  next =>
    split
    next => exact fits.of_sarIn (ackRxed_sarIn _ _ _ _ _ _)
    next =>
      split
      next segmented =>
        have size := @EndsInZeros.segment_len netIdx packet msg ends
          (first_of_segmented segmented)
        exact segmentRxed_recordsFit fits size.1 size.2
      next =>
        split
        next =>
          apply fits.of_sarIn
          generalize (msgRxed env rx.net _ _).delivered = delivered
          cases delivered with
          | none => rfl
          | some access => exact env.keepsSarIn access rx.net
        next => exact fits

/-! ### Received packets -/

theorem allFit_flatMap {Item : Type*} (items : List Item)
    (uses : Item → List Subtraction) :
    AllFit (items.flatMap uses) ↔ ∀ item ∈ items, AllFit (uses item) := by
  induction items with
  | nil => simp
  | cons item rest induction => simp [induction]

theorem packetReady_spec (fits : RecordsFit rx) :
    (AllFit (packetReady env packet rx).observation.uses ↔
      ReceivedFits env rx.net packet) ∧
    RecordsFit (packetReady env packet rx).nextState := by
  have tried : (netPacketDecode env.toDecodeEnv rx.net.netKeys packet).tried =
      packetTries env.toDecodeEnv rx.net.netKeys packet :=
    (@netPacketDecode_searched env.toDecodeEnv rx.net.netKeys packet).tried
  have mic : AllFit ((packetTries env.toDecodeEnv rx.net.netKeys packet).flatMap
      (packetDecodeUses env.toDecodeEnv packet)) ↔
      ∀ parts ∈ packetTries env.toDecodeEnv rx.net.netKeys packet,
        ¬NoRoomForMic env.aes parts.privacyKey packet.ivIndex packet.packet
          packet.size := by
    rw [allFit_flatMap]
    exact forall₂_congr fun parts _ =>
      allFit_packetDecodeUses env.toDecodeEnv packet parts
  rw [packetReady]
  dsimp only
  rw [tried]
  cases found :
      (netPacketDecode env.toDecodeEnv rx.net.netKeys packet).netKey with
  | none =>
      constructor
      · dsimp only
        rw [mic]
        constructor
        · exact fun room => ⟨room, fun netKey isKey => by
            rw [found] at isKey
            cases isKey⟩
        · exact ReceivedFits.mic
      · exact fits
  | some netKey =>
      have ends := netPacketDecode_endsInZeros found
      constructor
      · dsimp only
        rw [allFit_append, mic, allFit_packetRxed fits ends]
        constructor
        · exact fun ⟨room, packetFits⟩ => ⟨room, fun other isKey => by
            rw [found, Option.some_inj] at isKey
            exact isKey ▸ packetFits⟩
        · exact fun room => ⟨room.mic, room.decoded netKey found⟩
      · exact packetRxed_recordsFit fits ends

end Packet

/-! ## Runs -/

section Runs

variable {env : RxEnv} {rx : RxState}

/-- Only closing the session touches the records outside of `seg_rxed`. -/
theorem netStep_sarIn (env : NetEnv) (st : NetState) (input : NetInput) :
    (netStep env st input).nextState.sarIn = st.sarIn ∨
      (netStep env st input).nextState.sarIn = KeyedList.empty := by
  cases input with
  | beacon data size =>
      left
      rcases @processBeacon_cases env data size st with
        same | ⟨_, _, windows, passed, sent⟩
      · exact congrArg NetState.sarIn same
      · rcases enforceWindows_eq passed with ⟨ivUpdState, isWindows⟩
        rcases takeOver_eq (recognizedIvUpdate data st) (beaconIvIndex data)
          windows with ⟨_, _, taken⟩
        refine sent.sarIn.trans ?_
        rw [taken, isWindows]
  | accessSend ttl src dst appIdx buf len =>
      left
      rcases @netAccessLayerSend_cases env ttl src dst appIdx buf len st with
        same | ⟨_, _, _, _, _, _, _, sent⟩
      · exact congrArg NetState.sarIn same
      · refine (congrArg NetState.sarIn sent).trans ?_
        rcases @sendAccessRecord_cases env (fun _ => True) _ trivial st with
          ⟨_, after, run, same⟩ | ⟨_, run⟩
        · rw [same]
          exact run.sarIn
        · exact run.sarIn
  | ctlSend ttl src dst buf len => exact Or.inl (netCtlMsgSend_run _ _ _ _ _ _).sarIn
  | ack src dst obo seq0 ackFlags =>
      exact Or.inl (ackRxed_sarIn src dst obo seq0 ackFlags st)
  | ackTimeout dst =>
      left
      rcases @sarOutAckTimeout_cases env dst st with same | ⟨sar, _, sent⟩
      · exact congrArg NetState.sarIn same
      · exact sent.sarIn
  | msgTimeout dst => exact Or.inl rfl
  | writeReply index success =>
      exact Or.inl (acquireWriteReply_run index success st).sarIn
  | sessionOpen dataIn provisioner cb =>
      left
      simp only [netStep, netSessionOpen]
      cases st.proxyIn with
      | none => rfl
      | some _ => rfl
  | sessionClose dataIn => exact Or.inr rfl

theorem RecordsFit.ackTimeout (fits : RecordsFit rx) (src : U16) :
    RecordsFit { rx with
      net := (sarInAckTimeout env.net src rx.net).nextState } := by
  rw [sarInAckTimeout]
  cases found : rx.net.sarIn.find src with
  | none => exact fits
  | some sar =>
      dsimp only
      split
      next => exact fits
      next =>
        split
        next =>
          intro other record isRecord
          dsimp only at isRecord
          rw [sendSarAck_sarIn] at isRecord
          have isSrc : sar.src = src := KeyedList.key_of_find found
          by_cases same : other = src
          · subst same
            have cleared : (rx.net.sarIn.set
                ({ sar with activityCnt := 0 } : MeshSarMsg)).find other = some _ :=
              KeyedList.find_set_self found isSrc
            rw [cleared, Option.some_inj] at isRecord
            have frozen : record.frozen = (decryptInPlace none sar).frozen := by
              rw [← isRecord]
              rfl
            exact (fits other sar found).of_frozen frozen
          · rw [KeyedList.find_set_ne _ (isSrc.symm ▸ same)] at isRecord
            exact fits other record isRecord
        next => exact fits

theorem RecordsFit.msgTimeout (fits : RecordsFit rx) (src : U16) :
    RecordsFit { rx with net := sarInMsgTimeout src rx.net } := by
  intro other record isRecord
  change (rx.net.sarIn.remove src).find other = some record at isRecord
  by_cases same : other = src
  · rw [same, KeyedList.find_remove_self] at isRecord
    cases isRecord
  · rw [KeyedList.find_remove_ne _ same] at isRecord
    exact fits other record isRecord

theorem RecordsFit.empty {net : NetState} (empty : net.sarIn = KeyedList.empty) :
    RecordsFit { rx with net } := by
  intro src sar found
  dsimp only at found
  rw [empty] at found
  have member := KeyedList.mem_of_find found
  cases member

/-- One step: which lengths fit, and what is kept. -/
theorem rxStep_spec (fits : RecordsFit rx) (input : RxInput) :
    (LengthsFit ((rxModel env).entry rx input) ↔
      HasRoom env ((rxModel env).entry rx input)) ∧
    RecordsFit (rxStep env rx input).nextState := by
  have others (notData : ∀ msg len, input ≠ .data msg len) :
      HasRoom env ((rxModel env).entry rx input) :=
    fun msg len isData => absurd isData (notData msg len)
  cases input with
  | data msg len =>
      have room : HasRoom env ((rxModel env).entry rx (.data msg len)) ↔
          ∀ packet ∈ rxPacket rx.net.ivIndex msg len,
            ReceivedFits env rx.net packet := by
        constructor
        · exact fun hasRoom => hasRoom msg len rfl
        · intro received msg' len' isData
          change RxInput.data msg len = .data msg' len' at isData
          injection isData with sameMsg sameLen
          exact sameMsg ▸ sameLen ▸ received
      rw [room, LengthsFit]
      change (AllFit (netDataReady env msg len rx).observation.uses ↔ _) ∧
        RecordsFit (netDataReady env msg len rx).nextState
      rw [netDataReady]
      by_cases isBeacon : 10 ≤ len.toNat ∧ get msg 0 = proxyMeshBeacon
      · have notPacket : rxPacket rx.net.ivIndex msg len = none := by
          rw [rxPacket]
          exact if_pos (Or.inr (Or.inl isBeacon.2))
        rw [if_pos isBeacon, notPacket]
        constructor
        · exact iff_of_true allFit_nil fun packet absurd => (by cases absurd)
        · rcases netStep_sarIn env.net rx.net (.beacon (msg.drop 1) (len - 1))
            with same | empty
          · exact fits.of_sarIn same
          · exact RecordsFit.empty empty
      · rw [if_neg isBeacon]
        cases isPacket : rxPacket rx.net.ivIndex msg len with
        | none =>
            constructor
            · exact iff_of_true allFit_nil fun packet absurd => (by cases absurd)
            · exact fits
        | some packet =>
            have spec := @packetReady_spec env rx packet fits
            refine ⟨spec.1.trans ?_, spec.2⟩
            simp
  | ackTimeout src =>
      exact ⟨iff_of_true allFit_nil (others fun _ _ absurd => (by cases absurd)),
        fits.ackTimeout src⟩
  | msgTimeout src =>
      exact ⟨iff_of_true allFit_nil (others fun _ _ absurd => (by cases absurd)),
        fits.msgTimeout src⟩
  | other input =>
      refine ⟨iff_of_true allFit_nil
        (others fun _ _ absurd => (by cases absurd)), ?_⟩
      rcases netStep_sarIn env.net rx.net input with same | empty
      · exact fits.of_sarIn same
      · exact RecordsFit.empty empty

end Runs

/-- An upper layer that changes nothing. -/
def quietUpper : RxEnv where
  toDecodeEnv := emptyStack
  net := plainEnv
  deliver _ st := st
  keepsSarIn _ _ := rfl

def oneKeyNode : NetState :=
  { openNode with ivIndex := 0, netKeys := [thisNetKey] }

/-- A control packet of source 2, without room for its MIC. -/
def shortControl : RxPacket where
  proxy := false
  ivIndex := 0
  packet := [0x01, 0x80, 0, 0, 0, 0x00, 0x02] ++ List.replicate 7 0
  size := 14

theorem shortControl_noRoom :
    NoRoomForMic addKey 0 0 shortControl.packet shortControl.size := by
  refine ⟨rfl, ?_, ?_⟩ <;> decide +kernel

end Meshctl.Net
