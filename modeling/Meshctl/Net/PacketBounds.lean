import Meshctl.Crypto.EncodeWrites
import Meshctl.Net.PayloadRecovery
import Meshctl.Net.NonceUniqueness

/-! # Packets fit their buffers

Copies of a fixed size, two sizes of a MIC and a last segment that is shorter:
what `send_seg` reads from a record and writes into the thirty bytes of a packet.
-/

namespace Meshctl.Net

open Bytes Crypto Execution

/-! ## Where a packet is put together -/

/-- The size of `data` in a packet. -/
def pktDataSize : Nat := 30

/-- A copy out of the data of a record into the data of a packet. -/
structure SegmentCopy where
  source : Nat
  target : Nat
  count : Nat

/-- The copy that `send_seg` makes. One byte in front of the network header is
left for the type. -/
def segmentCopy (sar : MeshSarMsg) (seg : Byte) : SegmentCopy :=
  if sar.segmented then
    { source := ctlOffset sar + seg.toNat * 12, target := 1 + 9 + 4, count := 12 }
  else
    { source := ctlOffset sar, target := 1 + 9 + 1, count := 15 }

/-- The network header and the octet behind it, and the transport header of a
segment. -/
def headerSize (sar : MeshSarMsg) : Nat :=
  10 + if sar.segmented then 3 else 0

namespace BuiltPkt

variable (pkt : BuiltPkt)

/-- The bytes of `sar->data` that are read: the opcode of a control message, and
what is copied. -/
def reads : List Nat :=
  let copy := segmentCopy pkt.sar pkt.seg
  (if pkt.sar.ctl then [0] else []) ++ List.range' copy.source copy.count

/-- The bytes of `pkt->data` that are written: the header, the copy, what
encoding with a key writes, and the type. -/
def writes (aes : Key → AesBlock → AesBlock) (stale : AesBlock)
    (encKey privacyKey : Key) : List Nat :=
  let copy := segmentCopy pkt.sar pkt.seg
  let encoded := packetEncodeNoted aes stale ⟨pkt.plain, []⟩ pkt.len encKey
    pkt.sar.ivIndex privacyKey
  List.range' 1 (headerSize pkt.sar) ++ List.range' copy.target copy.count ++
    encoded.2.writes.map (1 + ·) ++ [0]

end BuiltPkt

theorem get_segmentNetworkHeader_behind {sar : MeshSarMsg} {nid : Byte}
    {seq : U32} {index : Nat} (behind : 10 ≤ index) :
    get (segmentNetworkHeader sar nid seq) index = 0 := by
  simp only [segmentNetworkHeader, setPktOpcode, setPktAkfAid, setPktSegmented,
    setPktDst, setPktSrc, setPktSeq, setPktTtl, setPktCtl, setPktIvi, setPktNid,
    putBe32]
  split <;>
    rw [get_setBits_ne (by omega), get_setBits_ne (by omega),
      get_putBe16_ne (by omega), get_putBe16_ne (by omega),
      get_putBe16_ne (by omega), get_putBe16_ne (by omega),
      get_setBits_ne (by omega), get_setBits_ne (by omega),
      get_setBits_ne (by omega), get_setBits_ne (by omega),
      get_replicate_zero]

/-- The header is written into zeros, and the copy behind it. -/
theorem segmentPdu_copy (sar : MeshSarMsg) (seg nid : Byte) (seq : U32) :
    ∃ header, (segmentPdu sar seg nid seq).1 =
        splice header ((segmentCopy sar seg).target - 1)
          (slice sar.data (segmentCopy sar seg).source
            (segmentCopy sar seg).count) ∧
      ∀ index, headerSize sar ≤ index → get header index = 0 := by
  simp only [segmentPdu, segmentCopy, headerSize]
  split
  next segmented =>
    refine ⟨_, rfl, fun index behind => ?_⟩
    rw [get_segmentTransportHeader (Or.inr behind),
      get_segmentNetworkHeader_behind (by omega)]
  next unsegmented =>
    exact ⟨_, rfl, fun index behind => get_segmentNetworkHeader_behind behind⟩

/-! ## What belongs to a packet -/

/-- How much of the message is in the packet. The last segment has what is
left. -/
def carriedBytes (sar : MeshSarMsg) (seg : Byte) : Nat :=
  let total := sar.len.toNat - ctlOffset sar
  if sar.segmented then min 12 (total - 12 * seg.toNat) else total

/-- The type, the network header, the transport header, the bytes of the message
and the MIC. -/
def packetBytes (sar : MeshSarMsg) (seg : Byte) : Nat :=
  1 + 9 + (if sar.segmented then 4 else 1) + carriedBytes sar seg +
    (micSize sar.ctl).toNat

structure FitsBuffers (pkt : BuiltPkt) : Prop where
  reads : ∀ index ∈ pkt.reads, index < 20 + 12 * pkt.sar.segN.toNat
  writes : ∀ aes stale encKey privacyKey,
    ∀ index ∈ pkt.writes aes stale encKey privacyKey, index < pktDataSize
  /-- `pkt->len` -/
  len : pkt.len.toNat + 1 ≤ 30
  exact : pkt.len.toNat + 1 = packetBytes pkt.sar pkt.seg

/-! ## Records that are sent -/

/-- A control message of 1 to 12 bytes. -/
structure ControlRecord (sar : MeshSarMsg) : Prop where
  ctl : sar.ctl = true
  unsegmented : sar.segmented = false
  segN : sar.segN = 0
  nonempty : 1 ≤ sar.len.toNat
  short : sar.len.toNat ≤ 12

/-- An access message whose payload has 1 to 380 bytes, with the MIC. -/
structure AccessRecord (sar : MeshSarMsg) : Prop where
  access : sar.ctl = false
  segmented : sar.segmented = decide (sar.segN ≠ 0)
  segN : sar.segN.toNat = segMax sar.len.toNat
  nonempty : 5 ≤ sar.len.toNat
  short : sar.len.toNat ≤ 384

def SentRecord (sar : MeshSarMsg) : Prop := ControlRecord sar ∨ AccessRecord sar

section Fits

variable {pkt : BuiltPkt}

theorem ControlRecord.len_eq (record : ControlRecord pkt.sar) :
    pkt.len.toNat = 17 + pkt.sar.len.toNat := by
  have short := record.short
  have nonempty := record.nonempty
  simp only [BuiltPkt.len, segmentPdu, record.unsegmented, micSize, record.ctl,
    ctlOffset, if_true, Bool.false_eq_true, if_false, BitVec.toNat_add,
    BitVec.toNat_ofNat, BitVec.ofNat_eq_ofNat]
  omega

/-- A message that is not segmented, or one of its segments. -/
theorem AccessRecord.len_eq (record : AccessRecord pkt.sar)
    (inMessage : pkt.seg.toNat ≤ pkt.sar.segN.toNat) :
    pkt.len.toNat =
      if pkt.sar.segmented then
        17 + min 12 (pkt.sar.len.toNat - 12 * pkt.seg.toNat)
      else 14 + pkt.sar.len.toNat := by
  have short := record.short
  have nonempty := record.nonempty
  have segN := record.segN
  have segmented := record.segmented
  simp only [BuiltPkt.len, segmentPdu, micSize, record.access, ctlOffset,
    Bool.false_eq_true, if_false, Nat.sub_zero]
  rw [segMax, maxUnsegLen, maxSegLen] at segN
  by_cases single : pkt.sar.segN = 0
  · have noSegments : pkt.sar.segN.toNat = 0 := by
      rw [single]
      rfl
    have isWhole : pkt.sar.segmented = false := by
      rw [segmented, single]
      rfl
    rw [isWhole, if_neg Bool.false_ne_true, if_neg Bool.false_ne_true]
    have four : (4 : Byte).toNat = 4 := rfl
    simp only [BitVec.toNat_add, BitVec.toNat_ofNat, four]
    split at segN <;> omega
  · have isSegmented : pkt.sar.segmented = true := by
      rw [segmented, decide_eq_true single]
    have last : pkt.sar.segN = pkt.seg ↔ pkt.sar.segN.toNat = pkt.seg.toNat :=
      BitVec.toNat_inj.symm
    have several : pkt.sar.segN.toNat ≠ 0 := fun isZero =>
      single (BitVec.eq_of_toNat_eq isZero)
    rw [isSegmented, if_pos rfl, if_pos rfl]
    have four : (4 : Byte).toNat = 4 := rfl
    simp only [BitVec.toNat_add, BitVec.toNat_ofNat, four, last]
    split at segN
    next short => omega
    next long => split_ifs <;> omega

/-- `pkt->len` counts what belongs to the packet. -/
theorem SentRecord.len_exact (record : SentRecord pkt.sar)
    (inMessage : pkt.seg.toNat ≤ pkt.sar.segN.toNat) :
    pkt.len.toNat + 1 = packetBytes pkt.sar pkt.seg ∧
      18 ≤ pkt.len.toNat ∧ pkt.len.toNat ≤ 29 := by
  rcases record with control | access
  · have len := control.len_eq
    have short := control.short
    have nonempty := control.nonempty
    have eight : (8 : Byte).toNat = 8 := rfl
    simp only [packetBytes, carriedBytes, control.unsegmented, micSize,
      control.ctl, ctlOffset, if_true, Bool.false_eq_true, if_false, eight]
    omega
  · have len := access.len_eq inMessage
    have short := access.short
    have nonempty := access.nonempty
    have segN := access.segN
    have segmented := access.segmented
    have four : (4 : Byte).toNat = 4 := rfl
    rw [segMax, maxUnsegLen, maxSegLen] at segN
    simp only [packetBytes, carriedBytes, micSize, access.access, ctlOffset,
      Bool.false_eq_true, if_false, Nat.sub_zero, four]
    cases isSegmented : pkt.sar.segmented with
    | false =>
        have single : pkt.sar.segN.toNat = 0 := by
          rw [isSegmented] at segmented
          have isZero := of_decide_eq_false segmented.symm
          rw [not_not.mp isZero]
          rfl
        rw [isSegmented, if_neg Bool.false_ne_true] at len
        simp only [Bool.false_eq_true, if_false]
        split at segN <;> omega
    | true =>
        rw [isSegmented, if_pos rfl] at len
        simp only [if_true]
        split at segN <;> omega

theorem SentRecord.reads_inside
    (inMessage : pkt.seg.toNat ≤ pkt.sar.segN.toNat) :
    ∀ index ∈ pkt.reads, index < 20 + 12 * pkt.sar.segN.toNat := by
  intro index member
  simp only [BuiltPkt.reads, segmentCopy, ctlOffset] at member
  rcases List.mem_append.mp member with opcode | copied
  · split at opcode
    · rw [List.mem_singleton.mp opcode]
      omega
    · cases opcode
  · have offset : (if pkt.sar.ctl = true then 1 else 0) ≤ 1 := by
      split <;> omega
    split at copied <;> rw [List.mem_range'_1] at copied <;>
      dsimp only at copied <;> omega

theorem SentRecord.writes_inside (record : SentRecord pkt.sar)
    (inMessage : pkt.seg.toNat ≤ pkt.sar.segN.toNat)
    (aes : Key → AesBlock → AesBlock) (stale : AesBlock)
    (encKey privacyKey : Key) :
    ∀ index ∈ pkt.writes aes stale encKey privacyKey, index < pktDataSize := by
  have ⟨_, long, short⟩ := record.len_exact inMessage
  have isMicSize := netMicSize_cases pkt.plain
  have encoded := @writes_packetEncodeNoted aes stale pkt.sar.ivIndex
    ⟨pkt.plain, []⟩ pkt.len encKey privacyKey (by dsimp only; omega)
  intro index member
  simp only [BuiltPkt.writes, encoded, List.nil_append, List.mem_append,
    List.mem_map, List.mem_singleton, List.mem_range'_1, headerSize,
    segmentCopy] at member
  rw [pktDataSize]
  rcases member with ((header | copied) | ⟨written, isWritten, isIndex⟩) | type
  · split at header <;> omega
  · split at copied <;> dsimp only at copied <;> omega
  · rcases isWritten with behind | inHeader
    · omega
    · simp only [List.mem_cons, List.not_mem_nil, or_false] at inHeader
      omega
  · omega

theorem SentRecord.fits (record : SentRecord pkt.sar)
    (inMessage : pkt.seg.toNat ≤ pkt.sar.segN.toNat) : FitsBuffers pkt := by
  have ⟨exact, _, short⟩ := record.len_exact inMessage
  exact ⟨SentRecord.reads_inside inMessage, record.writes_inside inMessage,
    by omega, exact⟩

end Fits

/-! ## Where records come from -/

theorem ctlRecord_control {st : NetState} {ttl : Byte} {src dst : U16}
    {buf : List Byte} {len : U16} (nonempty : 1 ≤ len.toNat)
    (short : len.toNat ≤ 12) :
    ControlRecord (ctlRecord st ttl src dst buf len) :=
  ⟨rfl, rfl, rfl, nonempty, short⟩

theorem accessRecord_access {env : NetEnv} {st : NetState} {ttl : Byte}
    {src : U16} {dst : U32} {aad : Option Key} {keys : EncKeys}
    {buf : List Byte} {len : U16} (nonempty : 1 ≤ len.toNat)
    (short : len.toNat ≤ 380) :
    AccessRecord (accessRecord env st ttl src dst aad keys buf len) := by
  have four : (4 : U16).toNat = 4 := rfl
  have total : (len + 4).toNat = len.toNat + 4 := by
    rw [BitVec.toNat_add, four]
    omega
  have segN : (BitVec.ofNat 8 (segMax (len.toNat + 4)) : Byte).toNat =
      segMax (len.toNat + 4) := by
    rw [BitVec.toNat_ofNat, segMax, maxUnsegLen, maxSegLen]
    split <;> omega
  refine ⟨rfl, rfl, ?_, ?_, ?_⟩
  · change (BitVec.ofNat 8 (segMax (len.toNat + 4)) : Byte).toNat =
      segMax (len + 4).toNat
    rw [segN, total]
  · change 5 ≤ (len + 4).toNat
    omega
  · change (len + 4).toNat ≤ 384
    omega

/-- Every outgoing message, and every packet that was built. -/
structure AllSent (st : NetState) : Prop where
  outgoing : ∀ sar ∈ st.msgOut.records, SentRecord sar
  built : ∀ pkt ∈ st.built,
    SentRecord pkt.sar ∧ pkt.seg.toNat ≤ pkt.sar.segN.toNat

/-- Acknowledgements, activity counts and timers do not matter. -/
theorem SentRecord.congr {sar other : MeshSarMsg} (record : SentRecord sar)
    (ctl : other.ctl = sar.ctl) (segmented : other.segmented = sar.segmented)
    (segN : other.segN = sar.segN) (len : other.len = sar.len) :
    SentRecord other := by
  rcases record with control | access
  · exact Or.inl ⟨ctl.trans control.ctl, segmented.trans control.unsegmented,
      segN.trans control.segN, len ▸ control.nonempty, len ▸ control.short⟩
  · refine Or.inr ⟨ctl.trans access.access, ?_, ?_, len ▸ access.nonempty,
      len ▸ access.short⟩
    · rw [segmented, segN, access.segmented]
    · rw [segN, len, access.segN]

theorem SentRecord.of_frozen {sar other : MeshSarMsg} (record : SentRecord sar)
    (same : sar.frozen = other.frozen) : SentRecord other :=
  record.congr (congrArg MeshSarMsg.ctl same).symm
    (congrArg MeshSarMsg.segmented same).symm
    (congrArg MeshSarMsg.segN same).symm (congrArg MeshSarMsg.len same).symm

namespace AllSent

variable {st before after : NetState}

theorem withMsgOut (sent : AllSent st) {msgOut : SarQueue}
    (outgoing : ∀ sar ∈ msgOut.records, SentRecord sar) :
    AllSent { st with msgOut } :=
  ⟨outgoing, sent.built⟩

theorem flush (sent : AllSent st) (dst : U32) : AllSent (st.flushSarOut dst) :=
  sent.withMsgOut fun sar member =>
    sent.outgoing sar ((KeyedList.mem_remove _ _ _).mp member).1

theorem set (sent : AllSent st) {sar : MeshSarMsg} (record : SentRecord sar) :
    AllSent (st.setSarOut sar) := by
  apply sent.withMsgOut
  intro out member
  rcases KeyedList.mem_set member with isNew | ⟨present, _⟩
  · exact isNew ▸ record
  · exact sent.outgoing out present

theorem append (sent : AllSent st) {sar : MeshSarMsg} (record : SentRecord sar) :
    AllSent { st with msgOut := st.msgOut.append sar } := by
  apply sent.withMsgOut
  intro out member
  rcases (KeyedList.mem_append _ _ _).mp member with ⟨present, _⟩ | isNew
  · exact sent.outgoing out present
  · exact isNew ▸ record

theorem step (sent : AllSent before) (step : TxStep SentRecord before after) :
    AllSent after := by
  cases step with
  | build sar seg nid allowed inMessage =>
      have record : SentRecord sar := by
        rcases allowed with outgoing | fresh
        · rcases List.mem_map.mp outgoing with ⟨out, member, same⟩
          exact (sent.outgoing out member).of_frozen same
        · exact fresh
      rcases recordBuilt_eq sar seg nid before with ⟨_, _, equal⟩
      rw [equal]
      refine ⟨sent.outgoing, fun pkt member => ?_⟩
      rcases List.mem_append.mp member with earlier | new
      · exact sent.built pkt earlier
      · rw [List.mem_singleton.mp new]
        exact ⟨record, inMessage⟩
  | queue => exact ⟨sent.outgoing, sent.built⟩
  | clear sar present =>
      exact sent.set ((sent.outgoing sar present).of_frozen rfl)

theorem run (sent : AllSent before) (run : TxRun SentRecord before after) :
    AllSent after :=
  run.preserves AllSent (fun sent step => sent.step step) sent

/-- Sending again needs no new record. -/
theorem resent (sent : AllSent before)
    (run : TxRun (fun _ => False) before after) : AllSent after :=
  sent.run (run.mono fun _ absurd => absurd.elim)

end AllSent

/-! ## Control messages of the whitelist -/

section Whitelist

variable {env : NetEnv}

theorem netCtlMsgSend_sentRun (ttl : Byte) (src dst : U16) (buf : List Byte)
    {len : U16} (nonempty : 1 ≤ len.toNat) (st : NetState) :
    TxRun SentRecord st (netCtlMsgSend env ttl src dst buf len st).2 := by
  rw [netCtlMsgSend]
  cases st.nodes.localRecord with
  | none => exact Relation.ReflTransGen.refl
  | some node =>
      dsimp only
      generalize (if src = 0 then node.primary else src) = source
      split
      next => exact Relation.ReflTransGen.refl
      next accepted =>
        have short : len.toNat ≤ 12 := by
          rw [not_or, BitVec.lt_def] at accepted
          have twelve : (12 : U16).toNat = 12 := rfl
          omega
        split
        · exact Relation.ReflTransGen.refl
        · exact sendSeg_run sendPktCmplt_transmits
            (Or.inr (Or.inl (ctlRecord_control nonempty short)))
            (Nat.zero_le _)

theorem sendWhite_sentRun {white : List Byte} (nonempty : white ≠ [])
    (short : white.length ≤ 12) (st : NetState) :
    TxRun SentRecord st (sendWhite env white st) := by
  have positive := List.length_pos_of_ne_nil nonempty
  apply netCtlMsgSend_sentRun
  rw [BitVec.toNat_ofNat]
  omega

theorem setupWhitelist_sentRun (st : NetState) :
    TxRun SentRecord st (setupWhitelist env st) :=
  setupWhitelist_relates (fun _ => Relation.ReflTransGen.refl)
    (fun first second => first.trans second)
    (fun _ st nonempty acceptable => sendWhite_sentRun nonempty acceptable.1 st) st

/-- A beacon changes the IV state, and may send the whitelist. -/
theorem AllSent.processBeacon {st : NetState} (sent : AllSent st)
    (data : List Byte) (size : Byte) :
    AllSent (processBeacon env data size st).nextState := by
  rw [Net.processBeacon]
  split
  next => exact sent
  next =>
    dsimp only
    split
    next => exact sent
    next =>
      split
      next => exact sent
      next =>
        split
        next => exact sent
        next =>
          rw [beaconUpdate]
          split
          next => exact sent
          next windows passed =>
            rcases enforceWindows_eq passed with ⟨ivUpdState, isWindows⟩
            have taken : AllSent (takeOver (recognizedIvUpdate data st)
                (beaconIvIndex data) windows) := by
              rcases takeOver_eq (recognizedIvUpdate data st)
                (beaconIvIndex data) windows with ⟨_, _, equal⟩
              rw [equal, isWindows]
              exact ⟨sent.outgoing, sent.built⟩
            dsimp only
            split
            · exact taken.run (setupWhitelist_sentRun _)
            · exact taken

end Whitelist

/-! ## The claim about runs -/

/-- Access messages of 1 to 380 bytes; control messages that are not empty, of
which the longer ones are refused. -/
def NetInput.Admitted : NetInput → Prop
  | .accessSend _ _ _ _ _ len => 1 ≤ len.toNat ∧ len.toNat ≤ 380
  | .ctlSend _ _ _ _ len => 1 ≤ len.toNat
  | _ => True

theorem AllSent.netStep {env : NetEnv} {st : NetState} (sent : AllSent st)
    {input : NetInput} (admitted : input.Admitted) :
    AllSent (netStep env st input).nextState := by
  cases input with
  | beacon data size => exact sent.processBeacon data size
  | accessSend ttl src dst appIdx buf len =>
      change AllSent (netAccessLayerSend env ttl src dst appIdx buf len st).2
      rcases @netAccessLayerSend_cases env ttl src dst appIdx buf len st with
        unchanged | ⟨_, ttl', src', dst', aad, keys, _, equal⟩
      · rw [unchanged]
        exact sent
      · have record : SentRecord
            (accessRecord env st ttl' src' dst' aad keys buf len) :=
          Or.inr (accessRecord_access admitted.1 admitted.2)
        rw [equal]
        rcases @sendAccessRecord_cases env SentRecord _ record st with
          ⟨_, flushed, run, waits⟩ | ⟨_, run⟩
        · rw [waits]
          apply ((sent.flush _).run run).append
          exact record.congr rfl rfl rfl rfl
        · exact sent.run run
  | ctlSend ttl src dst buf len =>
      exact sent.run (netCtlMsgSend_sentRun ttl src dst buf admitted st)
  | ack src dst obo seq0 ackFlags =>
      change AllSent (ackRxed env src dst obo seq0 ackFlags st).2
      rcases @ackRxed_cases env src dst obo seq0 ackFlags st with
        ⟨_, unchanged⟩ | ⟨sar, found, ⟨_, flushed⟩ | ⟨_, run⟩⟩
      · rw [unchanged]
        exact sent
      · rw [flushed]
        exact sent.flush sar.dst
      · have record := sent.outgoing sar (KeyedList.mem_of_find found)
        apply AllSent.resent _ run
        exact sent.set (record.congr rfl rfl rfl rfl)
  | ackTimeout dst =>
      change AllSent (sarOutAckTimeout env dst st)
      rcases @sarOutAckTimeout_cases env dst st with
        unchanged | ⟨sar, present, run⟩
      · rw [unchanged]
        exact sent
      · have record := sent.outgoing sar present
        apply AllSent.resent _ run
        exact sent.set (record.congr rfl rfl rfl rfl)
  | msgTimeout dst => exact sent.flush dst
  | writeReply index success =>
      exact sent.resent (acquireWriteReply_run index success st)
  | sessionOpen dataIn provisioner cb =>
      change AllSent (netSessionOpen dataIn provisioner cb st).2
      rw [netSessionOpen]
      split <;> exact ⟨sent.outgoing, sent.built⟩
  | sessionClose dataIn => exact ⟨fun sar member => (by cases member), sent.built⟩

/-- What `mesh_crypto_application_encrypt` writes into the data of a new
record. -/
def encryptionWrites (aes : Key → AesBlock → AesBlock) (stale : AesBlock)
    (st : NetState) (src : U16) (dst : U32) (aad : Option Key) (keys : EncKeys)
    (buf : List Byte) (len : U16) (data : List Byte) : List Nat :=
  (applicationEncryptNoted aes stale keys.akfAid st.seqNum src
    (dst.setWidth 16) st.transmitIv keys.appEncKey aad buf (len.setWidth 8)
    ⟨data, []⟩).writes

theorem encryptionWrites_inside {aes : Key → AesBlock → AesBlock}
    {stale : AesBlock} {st : NetState} {src : U16} {dst : U32}
    {aad : Option Key} {keys : EncKeys} {buf : List Byte} {len : U16}
    (short : len.toNat ≤ 380) (data : List Byte) :
    ∀ index ∈ encryptionWrites aes stale st src dst aad keys buf len data,
      index < 20 + 12 * segMax (len.toNat + 4) := by
  have noted := (@applicationEncryptNoted_spec aes stale st.transmitIv keys.akfAid
    st.seqNum src (dst.setWidth 16) keys.appEncKey aad buf (len.setWidth 8)
    data).1
  intro index member
  rw [encryptionWrites, noted, List.mem_range, BitVec.toNat_setWidth] at member
  rw [segMax, maxUnsegLen, maxSegLen]
  split <;> omega

/-- A process without outgoing messages that sends messages of the admitted
lengths: encryption stays inside the record of each, and every packet that is
ever built, for the first time or again, fits its buffers. -/
theorem packets_fit (env : NetEnv) {start : NetState}
    (nothingBuilt : start.built = []) (noMessages : start.msgOut.records = [])
    {inputs : List NetInput} (admitted : ∀ input ∈ inputs, input.Admitted) :
    (∀ pkt ∈ ((netModel env).finalState start inputs).built,
      FitsBuffers pkt) ∧
    ∀ (aes : Key → AesBlock → AesBlock) (stale : AesBlock) (st : NetState)
      (ttl : Byte) (src : U16) (dst : U32) (aad : Option Key) (keys : EncKeys)
      (buf : List Byte) (len : U16), 1 ≤ len.toNat → len.toNat ≤ 380 →
      let sar := accessRecord (cryptoEnv aes stale env) st ttl src dst aad keys
        buf len
      ∀ index ∈ encryptionWrites aes stale st src dst aad keys buf len
          (MeshSarMsg.zero sar.segN).data,
        index < sar.data.length := by
  have initial : AllSent start := by
    constructor
    · rw [noMessages]
      exact fun _ member => by cases member
    · rw [nothingBuilt]
      exact fun _ member => by cases member
  have final : AllSent ((netModel env).finalState start inputs) :=
    (netModel env).invariant_finalState AllSent (·.input.Admitted)
      (fun st input sent admitted => sent.netStep admitted) initial
      (fun entry member =>
        admitted _ ((netModel env).input_of_mem_trace member))
  constructor
  · intro pkt member
    have ⟨record, inMessage⟩ := final.built pkt member
    exact record.fits inMessage
  · intro aes stale st ttl src dst aad keys buf len nonempty short sar index
      member
    have inside := encryptionWrites_inside short _ index member
    have record : AccessRecord sar := accessRecord_access nonempty short
    have total : sar.len.toNat = len.toNat + 4 := by
      have four : (4 : U16).toNat = 4 := rfl
      change (len + 4).toNat = _
      rw [BitVec.toNat_add, four]
      omega
    rw [sar.sized, record.segN, total]
    exact inside

/-! ### Two segments, sent twice -/

/-- Thirteen bytes for address 2, and the timer of their acknowledgement. -/
def twoSegments : List NetInput :=
  [.accessSend 0 1 2 appIdxDev (List.replicate 13 7) 13, .ackTimeout 2]

theorem packets_fit_two_segments :
    (∀ pkt ∈ ((netModel plainEnv).finalState openNode twoSegments).built,
      FitsBuffers pkt) ∧
    ∀ (aes : Key → AesBlock → AesBlock) (stale : AesBlock) (st : NetState)
      (ttl : Byte) (src : U16) (dst : U32) (aad : Option Key) (keys : EncKeys)
      (buf : List Byte) (len : U16), 1 ≤ len.toNat → len.toNat ≤ 380 →
      let sar := accessRecord (cryptoEnv aes stale plainEnv) st ttl src dst aad
        keys buf len
      ∀ index ∈ encryptionWrites aes stale st src dst aad keys buf len
          (MeshSarMsg.zero sar.segN).data,
        index < sar.data.length := by
  apply packets_fit plainEnv rfl rfl
  intro input member
  rcases List.mem_pair.mp member with isFirst | isSecond
  · rw [isFirst]
    exact ⟨by decide, by decide⟩
  · rw [isSecond]
    trivial

end Meshctl.Net
