import Meshctl.Net.MessageDecryption
import Meshctl.Net.SentSegments
import Meshctl.Net.WirePackets

/-! # Messages arrive

From the payload that one node is asked to send to the payload that the upper
layer of another node is given: over encryption, segmentation, packets in any
order and any number of copies, reassembly and decryption.
-/

namespace Meshctl.Net

open Bytes Crypto Execution

/-! ## The record of a payload -/

section Record

variable {aes : Key → AesBlock → AesBlock} {stale : AesBlock} {env : NetEnv}
  {st : NetState} {ttl : Byte} {src : U16} {dst : U32} {keys : EncKeys}
  {payload : List Byte} {len : U16}

/-- The record of a payload of 1 to 255 bytes without a label. -/
def payloadRecord (aes : Key → AesBlock → AesBlock) (stale : AesBlock)
    (env : NetEnv) (st : NetState) (ttl : Byte) (src : U16) (dst : U32)
    (keys : EncKeys) (payload : List Byte) : MeshSarMsg :=
  accessRecord (securedEnv aes stale env) st ttl src dst none keys payload
    (BitVec.ofNat 16 payload.length)

/-- `net_access_layer_send` sends that record. -/
theorem netAccessLayerSend_record {node : Node.MeshNode} {appIdx : U16}
    (isLocal : st.nodes.localRecord = some node)
    (short : payload.length ≤ 255) (source : src ≠ 0) (destination : dst ≠ 0)
    (isTtl : ttl ≠ 0xff) (unlabelled : isVirtual dst = false)
    (known : getEncKeys st appIdx (dst.setWidth 16) = some keys) :
    netAccessLayerSend (securedEnv aes stale env) ttl src dst appIdx payload
        (BitVec.ofNat 16 payload.length) st =
      (true, sendAccessRecord (securedEnv aes stale env)
        (payloadRecord aes stale env st ttl src dst keys payload) st) := by
  have accepted : ¬(384 < (BitVec.ofNat 16 payload.length : U16) ∨ src = 0 ∨
      dst = 0) := by
    rw [not_or, not_or, BitVec.lt_def, BitVec.toNat_ofNat]
    refine ⟨?_, source, destination⟩
    have limit : (384 : U16).toNat = 384 := rfl
    omega
  rw [netAccessLayerSend, isLocal]
  dsimp only
  rw [if_neg source, if_neg accepted, if_neg isTtl, resolveDst, unlabelled,
    if_neg Bool.false_ne_true]
  dsimp only
  rw [known]
  rfl

/-- The data of the record is the sealed payload. -/
theorem accessPdu_payloadRecord (nonempty : 0 < payload.length)
    (short : payload.length ≤ 255) :
    let sar := payloadRecord aes stale env st ttl src dst keys payload
    sar.len.toNat = payload.length + 4 ∧
      sar.accessPdu = ccmSealed (aes keys.appEncKey) sar.nonce (labelByte none)
        (labelLen none) 4 payload := by
  have isLen : (BitVec.ofNat 16 payload.length : U16).toNat =
      payload.length := by
    rw [BitVec.toNat_ofNat]
    omega
  rcases @segN_short (BitVec.ofNat 16 payload.length) (by omega) with
    ⟨segN, small, fits⟩
  rw [isLen] at segN fits
  have isByte : ((BitVec.ofNat 16 payload.length : U16).setWidth 8).toNat =
      payload.length := by
    rw [BitVec.toNat_setWidth, isLen]
    omega
  have four : (4 : U16).toNat = 4 := rfl
  have total : (BitVec.ofNat 16 payload.length + 4 : U16).toNat =
      payload.length + 4 := by
    rw [BitVec.toNat_add, isLen, four]
    omega
  have sealedLen := @length_ccmSealed (aes keys.appEncKey)
    (messageNonce keys.akfAid st.seqNum src (dst.setWidth 16) st.transmitIv
      false) (labelByte none) (labelLen none) 4 (by decide) payload
  intro sar
  refine ⟨total, ?_⟩
  change slice (splice (List.replicate (20 + 12 * (BitVec.ofNat 8
    (segMax ((BitVec.ofNat 16 payload.length : U16).toNat + 4)) : Byte).toNat) 0)
    0 (applicationEncrypt aes stale keys.akfAid st.seqNum src (dst.setWidth 16)
      st.transmitIv keys.appEncKey none payload
      ((BitVec.ofNat 16 payload.length : U16).setWidth 8))) 0
    (BitVec.ofNat 16 payload.length + 4 : U16).toNat = _
  rw [applicationEncrypt_eq aes stale _ _ _ _ _ _ _ (by omega) (by omega),
    total, ← sealedLen, isLen]
  apply slice_splice
  rw [sealedLen, List.length_replicate, segN]
  exact fits

/-- The key of the sender authenticates the record and decrypts it. -/
theorem authentic_payloadRecord (nonempty : 0 < payload.length)
    (short : payload.length ≤ 255) :
    let sar := payloadRecord aes stale env st ttl src dst keys payload
    sar.Authentic aes keys.appEncKey ∧
      sar.plain aes keys.appEncKey = payload := by
  intro sar
  have ⟨len, pdu⟩ := @accessPdu_payloadRecord aes stale env st ttl src dst keys
    payload nonempty short
  have plain := @ccmPlain_ccmSealed (aes keys.appEncKey) sar.nonce
    (labelByte none) (labelLen none) 4 (by decide) payload
  have isPlain : sar.plain aes keys.appEncKey = payload := by
    rw [MeshSarMsg.plain, pdu]
    exact plain
  refine ⟨?_, isPlain⟩
  rw [MeshSarMsg.Authentic, isPlain, len, Nat.add_sub_cancel, pdu]
  exact CounterMode.drop_sealed payload

end Record

/-! ## Arrivals -/

/-- What `send_seg` cuts from a record does not depend on what acknowledgements
and timers change in it. -/
theorem segmentPdu_congr {sar other : MeshSarMsg}
    (same : sar.message = other.message) (seg nid : Byte) (seq : U32) :
    segmentPdu sar seg nid seq = segmentPdu other seg nid seq := by
  have first : segmentPdu sar seg nid seq =
      segmentPdu sar.message seg nid seq := rfl
  rw [first, same]
  rfl

/-- A packet of the message, sent under a key while the block of sequence
numbers of the message lasts. The only packet of a message that is not segmented
has the number of the message. -/
structure PacketOf (sar : MeshSarMsg) (parts : NetKeyParts) (pkt : BuiltPkt) :
    Prop where
  message : pkt.sar.message = sar.message
  inMessage : pkt.seg.toNat ≤ sar.segN.toNat
  nid : pkt.nid = parts.nid
  short : parts.nid.toNat < 0x80
  seq : pkt.seq.toNat < 2 ^ 24
  block : SameBlock sar.seqAuth pkt.seq
  whole : sar.segmented = false → pkt.seq = sar.seqAuth

/-- The record of an access message that is neither too large for its segments
nor from an address that no node has. -/
structure Deliverable (sar : MeshSarMsg) : Prop where
  record : AccessRecord sar
  ttl : sar.ttl.toNat < 0x80
  source : isUnicast sar.src = true
  szmic : sar.szmic = false
  encrypted : sar.Encrypted
  unlabelled : isVirtual (sar.dst.setWidth 16 : U16) = false

namespace PacketOf

variable {sar : MeshSarMsg} {parts : NetKeyParts} {pkt : BuiltPkt}

theorem carried (packetOf : PacketOf sar parts pkt)
    (deliverable : Deliverable sar) : Carried parts pkt := by
  have same := packetOf.message
  have sameN : pkt.sar.message.segN = sar.message.segN :=
    congrArg MeshSarMsg.segN same
  change pkt.sar.segN = sar.segN at sameN
  have record := deliverable.record
  refine ⟨⟨?_, ?_, ?_, ?_, ?_⟩, ?_, ?_, ?_, packetOf.nid, packetOf.short⟩
  · exact (congrArg MeshSarMsg.ctl same).trans record.access
  · rw [sameN]
    exact (congrArg MeshSarMsg.segmented same).trans record.segmented
  · rw [sameN, record.segN]
    exact (congrArg (fun other => segMax (MeshSarMsg.len other).toNat) same).symm
  · exact record.nonempty.trans (Nat.le_of_eq
      (congrArg (fun other => (MeshSarMsg.len other).toNat) same).symm)
  · exact (Nat.le_of_eq
      (congrArg (fun other => (MeshSarMsg.len other).toNat) same)).trans
        record.short
  · rw [sameN]
    exact packetOf.inMessage
  · exact (congrArg (fun other => (MeshSarMsg.ttl other).toNat) same).trans_lt
      deliverable.ttl
  · exact (congrArg (fun other => isUnicast (MeshSarMsg.src other)) same).trans
      deliverable.source

theorem ivIndex (packetOf : PacketOf sar parts pkt) :
    pkt.sar.ivIndex = sar.ivIndex := by
  have same : pkt.sar.message.ivIndex = sar.message.ivIndex :=
    congrArg MeshSarMsg.ivIndex packetOf.message
  exact same

theorem plain_eq (packetOf : PacketOf sar parts pkt) :
    pkt.plain = (segmentPdu sar pkt.seg pkt.nid pkt.seq).1 := by
  rw [BuiltPkt.plain, segmentPdu_congr packetOf.message]

theorem len_eq (packetOf : PacketOf sar parts pkt)
    (deliverable : Deliverable sar) :
    pkt.len = (segmentPdu sar pkt.seg pkt.nid pkt.seq).2 + 4 := by
  have access : pkt.sar.ctl = false :=
    (congrArg MeshSarMsg.ctl packetOf.message).trans deliverable.record.access
  rw [BuiltPkt.len, segmentPdu_congr packetOf.message, access]
  rfl

theorem seqNum (packetOf : PacketOf sar parts pkt) :
    pkt.seq &&& 0xffffff = pkt.seq := by
  apply BitVec.eq_of_toNat_eq
  rw [toNat_and_seqMask]
  exact Nat.mod_eq_of_lt packetOf.seq

end PacketOf

theorem Deliverable.segmentedAccess {sar : MeshSarMsg}
    (deliverable : Deliverable sar) (segmented : sar.segmented = true) :
    SegmentedAccess sar := by
  have record := deliverable.record
  have several : sar.segN ≠ 0 := of_decide_eq_true
    (record.segmented.symm.trans segmented)
  have segN := record.segN
  refine ⟨record.access, segmented, ?_, record.short, segN⟩
  by_contra short
  rw [segMax, maxUnsegLen, if_pos (by omega)] at segN
  exact several (BitVec.eq_of_toNat_eq segN)

/-- Whenever `send_seg` is called for a segment of the message, it queues one of
the packets of the message. -/
theorem sendSeg_packetOf {aes : Key → AesBlock → AesBlock} {stale : AesBlock}
    {env : NetEnv} {cmplt : Completion} {sar out : MeshSarMsg} {seg : Byte}
    {st : NetState} {netKey : MeshNetKey} (same : out.message = sar.message)
    (deliverable : Deliverable sar) (notProxy : sar.proxy = false)
    (known : st.findNetKeyByIdx sar.netIdx = some netKey)
    (inMessage : seg.toNat ≤ sar.segN.toNat)
    (short : netKey.sendPart.nid.toNat < 0x80)
    (inRange : st.seqNum.toNat < 2 ^ 24) (block : SameBlock sar.seqAuth st.seqNum)
    (whole : sar.segmented = false → st.seqNum = sar.seqAuth) :
    ∃ (queued : MeshPkt) (pkt : BuiltPkt) (after : NetState),
      PacketOf sar netKey.sendPart pkt ∧ pkt.seg = seg ∧ pkt.seq = st.seqNum ∧
      queued.data.take queued.len.toNat = pkt.wire aes stale netKey.sendPart ∧
      sendSeg (securedEnv aes stale env) cmplt out seg st =
        sendMeshPkt (securedEnv aes stale env) cmplt queued after := by
  have sameIdx : out.message.netIdx = sar.message.netIdx :=
    congrArg MeshSarMsg.netIdx same
  have sameProxy : out.message.proxy = sar.message.proxy :=
    congrArg MeshSarMsg.proxy same
  have sameN : out.message.segN = sar.message.segN :=
    congrArg MeshSarMsg.segN same
  change out.netIdx = sar.netIdx at sameIdx
  change out.proxy = sar.proxy at sameProxy
  change out.segN = sar.segN at sameN
  rcases recordBuilt_eq out seg netKey.sendPart.nid st with ⟨_, _, isBuilt⟩
  have packetOf : PacketOf sar netKey.sendPart
      (recordBuilt out seg netKey.sendPart.nid st).1 := by
    rw [isBuilt]
    exact ⟨same, inMessage, rfl, short, inRange, block, whole⟩
  have carried := packetOf.carried deliverable
  have isOut : (recordBuilt out seg netKey.sendPart.nid st).1.sar = out := by
    rw [isBuilt]
  have record : AccessRecord out := isOut ▸ carried.record
  rcases @sendSeg_wire aes stale env cmplt out seg st netKey
    (sameIdx.symm ▸ known) (sameProxy.trans notProxy) record
    (sameN.symm ▸ inMessage) with ⟨queued, isSent, isData⟩
  refine ⟨queued, _, _, packetOf, ?_, ?_, isData, isSent⟩
  · rw [isBuilt]
  · rw [isBuilt]

/-! ## What is read from a decoded packet -/

section Decoded

variable {sar : MeshSarMsg} {parts : NetKeyParts} {pkt : BuiltPkt}
  {msg : List Byte} {netIdx : U16}

/-- The fields of the header are in front of the MIC. -/
structure HeaderOf (sar : MeshSarMsg) (pkt : BuiltPkt) (msg : List Byte) :
    Prop where
  ctl : pktCtl msg = false
  segmented : pktSegmented msg = sar.segmented
  seq : pktSeq msg = pkt.seq
  src : pktSrc msg = sar.src
  dst : pktDst msg = sar.dst.setWidth 16

theorem DecodedAs.header (decoded : DecodedAs pkt msg)
    (packetOf : PacketOf sar parts pkt) (deliverable : Deliverable sar) :
    HeaderOf sar pkt msg := by
  have carried := packetOf.carried deliverable
  have ⟨long, _⟩ := carried.len
  have access := deliverable.record.access
  have same : ∀ index < 14, get msg index =
      get (segmentPdu sar pkt.seg pkt.nid pkt.seq).1 index := by
    intro index inside
    rw [decoded.same index (by omega), packetOf.plain_eq]
  refine ⟨?_, ?_, ?_, ?_, ?_⟩
  · rw [pktCtl, decoded.same 1 (by omega)]
    exact carried.ctl
  · rw [pktSegmented, same 9 (by omega)]
    cases segmented : sar.segmented with
    | true =>
        have flag : ((0x80 ||| sar.akfAid) &&& 0x80 : Byte) = 0x80 := by
          ext index inRange
          interval_cases index <;> simp
        rw [get_segmentPdu_first access segmented, flag]
        rfl
    | false =>
        rw [get_segmentPdu_unsegmented access segmented,
          deliverable.encrypted.bits.2.1]
        rfl
  · have read : getBe32 msg 1 =
        getBe32 (segmentPdu sar pkt.seg pkt.nid pkt.seq).1 1 :=
      getBe32_congr fun index inside => same _ (by omega)
    rw [pktSeq, read]
    exact (pktSeq_segmentPdu _ _ _ _).trans packetOf.seqNum
  · rw [pktSrc, getBe16_congr (same 5 (by omega)) (same 6 (by omega))]
    exact pktSrc_segmentPdu _ _ _ _
  · rw [pktDst, getBe16_congr (same 7 (by omega)) (same 8 (by omega))]
    exact pktDst_segmentPdu _ _ _ _

/-- A packet of a segmented message is one of its segments. -/
theorem DecodedAs.isSegment (decoded : DecodedAs pkt msg)
    (packetOf : PacketOf sar parts pkt) (deliverable : Deliverable sar)
    (segmented : sar.segmented = true) :
    IsSegment sar pkt.seg (packetSegment netIdx sar.ivIndex msg pkt.len) := by
  have header := decoded.header packetOf deliverable
  have carried := packetOf.carried deliverable
  have ⟨long, _⟩ := carried.len
  have cut : pkt.len - micSize (pktCtl msg) =
      (segmentPdu sar pkt.seg pkt.nid pkt.seq).2 := by
    rw [header.ctl, packetOf.len_eq deliverable]
    exact BitVec.add_sub_cancel _ _
  have size := packetOf.len_eq deliverable
  have four : (4 : Byte).toNat = 4 := rfl
  have wireLen := @receivedSegment_len sar
    (deliverable.segmentedAccess segmented) pkt.seg pkt.nid pkt.seq netIdx
    sar.ivIndex
  have sizes := (deliverable.segmentedAccess segmented).segmentSize_pos
    pkt.seg.toNat
  refine ⟨packetOf.inMessage, header.ctl, rfl, netIdx, pkt.nid, pkt.seq, ?_⟩
  refine ⟨?_, ?_, ?_, ?_, ?_⟩
  · exact header.seq.trans
      ((pktSeq_segmentPdu _ _ _ _).trans packetOf.seqNum).symm
  · exact header.src.trans (pktSrc_segmentPdu _ _ _ _).symm
  · exact header.dst.trans (pktDst_segmentPdu _ _ _ _).symm
  · change (pkt.len - micSize (pktCtl msg)).setWidth 16 - 9 = _
    rw [cut]
    rfl
  · intro index inside
    rw [wireLen] at inside
    change get (msg.drop 9) index =
      get ((segmentPdu sar pkt.seg pkt.nid pkt.seq).1.drop 9) index
    have inPacket : 9 + index < pkt.len.toNat - 4 := by
      have nine : (9 : U16).toNat = 9 := rfl
      change ((segmentPdu sar pkt.seg pkt.nid pkt.seq).2.setWidth 16 -
        9 : U16).toNat = _ at wireLen
      have isSum := congrArg BitVec.toNat size
      rw [BitVec.toNat_add, four] at isSum
      rw [BitVec.toNat_sub, BitVec.toNat_setWidth, nine] at wireLen
      omega
    rw [get_drop, get_drop, decoded.same _ inPacket, packetOf.plain_eq]

/-- It is read with the sequence number that the message began with. -/
theorem DecodedAs.seqAuth (decoded : DecodedAs pkt msg)
    (packetOf : PacketOf sar parts pkt) (deliverable : Deliverable sar)
    (segmented : sar.segmented = true) :
    (packetSegment netIdx sar.ivIndex msg pkt.len).seqAuth = sar.seqAuth := by
  have header := decoded.header packetOf deliverable
  have message := deliverable.segmentedAccess segmented
  have facts := (@isSegment sar parts pkt msg netIdx decoded packetOf deliverable
    segmented).facts message
  have block := packetOf.block
  have isSeq : (packetSegment netIdx sar.ivIndex msg pkt.len).seqNum =
      pkt.seq := header.seq
  have mask : (0x1fff : U32).toNat = 2 ^ 13 - 1 := rfl
  have zero := congrArg BitVec.toNat facts.seq0
  rw [BitVec.toNat_setWidth, BitVec.toNat_and, mask,
    Nat.and_two_pow_sub_one_eq_mod] at zero
  apply BitVec.eq_of_toNat_eq
  rw [SegmentPdu.seqAuth, toNat_calcSeqAuth, isSeq, zero]
  rw [SameBlock] at block
  omega

/-- A packet of a message that is not segmented holds all of it. -/
theorem DecodedAs.holds (decoded : DecodedAs pkt msg)
    (packetOf : PacketOf sar parts pkt) (deliverable : Deliverable sar)
    (unsegmented : sar.segmented = false) :
    (packetMessage sar.netIdx sar.ivIndex msg pkt.len).Holds
      (packetTransLen msg pkt.len) sar pkt.seq := by
  have header := decoded.header packetOf deliverable
  have carried := packetOf.carried deliverable
  have access := deliverable.record.access
  have noSegments : pkt.sar.message.segmented = sar.message.segmented :=
    congrArg MeshSarMsg.segmented packetOf.message
  have sameLen : pkt.sar.message.len = sar.message.len :=
    congrArg MeshSarMsg.len packetOf.message
  change pkt.sar.segmented = sar.segmented at noSegments
  change pkt.sar.len = sar.len at sameLen
  have size := carried.record.len_eq carried.inMessage
  rw [noSegments, unsegmented, if_neg Bool.false_ne_true, sameLen] at size
  have short : sar.len.toNat ≤ 15 := by
    have segN := deliverable.record.segN
    have single : sar.segN = 0 := by
      have isSingle := deliverable.record.segmented
      rw [unsegmented] at isSingle
      exact not_not.mp (of_decide_eq_false isSingle.symm)
    rw [single, segMax, maxUnsegLen, maxSegLen] at segN
    have nothing : (0 : Byte).toNat = 0 := rfl
    split at segN <;> omega
  have same : ∀ index < 10 + sar.len.toNat, get msg index =
      get (segmentPdu sar pkt.seg pkt.nid pkt.seq).1 index := by
    intro index inside
    rw [decoded.same index (by omega), packetOf.plain_eq]
  refine ⟨rfl, rfl, ?_, header.seq, header.src, header.dst, rfl, ?_, ?_, ?_⟩
  · exact header.seq.trans (packetOf.whole unsegmented)
  · change get (msg.drop 9) 0 = _
    rw [get_drop, same _ (by omega)]
    exact get_segmentPdu_unsegmented access unsegmented
  · intro index inside
    change get (msg.drop 9) (1 + index) = _
    have behind : 9 + (1 + index) = 10 + index := by omega
    rw [get_drop, behind, same _ (by omega)]
    exact get_segmentPdu_message access unsegmented (by omega)
  · have nine : (9 : U16).toNat = 9 := rfl
    have four : (4 : Byte).toNat = 4 := rfl
    have bound := pkt.len.isLt
    change ((pkt.len - micSize (pktCtl msg)).setWidth 16 - 9 : U16).toNat = _
    rw [header.ctl, micSize, if_neg Bool.false_ne_true, BitVec.toNat_sub,
      BitVec.toNat_setWidth, BitVec.toNat_sub, nine, four]
    omega

end Decoded

/-! ## One arrival -/

/-- The receiver can read a packet of the message: its IV index is that of the
message or the next one, and it finds the two keys. -/
structure Hears (env : RxEnv) (stale : AesBlock) (st : NetState)
    (sar : MeshSarMsg) (key : Key) (appIdx : U16) (parts : NetKeyParts)
    (pkt : BuiltPkt) (rest : List Byte) : Prop where
  ivIndex : st.ivIndex = sar.ivIndex ∨
    st.ivIndex.toNat = sar.ivIndex.toNat + 1
  network : FoundWith env.toDecodeEnv st.netKeys parts sar.netIdx
    (pkt.received env.aes stale parts rest)
  message : ReadWith env st sar key appIdx

/-- Data that begins with the packet. -/
def packetInput (env : RxEnv) (stale : AesBlock) (parts : NetKeyParts)
    (pkt : BuiltPkt) (rest : List Byte) : RxInput :=
  .data (pkt.wire env.aes stale parts ++ rest) (pkt.len + 1)

section Step

variable {env : RxEnv} {stale : AesBlock} {rx : RxState} {sar : MeshSarMsg}
  {key : Key} {appIdx : U16} {parts : NetKeyParts} {pkt : BuiltPkt}
  {rest : List Byte}

/-- The packet is decoded, and goes to `packet_rxed` of its network. -/
theorem packetInput_decoded (packetOf : PacketOf sar parts pkt)
    (deliverable : Deliverable sar)
    (hears : Hears env stale rx.net sar key appIdx parts pkt rest) :
    let packet := pkt.received env.aes stale parts rest
    ∃ msg, DecodedAs pkt msg ∧
      receivedAccess env rx.net (packetInput env stale parts pkt rest) =
        packetAccess env sar.netIdx packet msg rx.net ∧
      (rxStep env rx (packetInput env stale parts pkt rest)).nextState =
        (packetRxed env sar.netIdx packet msg rx).nextState := by
  intro packet
  have carried := packetOf.carried deliverable
  have notBeacon : ¬(10 ≤ (pkt.len + 1).toNat ∧
      get (pkt.wire env.aes stale parts ++ rest) 0 = proxyMeshBeacon) := by
    have apart : proxyNetworkPdu ≠ proxyMeshBeacon := by decide
    exact fun beacon => apart beacon.2
  have isPacket := @Carried.rxPacket_wire env.aes stale parts pkt carried
    rx.net.ivIndex (by rw [packetOf.ivIndex]; exact hears.ivIndex) rest
  rcases carried.netPacketDecode_wire hears.network with
    ⟨netKey, found, isIdx, decoded⟩
  refine ⟨_, decoded, ?_, ?_⟩
  · rw [packetInput, receivedAccess, if_neg notBeacon, isPacket,
      Option.bind_some]
    dsimp only
    rw [found, Option.bind_some, isIdx]
  · change (netDataReady env _ _ rx).nextState = _
    rw [netDataReady, if_neg notBeacon, isPacket]
    dsimp only
    rw [packetReady, found]
    dsimp only
    rw [isIdx]

/-- A packet of a segmented message is taken as one of its segments. -/
theorem packetInput_segmented (packetOf : PacketOf sar parts pkt)
    (deliverable : Deliverable sar)
    (hears : Hears env stale rx.net sar key appIdx parts pkt rest)
    (segmented : sar.segmented = true) :
    ∃ pdu : SegmentPdu, IsSegment sar pkt.seg pdu ∧
      pdu.seqAuth = sar.seqAuth ∧ pdu.seqNum = pkt.seq ∧
      pdu.netIdx = sar.netIdx ∧
      let answer := segRxed env.net (msgReceiver env) pdu rx.net
      (rxStep env rx (packetInput env stale parts pkt rest)).nextState.net =
        answer.nextState ∧
      deliveredAccess env rx.net (packetInput env stale parts pkt rest) =
        answer.observation.handed.bind fun message =>
          if message.ctl then none
          else (msgRxed env rx.net message ⟨message.len, []⟩).delivered := by
  rcases packetInput_decoded packetOf deliverable hears with
    ⟨msg, decoded, received, next⟩
  have header := decoded.header packetOf deliverable
  have isIv : (pkt.received env.aes stale parts rest).ivIndex = sar.ivIndex :=
    packetOf.ivIndex
  have notAck : ¬(pktCtl msg && pktOpcode msg = netOpSegAcknowledge) = true := by
    simp [header.ctl]
  refine ⟨packetSegment sar.netIdx sar.ivIndex msg pkt.len,
    decoded.isSegment packetOf deliverable segmented,
    decoded.seqAuth packetOf deliverable segmented, header.seq, rfl, ?_, ?_⟩
  · rw [next, packetRxed]
    dsimp only
    rw [if_neg (show ¬(pkt.received env.aes stale parts rest).proxy = true from
      Bool.false_ne_true), if_neg notAck, if_pos (header.segmented.trans segmented),
      isIv, segmentRxed]
    dsimp only
    split
    · rfl
    · rfl
  · rw [deliveredAccess, received, packetAccess,
      if_neg (by simp [header.ctl, BuiltPkt.received]),
      if_pos (header.segmented.trans segmented), isIv, Option.bind_assoc]
    congr 1
    funext message
    rw [reassembledAccess]
    split
    · rfl
    · rfl

/-- The records of a source keep the network that its first segment came by. -/
theorem segRxed_netIdx {pdu : SegmentPdu} {st : NetState} {netIdx : U16}
    {receiver : MsgReceiver} {netEnv : NetEnv} (fresh : ¬pdu.Stale st)
    (access : pdu.ctl = false) (isNet : pdu.netIdx = netIdx)
    (slot : ∀ record, st.sarIn.find pdu.src = some record →
      record.netIdx = netIdx) :
    let answer := segRxed netEnv receiver pdu st
    (∀ record, answer.nextState.sarIn.find pdu.src = some record →
      record.netIdx = netIdx) ∧
    ∀ handed, answer.observation.handed = some handed →
      handed.netIdx = netIdx ∧ handed.seqNum = pdu.seqNum := by
  intro answer
  rcases @segRxed_spec netEnv receiver pdu st fresh with ⟨sar, isRecord, stored⟩
  have sarNet : (storeSegment pdu sar).netIdx = netIdx := by
    rw [storeSegment_eq]
    rcases isRecord with ⟨found, _⟩ | ⟨_, isNew⟩
    · exact slot sar found
    · exact isNew ▸ isNet
  constructor
  · rcases stored.left with ⟨last, payload, found, frozen, _⟩
    intro record isLast
    rw [show answer.nextState.sarIn.find pdu.src = _ from found,
      Option.some_inj] at isLast
    have same : last.frozen.netIdx =
        (decryptInPlace payload (storeSegment pdu sar)).frozen.netIdx :=
      congrArg MeshSarMsg.netIdx frozen
    rw [← isLast]
    refine Eq.trans same ?_
    cases payload with
    | none => exact sarNet
    | some payload => exact sarNet
  · intro handed isHanded
    rw [show answer.observation.handed = _ from stored.handed] at isHanded
    split at isHanded
    · rw [← Option.some_inj.mp isHanded]
      exact ⟨sarNet, if_neg (by simp [access])⟩
    · cases isHanded

/-- The message that was put together is the one of the record. -/
theorem Reassembled.holds {handed : HandedMessage} {seqNum : U32}
    (reassembled : Reassembled sar sar.seqAuth handed)
    (deliverable : Deliverable sar) (segmented : sar.segmented = true)
    (isNet : handed.netIdx = sar.netIdx) (isSeq : handed.seqNum = seqNum) :
    handed.Holds ⟨handed.len, []⟩ sar seqNum := by
  have sized := sar.sized
  have fits := (deliverable.segmentedAccess segmented).lastSize
  refine ⟨isNet, reassembled.ivIndex, reassembled.seqAuth, isSeq,
    reassembled.src, reassembled.dst,
    reassembled.szmic.trans deliverable.szmic, ?_, ?_, reassembled.len⟩
  · rw [reassembled.octet 0 0 0, pktTrans, get_drop,
      get_segmentPdu_first deliverable.record.access segmented]
    have bits := deliverable.encrypted.bits.1
    have masked : ((0x80 ||| sar.akfAid) &&& 0x7f : Byte) =
        sar.akfAid &&& 0x7f := by
      ext index inRange
      interval_cases index <;> simp
    exact masked.trans bits
  · intro index inside
    have same := congrArg (get · index) reassembled.pdu
    rw [get_slice inside, get_take inside] at same
    exact same

/-- What the receiver keeps for the source of a message. -/
structure SlotOf (sar : MeshSarMsg) (arrived : Set Nat) (st : NetState) :
    Prop where
  receiving : Receiving sar sar.seqAuth arrived (st.sarIn.find sar.src)
  netIdx : ∀ record, st.sarIn.find sar.src = some record →
    record.netIdx = sar.netIdx

/-- The step lemma: the packet adds its segment, and delivers the message if
that was the last one missing. -/
theorem packetInput_step {arrived : Set Nat} {payload : List Byte}
    (slot : SlotOf sar arrived rx.net) (packetOf : PacketOf sar parts pkt)
    (deliverable : Deliverable sar)
    (hears : Hears env stale rx.net sar key appIdx parts pkt rest)
    (segmented : sar.segmented = true) (authentic : sar.Authentic env.aes key)
    (isPayload : sar.plain env.aes key = payload) :
    let input := packetInput env stale parts pkt rest
    SlotOf sar (insert pkt.seg.toNat arrived)
        (rxStep env rx input).nextState.net ∧
      (¬AllArrived sar arrived →
        AllArrived sar (insert pkt.seg.toNat arrived) →
        ∃ access, deliveredAccess env rx.net input = some access ∧
          Conveyed sar appIdx payload pkt.seq access) ∧
      (AllArrived sar arrived ∨
        ¬AllArrived sar (insert pkt.seg.toNat arrived) →
        deliveredAccess env rx.net input = none) := by
  intro input
  have message := deliverable.segmentedAccess segmented
  rcases packetInput_segmented packetOf deliverable hears segmented with
    ⟨pdu, isSegment, seqAuth, seqNum, netIdx, next, delivered⟩
  have facts := isSegment.facts message
  have isSrc := facts.src
  have fresh := (receiving_record slot.receiving isSegment facts seqAuth).1
  rcases @segRxed_own sar sar.seqAuth arrived pdu pkt.seg env.net
    (msgReceiver env) rx.net slot.receiving message isSegment seqAuth with
    ⟨receiving, completed, quiet⟩
  have ⟨kept, named⟩ := @segRxed_netIdx pdu rx.net sar.netIdx (msgReceiver env)
    env.net fresh isSegment.access netIdx (isSrc.symm ▸ slot.netIdx)
  rw [isSrc] at kept
  refine ⟨⟨?_, ?_⟩, ?_, ?_⟩
  · rw [next]
    exact receiving
  · rw [next]
    exact kept
  · intro missing all
    rcases completed missing all with ⟨handed, isHanded, reassembled⟩
    rcases named handed isHanded with ⟨isNet, isSeq⟩
    have holds := reassembled.holds deliverable segmented isNet
      (isSeq.trans seqNum)
    rw [delivered, isHanded, Option.bind_some, reassembled.ctl,
      if_neg Bool.false_ne_true]
    exact msgRxed_conveys holds deliverable.encrypted deliverable.unlabelled
      hears.message authentic isPayload
  · intro notNow
    rw [delivered, quiet notNow, Option.bind_none]

/-- A packet that is a whole message delivers it. -/
theorem packetInput_whole {payload : List Byte}
    (packetOf : PacketOf sar parts pkt) (deliverable : Deliverable sar)
    (hears : Hears env stale rx.net sar key appIdx parts pkt rest)
    (unsegmented : sar.segmented = false)
    (authentic : sar.Authentic env.aes key)
    (isPayload : sar.plain env.aes key = payload) :
    ∃ access, deliveredAccess env rx.net
        (packetInput env stale parts pkt rest) = some access ∧
      Conveyed sar appIdx payload pkt.seq access := by
  rcases packetInput_decoded packetOf deliverable hears with
    ⟨msg, decoded, received, _⟩
  have header := decoded.header packetOf deliverable
  have isIv : (pkt.received env.aes stale parts rest).ivIndex = sar.ivIndex :=
    packetOf.ivIndex
  rw [deliveredAccess, received, packetAccess,
    if_neg (by simp [header.ctl, BuiltPkt.received]),
    if_neg (by simp [header.segmented, unsegmented]), if_pos (by simp [header.ctl]),
    isIv, Option.bind_some]
  exact msgRxed_conveys (decoded.holds packetOf deliverable unsegmented)
    deliverable.encrypted deliverable.unlabelled hears.message authentic
    isPayload

end Step

/-! ## Runs -/

/-- A packet of the message arrives, or anything else happens at the
receiver. -/
inductive DeliveryInput where
  | packet (parts : NetKeyParts) (pkt : BuiltPkt) (rest : List Byte)
  | other (input : RxInput)

namespace DeliveryInput

def pkt : DeliveryInput → Option BuiltPkt
  | .packet _ pkt _ => some pkt
  | .other _ => none

variable (env : RxEnv) (stale : AesBlock)

def input : DeliveryInput → RxInput
  | .packet parts pkt rest => packetInput env stale parts pkt rest
  | .other input => input

/-- What a packet of the message delivers. -/
def delivered (rx : RxState) : DeliveryInput → Option DeliveredAccess
  | .packet parts pkt rest =>
      deliveredAccess env rx.net (packetInput env stale parts pkt rest)
  | .other _ => none

end DeliveryInput

section Runs

variable (env : RxEnv) (stale : AesBlock)

def deliveryModel : Model RxState DeliveryInput (Option DeliveredAccess) where
  step rx event :=
    ⟨(rxStep env rx (event.input env stale)).nextState,
      event.delivered env stale rx⟩

/-- What the packets of a message deliver in a run, oldest first. -/
def deliveries (start : RxState) (events : List DeliveryInput) :
    List DeliveredAccess :=
  ((deliveryModel env stale).trace start events).filterMap Entry.observation

/-- Whenever a packet of the message arrives the receiver can read it, and
nothing else disturbs what it keeps of the message. -/
inductive Undisturbed (sar : MeshSarMsg) (key : Key) (appIdx : U16)
    (rx : RxState) : DeliveryInput → Prop where
  | packet {parts : NetKeyParts} {pkt : BuiltPkt} {rest : List Byte}
      (packetOf : PacketOf sar parts pkt)
      (hears : Hears env stale rx.net sar key appIdx parts pkt rest) :
      Undisturbed sar key appIdx rx (.packet parts pkt rest)
  | other {input : RxInput}
      (kept : (rxStep env rx input).nextState.net.sarIn.find sar.src =
        rx.net.sarIn.find sar.src) :
      Undisturbed sar key appIdx rx (.other input)

/-- The packets of the message among what happened. -/
def packetsOf (events : List DeliveryInput) : List BuiltPkt :=
  events.filterMap DeliveryInput.pkt

def segsArrived (events : List DeliveryInput) : Set Nat :=
  { seg | ∃ pkt ∈ packetsOf events, pkt.seg.toNat = seg }

variable {env stale} {start : RxState} {sar : MeshSarMsg} {key : Key}
  {appIdx : U16} {payload : List Byte}

def afterEvents (env : RxEnv) (stale : AesBlock) (start : RxState)
    (events : List DeliveryInput) : RxState :=
  (deliveryModel env stale).finalState start events

theorem deliveries_cons (event : DeliveryInput) (events : List DeliveryInput) :
    deliveries env stale start (event :: events) =
      (event.delivered env stale start).toList ++
        deliveries env stale (rxStep env start
          (event.input env stale)).nextState events := by
  have observed : ((deliveryModel env stale).entry start event).observation =
      event.delivered env stale start := rfl
  rw [deliveries, Model.trace_cons]
  cases isDelivered : event.delivered env stale start with
  | none =>
      rw [List.filterMap_cons_none (observed.trans isDelivered)]
      rfl
  | some access =>
      rw [List.filterMap_cons_some (observed.trans isDelivered)]
      rfl

theorem deliveries_append (events : List DeliveryInput)
    (event : DeliveryInput) :
    deliveries env stale start (events ++ [event]) =
      deliveries env stale start events ++
        (event.delivered env stale (afterEvents env stale start events)).toList := by
  have last := @deliveries_cons env stale (afterEvents env stale start events)
    event []
  rw [deliveries, Model.trace_append, List.filterMap_append]
  exact congrArg (deliveries env stale start events ++ ·)
    (last.trans (List.append_nil _))

theorem packetsOf_append (events : List DeliveryInput) (event : DeliveryInput) :
    packetsOf (events ++ [event]) = packetsOf events ++ event.pkt.toList := by
  rw [packetsOf, List.filterMap_append]
  cases event with
  | packet parts pkt rest => rfl
  | other input => rfl

theorem segsArrived_packet (events : List DeliveryInput) (parts : NetKeyParts)
    (pkt : BuiltPkt) (rest : List Byte) :
    segsArrived (events ++ [.packet parts pkt rest]) =
      insert pkt.seg.toNat (segsArrived events) := by
  ext seg
  rw [segsArrived, packetsOf_append]
  simp only [DeliveryInput.pkt, Option.toList_some, List.mem_append,
    List.mem_singleton, Set.mem_ofPred_eq, Set.mem_insert_iff, segsArrived]
  constructor
  · rintro ⟨other, before | isPkt, isSeg⟩
    · exact Or.inr ⟨other, before, isSeg⟩
    · exact Or.inl (isPkt ▸ isSeg.symm)
  · rintro (isSeg | ⟨other, before, isSeg⟩)
    · exact ⟨pkt, Or.inr rfl, isSeg.symm⟩
    · exact ⟨other, Or.inl before, isSeg⟩

theorem segsArrived_other (events : List DeliveryInput) (input : RxInput) :
    segsArrived (events ++ [.other input]) = segsArrived events := by
  rw [segsArrived, packetsOf_append]
  simp [DeliveryInput.pkt, segsArrived]

/-- The run lemma: a segmented message is delivered when nothing of it is
missing any more, and never again. -/
theorem deliveries_segmented (deliverable : Deliverable sar)
    (segmented : sar.segmented = true) (authentic : sar.Authentic env.aes key)
    (isPayload : sar.plain env.aes key = payload)
    (nothing : start.net.sarIn.find sar.src = none)
    (events : List DeliveryInput)
    (undisturbed : ∀ entry ∈ (deliveryModel env stale).trace start events,
      Undisturbed env stale sar key appIdx entry.before entry.input) :
    SlotOf sar (segsArrived events) (afterEvents env stale start events).net ∧
      ((AllArrived sar (segsArrived events) ∧ ∃ pkt ∈ packetsOf events,
          ∃ access, deliveries env stale start events = [access] ∧
            Conveyed sar appIdx payload pkt.seq access) ∨
        ¬AllArrived sar (segsArrived events) ∧
          deliveries env stale start events = []) := by
  induction events using List.reverseRecOn with
  | nil =>
      have none : segsArrived [] = ∅ := by simp [segsArrived, packetsOf]
      refine ⟨⟨?_, ?_⟩, Or.inr ⟨fun all => ?_, rfl⟩⟩
      · change Receiving sar _ _ (start.net.sarIn.find sar.src)
        rw [nothing, none]
        exact rfl
      · intro record found
        change start.net.sarIn.find sar.src = some record at found
        rw [nothing] at found
        cases found
      · rw [none] at all
        exact all 0 (Nat.zero_le _)
  | append_singleton events event induction =>
      rw [Model.trace_append] at undisturbed
      rcases induction fun entry member =>
        undisturbed entry (List.mem_append_left _ member) with ⟨slot, before⟩
      have last := undisturbed ((deliveryModel env stale).entry
        (afterEvents env stale start events) event)
        (List.mem_append_right _ List.mem_cons_self)
      have next : afterEvents env stale start (events ++ [event]) =
          (rxStep env (afterEvents env stale start events)
            (event.input env stale)).nextState := by
        rw [afterEvents, Model.finalState_append]
        rfl
      rw [deliveries_append, packetsOf_append, next]
      cases last with
      | @packet parts pkt rest packetOf hears =>
          rcases packetInput_step slot packetOf deliverable hears segmented
            authentic isPayload with ⟨slotNext, completed, quiet⟩
          rw [segsArrived_packet]
          refine ⟨slotNext, ?_⟩
          rcases before with ⟨all, earlier, member, access, once, conveyed⟩ |
            ⟨missing, never⟩
          · refine Or.inl ⟨fun seg inMessage =>
              Set.mem_insert_of_mem _ (all seg inMessage), earlier,
              List.mem_append_left _ member, access, ?_, conveyed⟩
            have isQuiet := quiet (Or.inl all)
            rw [once]
            change [access] ++ Option.toList (deliveredAccess env _ _) = _
            rw [isQuiet]
            rfl
          · by_cases all : AllArrived sar
                (insert pkt.seg.toNat (segsArrived events))
            · rcases completed missing all with ⟨access, isAccess, conveyed⟩
              refine Or.inl ⟨all, pkt, by simp [DeliveryInput.pkt], access, ?_,
                conveyed⟩
              rw [never]
              change [] ++ Option.toList (deliveredAccess env _ _) = _
              rw [isAccess]
              rfl
            · refine Or.inr ⟨all, ?_⟩
              have isQuiet := quiet (Or.inr all)
              rw [never]
              change [] ++ Option.toList (deliveredAccess env _ _) = _
              rw [isQuiet]
              rfl
      | @other input kept =>
          change (rxStep env (afterEvents env stale start events)
            input).nextState.net.sarIn.find sar.src = _ at kept
          rw [segsArrived_other]
          refine ⟨⟨?_, ?_⟩, ?_⟩
          · change Receiving sar _ _
              ((rxStep env _ input).nextState.net.sarIn.find sar.src)
            rw [kept]
            exact slot.receiving
          · change ∀ record, (rxStep env _ input).nextState.net.sarIn.find
              sar.src = some record → _
            rw [kept]
            exact slot.netIdx
          · change (_ ∧ ∃ pkt ∈ packetsOf events ++ [], ∃ access,
              deliveries env stale start events ++ [] = [access] ∧ _) ∨
              _ ∧ deliveries env stale start events ++ [] = []
            rw [List.append_nil, List.append_nil]
            exact before

/-- Every packet of a message that is not segmented delivers it. -/
theorem deliveries_whole (deliverable : Deliverable sar)
    (unsegmented : sar.segmented = false)
    (authentic : sar.Authentic env.aes key)
    (isPayload : sar.plain env.aes key = payload)
    (events : List DeliveryInput)
    (undisturbed : ∀ entry ∈ (deliveryModel env stale).trace start events,
      Undisturbed env stale sar key appIdx entry.before entry.input) :
    List.Forall₂ (fun pkt access => Conveyed sar appIdx payload pkt.seq access)
      (packetsOf events) (deliveries env stale start events) := by
  induction events generalizing start with
  | nil => exact List.Forall₂.nil
  | cons event rest induction =>
      rw [Model.trace_cons] at undisturbed
      rcases List.forall_mem_cons.mp undisturbed with ⟨first, later⟩
      have tail := induction later
      cases first with
      | @packet parts pkt data packetOf hears =>
          rcases packetInput_whole packetOf deliverable hears unsegmented
            authentic isPayload with ⟨access, isAccess, conveyed⟩
          have here : deliveries env stale start
              (.packet parts pkt data :: rest) = access ::
                deliveries env stale (rxStep env start
                  (packetInput env stale parts pkt data)).nextState rest := by
            change deliveredAccess env start.net _ = _ at isAccess
            rw [deliveries_cons]
            change Option.toList (deliveredAccess env _ _) ++ _ = _
            rw [isAccess]
            rfl
          rw [here]
          exact List.Forall₂.cons conveyed tail
      | @other input kept => exact tail

end Runs

/-! ## From one node to another -/

/-- Three bytes from node 1 to node 3. -/
def threeBytes : MeshSarMsg :=
  payloadRecord addKey .zero plainEnv labelledNode 4 1 3
    { akfAid := 0x40, appEncKey := 7, netIdx := 0 } [1, 2, 3]

def threeBytesPkt : BuiltPkt where
  sar := threeBytes
  seg := 0
  nid := 1
  seq := 0
  restartedAt := 0

theorem threeBytes_undisturbed :
    Undisturbed quietUpper .zero threeBytes 7 0 (.start labelledNode)
      (.packet thisNetKey.current threeBytesPkt []) := by
  refine .packet ⟨rfl, by decide +kernel, rfl, by decide, by decide,
    by decide +kernel, fun _ => by decide +kernel⟩ ⟨by decide +kernel, ?_, ?_⟩
  · constructor
    · exact ⟨(thisNetKey, thisNetKey.current), List.mem_cons_self, rfl, rfl, rfl⟩
    · intro copy member isNid _
      rcases List.mem_cons.mp member with isCurrent | isNew
      · rw [isCurrent]
        exact ⟨rfl, rfl, rfl⟩
      · rw [List.mem_singleton.mp isNew] at isNid
        exact absurd isNid (by decide)
  · refine .application (by decide) (by decide)
      ⟨thisAppKey, List.mem_cons_self, rfl, thisAppKey.current, Or.inl rfl, rfl,
        rfl⟩ ?_
    intro appKey member _ parts copy isAid _
    rw [List.mem_singleton.mp member] at copy ⊢
    rcases copy with isCurrent | isNew
    · rw [isCurrent]
      exact ⟨rfl, rfl⟩
    · rw [isNew] at isAid
      exact absurd isAid (by decide)

end Meshctl.Net
