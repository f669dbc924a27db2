import Meshctl.Crypto.PacketBuffers
import Meshctl.Net.DecodedPacket
import Meshctl.Net.PacketBounds
import Meshctl.Net.PacketRoundTrip
import Meshctl.Net.SegmentGrouping

/-! # Packets on the way

What a packet is written as, and what a receiver that knows its key decodes it
to. Whatever follows the packet in the buffer of the receiver does not matter.
-/

namespace Meshctl.Net

open Bytes Crypto

/-! ## Keys that are found -/

section Search

variable {env : DecodeEnv}

theorem netPacketDecode_fold (netKeys : List MeshNetKey) (rx : RxPacket) :
    netPacketDecode env netKeys rx = (keyCopies netKeys).foldl
      (fun decode copy => decode.tryPart env copy.1 copy.2) (.untried rx) := by
  rw [keyCopies, List.foldl_flatMap]
  rfl

/-- A packet that some copy decodes is decoded. -/
theorem foldl_tryPart_finds {decode : DecodeParams}
    (undecoded : decode.netKey = none) {copies : List (MeshNetKey × NetKeyParts)}
    {copy : MeshNetKey × NetKeyParts} (member : copy ∈ copies)
    (isNid : copy.2.nid = decode.nid)
    (decodes : (decode.attempt env copy.2).1 = true) :
    (copies.foldl (fun decode copy => decode.tryPart env copy.1 copy.2)
      decode).netKey ≠ none := by
  induction copies generalizing decode with
  | nil => cases member
  | cons first rest induction =>
      rw [List.foldl_cons]
      by_cases tries : decode.netKey.isNone ∧ first.2.nid = decode.nid
      · by_cases now : (decode.attempt env first.2).1 = true
        · have tried := @tryPart_decodes env decode first.1 first.2 tries now
          rw [foldl_tryPart_decoded (by rw [tried]; simp), tried]
          simp
        · have tried := @tryPart_fails env decode first.1 first.2 tries now
          have later : copy ∈ rest := by
            refine (List.mem_cons.mp member).resolve_left fun isFirst => ?_
            exact now (isFirst ▸ decodes)
          rw [tried]
          exact induction undecoded later isNid decodes
      · have skipped : decode.tryPart env first.1 first.2 = decode :=
          if_neg tries
        have later : copy ∈ rest := by
          refine (List.mem_cons.mp member).resolve_left fun isFirst => ?_
          exact tries ⟨Option.isNone_iff_eq_none.mpr undecoded, isFirst ▸ isNid⟩
        rw [skipped]
        exact induction undecoded later isNid decodes

/-- Only copies with the identifier are tried. -/
theorem nid_of_mem_triedParts {decodes : NetKeyParts → Bool} {nid : Byte}
    {copies : List (MeshNetKey × NetKeyParts)} {parts : NetKeyParts}
    (member : parts ∈ triedParts decodes nid copies) : parts.nid = nid := by
  induction copies with
  | nil => cases member
  | cons first rest induction =>
      rw [triedParts] at member
      split at member
      next isNid =>
        split at member
        · exact List.mem_singleton.mp member ▸ isNid
        · rcases List.mem_cons.mp member with isFirst | later
          · exact isFirst ▸ isNid
          · exact induction later
      next => exact induction member

end Search

/-! ## The header of a packet -/

section Header

variable {sar : MeshSarMsg} {seg nid : Byte} {seq : U32}

theorem get_setPktSeq_first {packet : List Byte} (long : 5 ≤ packet.length)
    (value : U32) : get (setPktSeq packet value) 1 = get packet 1 := by
  generalize isWord : ((get packet 1).setWidth 32 <<< 24) +
    (value &&& 0xffffff) = word
  have high : get (putBe32 word packet 1) 1 =
      (word.extractLsb' 16 16).extractLsb' 8 8 := by
    rw [putBe32, get_putBe16_ne (by omega), get_putBe16_high (by omega)]
  have bound := (get packet 1).isLt
  have isNat : word.toNat = (get packet 1).toNat * 2 ^ 24 +
      value.toNat % 2 ^ 24 := by
    rw [← isWord, BitVec.toNat_add, toNat_and_seqMask, BitVec.toNat_shiftLeft,
      Nat.shiftLeft_eq, BitVec.toNat_setWidth]
    omega
  rw [setPktSeq, isWord, high]
  apply BitVec.eq_of_toNat_eq
  rw [BitVec.extractLsb'_toNat, BitVec.extractLsb'_toNat,
    Nat.shiftRight_eq_div_pow, Nat.shiftRight_eq_div_pow, isNat]
  omega

/-- The first octet names the key and the parity of the IV index. -/
theorem get_segmentPdu_nid : get (segmentPdu sar seg nid seq).1 0 =
    (nid &&& 0x7f) ||| if sar.ivIndex &&& 1 ≠ 0 then 0x80 else 0 := by
  have first : get (segmentNetworkHeader sar nid seq) 0 =
      get (setPktIvi (setPktNid (List.replicate 29 0) nid)
        (sar.ivIndex &&& 1 ≠ 0)) 0 := by
    simp only [segmentNetworkHeader, setPktOpcode, setPktAkfAid,
      setPktSegmented, setPktDst, setPktSrc, setPktSeq, putBe32, setPktTtl,
      setPktCtl]
    split <;> rw [get_setBits_ne (by omega), get_setBits_ne (by omega),
      get_putBe16_ne (by omega), get_putBe16_ne (by omega),
      get_putBe16_ne (by omega), get_putBe16_ne (by omega),
      get_setBits_ne (by omega), get_setBits_ne (by omega)]
  rw [get_segmentPdu_network (by omega), first, setPktIvi,
    get_setBits_self (by simp [setPktNid]), setPktNid,
    get_setBits_self (by simp), get_replicate_zero]
  simp

/-- The second octet has the control flag over the TTL. -/
theorem get_segmentPdu_ttl : get (segmentPdu sar seg nid seq).1 1 =
    (if sar.ctl then 0x80 else 0) ||| sar.ttl := by
  have second : get (segmentNetworkHeader sar nid seq) 1 =
      get (setPktSeq (setPktTtl (setPktCtl (setPktIvi (setPktNid
        (List.replicate 29 0) nid) (sar.ivIndex &&& 1 ≠ 0)) sar.ctl) sar.ttl)
        seq) 1 := by
    simp only [segmentNetworkHeader, setPktOpcode, setPktAkfAid,
      setPktSegmented, setPktDst, setPktSrc]
    split <;> rw [get_setBits_ne (by omega), get_setBits_ne (by omega),
      get_putBe16_ne (by omega), get_putBe16_ne (by omega)]
  rw [get_segmentPdu_network (by omega), second,
    get_setPktSeq_first (by simp [setPktTtl, setPktCtl, setPktIvi, setPktNid]),
    setPktTtl, get_setBits_self (by simp [setPktCtl, setPktIvi, setPktNid]),
    setPktCtl, get_setBits_self (by simp [setPktIvi, setPktNid]), setPktIvi,
    get_setBits_ne (by omega), setPktNid, get_setBits_ne (by omega),
    get_replicate_zero]
  cases sar.ctl <;> simp

theorem pktCtl_segmentPdu (small : sar.ttl.toNat < 0x80) :
    pktCtl (segmentPdu sar seg nid seq).1 = sar.ctl := by
  have clear : sar.ttl &&& 0x80 = 0 := by
    have high : sar.ttl[7] = false := by
      rw [BitVec.getElem_eq_testBit_toNat]
      exact Nat.testBit_lt_two_pow small
    ext index inRange
    interval_cases index <;> simp [high]
  rw [pktCtl, get_segmentPdu_ttl]
  cases sar.ctl with
  | false =>
      have low : (0 ||| sar.ttl : Byte) = sar.ttl := BitVec.zero_or
      rw [if_neg (by decide), low, clear]
      rfl
  | true =>
      have flag : ((0x80 ||| sar.ttl) &&& 0x80 : Byte) = 0x80 := by
        ext index inRange
        interval_cases index <;> simp
      rw [if_pos rfl, flag]
      rfl

/-- The octet in front of a message that is not segmented. -/
theorem get_segmentPdu_unsegmented (access : sar.ctl = false)
    (unsegmented : sar.segmented = false) :
    get (segmentPdu sar seg nid seq).1 9 = sar.akfAid := by
  rw [get_segmentPdu_network (by omega), segmentNetworkHeader]
  simp only [access, unsegmented, Bool.false_eq_true, if_false]
  rw [setPktAkfAid, get_setBits_self (by simp [setPktSegmented, setPktDst,
      setPktSrc, setPktSeq, setPktTtl, setPktCtl, setPktIvi, setPktNid]),
    setPktSegmented, get_setBits_self (by simp [setPktDst, setPktSrc,
      setPktSeq, setPktTtl, setPktCtl, setPktIvi, setPktNid])]
  generalize get _ 9 = old
  have noFlag : ((old &&& 0x7f) ||| 0) &&& 0x80 = 0 := by
    ext index inRange
    interval_cases index <;> simp
  rw [if_neg (by decide), noFlag]
  exact BitVec.zero_or

/-- The message itself follows that octet. -/
theorem get_segmentPdu_message (access : sar.ctl = false)
    (unsegmented : sar.segmented = false) {index : Nat} (inside : index < 15) :
    get (segmentPdu sar seg nid seq).1 (10 + index) = get sar.data index := by
  simp only [segmentPdu, unsegmented, Bool.false_eq_true, if_false]
  rw [get_splice_inside (by simp; omega) (by omega) (by simp; omega),
    get_slice (by omega), ctlOffset, access]
  congr 1
  simp

end Header

/-! ## What is written -/

section Wire

variable (aes : Key → AesBlock → AesBlock) (stale : AesBlock)

/-- An environment that secures packets and payloads as `crypto.c` does. -/
def securedEnv (env : NetEnv) : NetEnv :=
  { cryptoEnv aes stale env with
    packetEncode := fun packet len encKey ivIndex privacyKey =>
      (packetEncode aes stale packet len encKey ivIndex privacyKey).2 }

/-- What is passed to the connection for a packet of the network. -/
def BuiltPkt.wire (parts : NetKeyParts) (pkt : BuiltPkt) : List Byte :=
  proxyNetworkPdu ::
    (packetEncode aes stale pkt.plain pkt.len parts.encKey pkt.sar.ivIndex
      parts.privacyKey).2.take pkt.len.toNat

/-- How a receiver takes that packet, with anything behind it. -/
def BuiltPkt.received (parts : NetKeyParts) (pkt : BuiltPkt)
    (rest : List Byte) : RxPacket where
  proxy := false
  ivIndex := pkt.sar.ivIndex
  packet := (pkt.wire aes stale parts).drop 1 ++ rest
  size := pkt.len

end Wire

/-- A packet of an access message, with a header that has room for its
fields. -/
structure Carried (parts : NetKeyParts) (pkt : BuiltPkt) : Prop where
  record : AccessRecord pkt.sar
  inMessage : pkt.seg.toNat ≤ pkt.sar.segN.toNat
  ttl : pkt.sar.ttl.toNat < 0x80
  source : isUnicast pkt.sar.src = true
  nid : pkt.nid = parts.nid
  short : parts.nid.toNat < 0x80

/-- A decoded packet, but for its MIC. -/
structure DecodedAs (pkt : BuiltPkt) (msg : List Byte) : Prop where
  long : pkt.len.toNat ≤ msg.length
  same : ∀ index < pkt.len.toNat - 4, get msg index = get pkt.plain index

/-- Whatever key the receiver finds the packet with is that of the sender. -/
structure FoundWith (env : DecodeEnv) (netKeys : List MeshNetKey)
    (parts : NetKeyParts) (netIdx : U16) (packet : RxPacket) : Prop where
  known : ∃ copy ∈ keyCopies netKeys, copy.2.nid = parts.nid ∧
    copy.2.encKey = parts.encKey ∧ copy.2.privacyKey = parts.privacyKey
  only : ∀ copy ∈ keyCopies netKeys, copy.2.nid = parts.nid →
    (decodeAttempt env packet copy.2).1 = true → copy.1.idx = netIdx ∧
      copy.2.encKey = parts.encKey ∧ copy.2.privacyKey = parts.privacyKey

section Carried

variable {aes : Key → AesBlock → AesBlock} {stale stale' : AesBlock}
  {parts : NetKeyParts} {pkt : BuiltPkt}

/-- `send_seg` queues what is written, in a buffer with room behind it. -/
theorem sendSeg_wire {env : NetEnv} {cmplt : Completion} {sar : MeshSarMsg}
    {seg : Byte} {st : NetState} {netKey : MeshNetKey}
    (known : st.findNetKeyByIdx sar.netIdx = some netKey)
    (notProxy : sar.proxy = false) (record : AccessRecord sar)
    (inMessage : seg.toNat ≤ sar.segN.toNat) :
    ∃ queued : MeshPkt,
      sendSeg (securedEnv aes stale env) cmplt sar seg st =
        sendMeshPkt (securedEnv aes stale env) cmplt queued
          (recordBuilt sar seg netKey.sendPart.nid st).2 ∧
      queued.data.take queued.len.toNat =
        (recordBuilt sar seg netKey.sendPart.nid st).1.wire aes stale
          netKey.sendPart := by
  rw [sendSeg, known]
  dsimp only
  refine ⟨_, rfl, ?_⟩
  rcases recordBuilt_eq sar seg netKey.sendPart.nid st with ⟨_, _, equal⟩
  rw [equal]
  dsimp only
  generalize isBuilt : (⟨sar, seg, netKey.sendPart.nid, st.seqNum,
    st.restartedAt⟩ : BuiltPkt) = built
  have len : 18 ≤ built.len.toNat ∧ built.len.toNat ≤ 29 := by
    rw [← isBuilt]
    exact (SentRecord.len_exact (Or.inr record) inMessage).2
  have next : (built.len + 1).toNat = built.len.toNat + 1 := by
    have one : (1 : Byte).toNat = 1 := rfl
    rw [BitVec.toNat_add, one]
    omega
  have isSar : built.sar = sar := by rw [← isBuilt]
  rw [next, notProxy, if_neg (by decide), List.take_succ_cons, BuiltPkt.wire,
    isSar]
  rfl

namespace Carried

theorem len (carried : Carried parts pkt) :
    18 ≤ pkt.len.toNat ∧ pkt.len.toNat ≤ 29 :=
  (SentRecord.len_exact (Or.inr carried.record) carried.inMessage).2

theorem length_front (carried : Carried parts pkt) :
    (pkt.plain.take pkt.len.toNat).length = pkt.len.toNat := by
  have len := carried.len
  have length : pkt.plain.length = 29 := length_segmentPdu _ _ _ _
  rw [List.length_take]
  omega

theorem ctl (carried : Carried parts pkt) : pktCtl pkt.plain = false := by
  rw [BuiltPkt.plain, pktCtl_segmentPdu carried.ttl]
  exact carried.record.access

theorem packetCtl_front (carried : Carried parts pkt) :
    packetCtl (pkt.plain.take pkt.len.toNat) = false := by
  have len := carried.len
  rw [packetCtl, get_take (by omega)]
  exact carried.ctl

/-- The packet that is written is sealed, and its header hidden. -/
theorem wire_eq (carried : Carried parts pkt) :
    let front := pkt.plain.take pkt.len.toNat
    let sent := sealedPacket aes front false parts.encKey pkt.sar.ivIndex
    (pkt.wire aes stale parts).drop 1 =
      hidden (privacyPad aes parts.privacyKey pkt.sar.ivIndex sent) sent := by
  have ⟨long, short⟩ := carried.len
  have length : pkt.plain.length = 29 := length_segmentPdu _ _ _ _
  have front := carried.length_front
  have isLen : BitVec.ofNat 8 pkt.len.toNat = pkt.len := by
    rw [BitVec.ofNat_toNat, BitVec.setWidth_eq]
  have taken := @packetEncode_take aes stale pkt.plain pkt.len.toNat
    parts.encKey parts.privacyKey pkt.sar.ivIndex (by omega) (by omega)
    (by omega)
  have encoded := @packetEncode_eq aes stale (pkt.plain.take pkt.len.toNat)
    parts.encKey pkt.sar.ivIndex parts.privacyKey (by omega) (by omega)
  have sameSealed : ∀ proxy, sealedPacket aes (pkt.plain.take pkt.len.toNat)
      proxy parts.encKey pkt.sar.ivIndex =
      sealedPacket aes (pkt.plain.take pkt.len.toNat) false parts.encKey
        pkt.sar.ivIndex := by
    intro proxy
    rw [sealedPacket, sealedPacket, networkNonce, networkNonce,
      carried.packetCtl_front, Bool.false_and]
    rfl
  dsimp only at encoded ⊢
  rw [front, isLen] at encoded
  rw [isLen] at taken
  rw [BuiltPkt.wire, List.drop_succ_cons, List.drop_zero, taken, encoded,
    sameSealed]

theorem length_wire (carried : Carried parts pkt) :
    ((pkt.wire aes stale parts).drop 1).length = pkt.len.toNat := by
  rw [carried.wire_eq, length_hidden, length_sealedPacket, carried.length_front]

/-- The first octet is not hidden. -/
theorem get_wire_first (carried : Carried parts pkt) (rest : List Byte) :
    get ((pkt.wire aes stale parts).drop 1 ++ rest) 0 =
      parts.nid ||| if pkt.sar.ivIndex &&& 1 ≠ 0 then 0x80 else 0 := by
  have len := carried.len
  have front := carried.length_front
  have mask : parts.nid &&& 0x7f = parts.nid := by
    have isMask : (0x7f : Byte).toNat = 2 ^ 7 - 1 := rfl
    apply BitVec.eq_of_toNat_eq
    rw [BitVec.toNat_and, isMask, Nat.and_two_pow_sub_one_eq_mod]
    exact Nat.mod_eq_of_lt carried.short
  rw [get_append_left (by rw [carried.length_wire]; omega), carried.wire_eq,
    get_hidden (by rw [length_sealedPacket]; omega), if_neg (by omega),
    get_sealedPacket_header (by omega), get_take (by omega), BuiltPkt.plain,
    get_segmentPdu_nid, carried.nid, mask]

/-! ## What is decoded -/

theorem rxPacket_wire (carried : Carried parts pkt) {receiverIv : U32}
    (receiver : receiverIv = pkt.sar.ivIndex ∨
      receiverIv.toNat = pkt.sar.ivIndex.toNat + 1) (rest : List Byte) :
    rxPacket receiverIv (pkt.wire aes stale parts ++ rest) (pkt.len + 1) =
      some (pkt.received aes stale parts rest) := by
  have ⟨long, short⟩ := carried.len
  have one : (1 : Byte).toNat = 1 := rfl
  have next : (pkt.len + 1).toNat = pkt.len.toNat + 1 := by
    rw [BitVec.toNat_add, one]
    omega
  have type : get (pkt.wire aes stale parts ++ rest) 0 = proxyNetworkPdu := rfl
  have behind : (pkt.wire aes stale parts ++ rest).drop 1 =
      (pkt.wire aes stale parts).drop 1 ++ rest := rfl
  have high : parts.nid[7] = false := by
    rw [BitVec.getElem_eq_testBit_toNat]
    exact Nat.testBit_lt_two_pow carried.short
  have ivi : get ((pkt.wire aes stale parts).drop 1 ++ rest) 0 &&& 0x80 ≠ 0 ↔
      pkt.sar.ivIndex &&& 0x01 ≠ 0 := by
    rw [carried.get_wire_first]
    by_cases odd : pkt.sar.ivIndex &&& 1 ≠ 0
    · have flag : ((parts.nid ||| 0x80) &&& 0x80 : Byte) = 0x80 := by
        ext index inRange
        interval_cases index <;> simp
      rw [if_pos odd, flag]
      exact iff_of_true (by decide) odd
    · have clear : ((parts.nid ||| 0) &&& 0x80 : Byte) = 0 := by
        ext index inRange
        interval_cases index <;> simp [high]
      rw [if_neg odd, clear]
      exact iff_of_false (by decide) odd
  rw [rxPacket, type, behind, rxIvIndex_eq ivi receiver,
    if_neg (by rw [next]; simp [proxyNetworkPdu, proxyMeshBeacon,
      proxyConfigPdu]; omega), Option.map_some, BitVec.add_sub_cancel]
  rfl

/-- A copy of the key decodes the packet. -/
theorem decodeAttempt_wire (carried : Carried parts pkt) {env : DecodeEnv}
    {copy : NetKeyParts} (encKey : copy.encKey = parts.encKey)
    (privacyKey : copy.privacyKey = parts.privacyKey) (rest : List Byte) :
    let packet := pkt.received env.aes stale parts rest
    let decoded := decodeAttempt env packet copy
    decoded.1 = true ∧
      DecodedAs pkt (splice packet.packet 0
        (slice decoded.2.bytes 0 packet.size.toNat)) := by
  have ⟨long, short⟩ := carried.len
  have front := carried.length_front
  have isLen : BitVec.ofNat 8 pkt.len.toNat = pkt.len := by
    rw [BitVec.ofNat_toNat, BitVec.setWidth_eq]
  have wireLength := @length_wire env.aes stale parts pkt carried
  have source : getBe16 (pkt.plain.take pkt.len.toNat) 5 = pkt.sar.src := by
    rw [getBe16, get_take (by omega), get_take (by omega)]
    exact pktSrc_segmentPdu pkt.sar pkt.seg pkt.nid pkt.seq
  have legal : getBe16 (pkt.plain.take pkt.len.toNat) 5 ≠ 0 ∧
      getBe16 (pkt.plain.take pkt.len.toNat) 5 < 0x8000 := by
    have unicast := carried.source
    rw [isUnicast, Bool.and_eq_true, decide_eq_true_eq, decide_eq_true_eq]
      at unicast
    rw [source, BitVec.lt_def]
    exact ⟨fun zero => by simp [zero] at unicast, unicast.2⟩
  have micSize : netMicSize (pkt.plain.take pkt.len.toNat) = 4 := by
    rw [netMicSize, carried.packetCtl_front]
    rfl
  intro packet decoded
  have whole : packet.packet.take pkt.len.toNat =
      (pkt.wire env.aes stale parts).drop 1 := by
    change ((pkt.wire env.aes stale parts).drop 1 ++ rest).take _ = _
    rw [← wireLength, List.take_left']
    rfl
  have taken := @packetDecode_take env.aes env.stale packet.packet
    pkt.len.toNat false copy.encKey copy.privacyKey pkt.sar.ivIndex (by omega)
    (by omega) ⟨env.tmp.bytes, []⟩
  have opened := @packetDecode_sealed env.aes env.stale
    (pkt.plain.take pkt.len.toNat) false parts.encKey pkt.sar.ivIndex
    parts.privacyKey (by omega) (by omega) ⟨env.tmp.bytes, []⟩
    (by rw [env.tmp.sized]; omega) legal
  dsimp only at opened
  rw [← @wire_eq env.aes stale parts pkt carried, front, isLen, micSize]
    at opened
  rw [whole, encKey, privacyKey, isLen] at taken
  rw [taken] at opened
  have isDecoded : decoded = packetDecode env.aes env.stale packet.packet
      pkt.len false ⟨env.tmp.bytes, []⟩ pkt.sar.ivIndex parts.encKey
      parts.privacyKey := by
    rw [← encKey, ← privacyKey]
    rfl
  have longer : pkt.len.toNat ≤ packet.packet.length := by
    change _ ≤ ((pkt.wire env.aes stale parts).drop 1 ++ rest).length
    rw [List.length_append, wireLength]
    omega
  rw [isDecoded]
  refine ⟨opened.1, ?_, ?_⟩
  · rw [length_splice]
    exact longer
  · intro index inside
    change get (splice packet.packet 0 (slice _ 0 pkt.len.toNat)) index = _
    rw [opened.2, get_splice_inside (by omega) (by omega)
      (by rw [length_splice, front]; omega), Nat.sub_zero,
      get_splice_outside (Or.inl inside),
      get_take (Nat.lt_of_lt_of_le inside (Nat.sub_le _ _))]

/-- The receiver decodes the packet, and knows which network it is of. -/
theorem netPacketDecode_wire (carried : Carried parts pkt) {env : DecodeEnv}
    {netKeys : List MeshNetKey} {netIdx : U16} {rest : List Byte}
    (found : FoundWith env netKeys parts netIdx
      (pkt.received env.aes stale parts rest)) :
    let decode :=
      netPacketDecode env netKeys (pkt.received env.aes stale parts rest)
    ∃ netKey, decode.netKey = some netKey ∧ netKey.idx = netIdx ∧
      DecodedAs pkt decode.packet := by
  intro decode
  have first : (DecodeParams.untried
      (pkt.received env.aes stale parts rest)).nid = parts.nid := by
    change get ((pkt.wire env.aes stale parts).drop 1 ++ rest) 0 &&& 0x7f = _
    have high : parts.nid[7] = false := by
      rw [BitVec.getElem_eq_testBit_toNat]
      exact Nat.testBit_lt_two_pow carried.short
    rw [carried.get_wire_first]
    split <;> (ext index inRange; interval_cases index <;> simp [high])
  rcases found.known with ⟨copy, member, isNid, encKey, privacyKey⟩
  have opens := @decodeAttempt_wire stale parts pkt carried env copy.2 encKey
    privacyKey rest
  have finds := foldl_tryPart_finds rfl member (isNid.trans first.symm) opens.1
  rw [← netPacketDecode_fold] at finds
  rcases (netPacketDecode_searched netKeys
    (pkt.received env.aes stale parts rest)).found with
    none | ⟨used, isCopy, tried, decodes, isKey, packet⟩
  · exact absurd none finds
  · have usedNid := (nid_of_mem_triedParts tried).trans first
    rcases found.only used isCopy usedNid decodes with
      ⟨isIdx, usedEnc, usedPrivacy⟩
    refine ⟨used.1, isKey, isIdx, ?_⟩
    rw [show decode.packet = _ from packet]
    exact (@decodeAttempt_wire stale parts pkt carried env used.2 usedEnc
      usedPrivacy rest).2

end Carried

end Carried

end Meshctl.Net
